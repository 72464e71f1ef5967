import Refinery.Template.Test

namespace Refinery.Template.Render

/-!
# Evaluating expressions

An expression is evaluated in a frame.
-/

def noConstant : Failure := .template .misuse

/-! ## Constants -/

mutual

def atoms : Doc -> List Doc
  | .list items | .tuple items => atomsOfAll items
  | .map fields => atomsOfFields fields
  | doc => [doc]

def atomsOfAll : List Doc -> List Doc
  | [] => []
  | item :: rest => atoms item ++ atomsOfAll rest

def atomsOfFields : List (Doc × Doc) -> List Doc
  | [] => []
  | (key, value) :: rest => atoms key ++ atoms value ++ atomsOfFields rest

end

def hasUnwritable (doc : Doc) : Bool :=
  (atoms doc).any fun
    | .real x => !x.isFinite
    | _ => false

mutual

def ofConstant : Doc -> Render Entity
  | .list items => do newList (<- ofConstants items)
  | .tuple items => return .tuple (<- ofConstants items)
  | .map fields => do newMap (<- ofConstantFields fields)
  | doc => return Entity.ofAtom doc

def ofConstants : List Doc -> Render (List Entity)
  | [] => return []
  | item :: rest => return (<- ofConstant item) :: (<- ofConstants rest)

def ofConstantFields : List (Doc × Doc) -> Render (List (Entity × Entity))
  | [] => return []
  | (key, value) :: rest =>
    return (<- ofConstant key, <- ofConstant value) :: (<- ofConstantFields rest)

end

/-! ## Names -/

variable (e : Engine)

def global? (name : String) : Option Entity :=
  if ["range", "dict", "cycler", "joiner", "namespace"].contains name then some (.kind name)
  else if name = "lipsum" || (e.functions.lookup name).isSome then some (.function name)
  else none

def resolve (number : Nat) (name : String) : Render (Option Entity) := do
  let context <- context number
  return context.own.lookup name <|> context.given.lookup name <|> global? e name

/-! ## Arguments -/

def named (arguments : List (String × Entity)) : List (String × Entity) :=
  arguments.foldl (fun done (name, value) =>
    if done.any fun (other, _) => other == name then
      done.map fun (other, before) => (other, if other == name then value else before)
    else done ++ [(name, value)]) []

def spreadNamed (value : Entity) : Render (List (String × Entity)) := do
  if value.isUndefined then throw missing
  let some (.map pairs) <- cellOf? value | throw .wrongKind
  pairs.mapM fun (key, value) => return (<- key.needText, value)

variable (frame : Frame)

def arguments (given : Given Expr) : Render (Arguments Entity) := do
  let placed <- given.placed.mapM (e.eval frame)
  let spread <- given.spread.toList.mapM fun source => do items e (<- e.eval frame source)
  let byName <- given.named.mapM fun (name, value) => return (name, <- e.eval frame value)
  let more <- given.spreadNamed.toList.mapM fun source => do spreadNamed (<- e.eval frame source)
  let more := more.flatten
  if more.any fun (name, _) => byName.any fun (other, _) => other == name then throw .wrongKind
  return { placed := placed ++ spread.flatten, named := named (byName ++ more) }

/-! ## Texts -/

def concatenated (safe : Bool) (parts : List Entity) : Render Entity := do
  if safe && parts.any isEscaped then
    return .markup (String.join (<- parts.mapM escaped))
  else return .text (String.join (<- parts.mapM display))

/-! ## Expressions -/

def itemOf (target : Entity) (index : Expr) : Render Entity := do
  match index with
  | .slice start stop step =>
    let part (expr : Option Expr) : Render Entity := expr.elim (return .null) (e.eval frame)
    let start <- part start
    let stop <- part stop
    let step <- part step
    if !frame.constant then slice target start stop step
    else
      tryCatch (slice target start stop step) fun failure =>
        if failure = .wrongKind then return .undefined else throw failure
  | _ => item e target (<- e.eval frame index)

def compareAll (e : Engine) (frame : Frame) : Entity -> List (Comparison × Expr) -> Render Entity
  | _, [] => return .bool true
  | left, (comparison, right) :: rest => do
    let right <- e.eval frame right
    if <- compare e comparison left right then compareAll e frame right rest else return .bool false

def filtered (name : String) (target : Option Expr)
    (given : Given Expr) : Render Entity := do
  if frame.constant && (Filter.needsContext name || frame.escaping.asked) then throw noConstant
  let value <- match target with
    | some target => e.eval frame target
    | none =>
      if frame.constant then throw noConstant
      let (text, safe) := frame.sectionText
      pure (textOf safe text)
  let arguments <- arguments e frame given
  if Filter.names.contains name then e.filter frame.context name value arguments
  else if arguments.named.isEmpty then throw (.template .misuse)
  else throw .wrongKind

def tested (name : String) (target : Expr) (given : Given Expr) :
    Render Entity := do
  if frame.constant && frame.escaping.asked then throw noConstant
  let value <- e.eval frame target
  let arguments <- arguments e frame given
  if frame.constant && name = "sameas" then
    return .bool (value.same false (argument (<- arguments.bind ["other"] 1) 0 .null))
  else if Test.names.contains name then
    return .bool (<- e.test frame.context name value arguments)
  else if arguments.named.isEmpty then throw (.template .misuse)
  else throw .wrongKind

def nameIn (name : String) : Render Entity := do
  if frame.constant then throw noConstant
  match frame.scope.slot? name with
  | some slot => return (<- readSlot frame slot).getD .undefined
  | none => throw .unmetAssumption

def eval (e : Engine) (frame : Frame) : Expr -> Render Entity
  | .const value =>
    if !frame.constant && hasUnwritable value then throw .unboundName else ofConstant value
  | .name own => nameIn frame own
  | .tuple items => do return .tuple (<- items.mapM (e.eval frame))
  | .list items => do newList (<- items.mapM (e.eval frame))
  | .map pairs => do
    mapOf (<- pairs.mapM fun (key, value) => do return (<- e.eval frame key, <- e.eval frame value))
  | .member target own => do member e (<- e.eval frame target) own
  | .item target index => do itemOf e frame (<- e.eval frame target) index
  | .slice _ _ _ => return .function "slice"
  | .call function given => do
    if frame.constant then throw noConstant
    let function <- e.eval frame function
    e.call frame.context function (<- arguments e frame given)
  | .filter own target given => filtered e frame own target given
  | .test own target given => tested e frame own target given
  | .negative target => do (<- e.eval frame target).negative
  | .positive target => do (<- e.eval frame target).positive
  | .binary operation left right => do
    let left <- e.eval frame left
    binary operation left (<- e.eval frame right)
  | .both left right => do
    let left <- e.eval frame left
    if <- truthy left then e.eval frame right else return left
  | .either left right => do
    let left <- e.eval frame left
    if <- truthy left then return left else e.eval frame right
  | .not target => do return .bool !(<- truthy (<- e.eval frame target))
  | .compare first rest => do compareAll e frame (<- e.eval frame first) rest
  | .concat parts => do
    let safe := !frame.constant && !frame.escaping.asked && frame.escaping.on
    concatenated safe (<- parts.mapM (e.eval frame))
  | .choose condition yes no => do
    if <- truthy (<- e.eval frame condition) then e.eval frame yes
    else
      match no with
      | some no => e.eval frame no
      | none => if frame.constant then throw noConstant else return .undefined

end Refinery.Template.Render
