import Refinery.Template.Member

namespace Refinery.Template

/-!
# Going through items

An iteration is a cell with a state; each step takes one item from it.
-/

/-!
## What the parts of the engine need from each other

Each part is written for an `Engine`, which stands for all parts, and may use it for smaller tasks only.  The
engine is made of the parts step by step, from one that refuses everything.
-/

structure Engine where
  functions : List (String × (Arguments Value -> Job Value))
  load : String -> Render Sheet
  next : Nat -> Render (Option Entity)
  call : (context : Nat) -> Entity -> Arguments Entity -> Render Entity
  filter : (context : Nat) -> String -> Entity -> Arguments Entity -> Render Entity
  test : (context : Nat) -> String -> Entity -> Arguments Entity -> Render Bool
  eval : Frame -> Expr -> Render Entity
  exec : Frame -> List Piece -> Render Unit
  sheet : Sheet -> (context : Nat) -> Render Unit

namespace Arguments

def positional (a : Arguments Entity) (least most : Nat) : Except Failure (List Entity) :=
  if a.named.isEmpty && least ≤ a.placed.length && a.placed.length ≤ most then .ok a.placed
  else .error .wrongKind

/-- Arguments for parameters with names, by place or by name.  The first `required` ones must be
there. -/
def bind (a : Arguments Entity) (names : List String) (required : Nat := 0) :
    Except Failure (List (Option Entity)) := do
  if names.length < a.placed.length then throw .wrongKind
  let byName := names.drop a.placed.length
  if a.named.any fun (name, _) => !byName.contains name then throw .wrongKind
  let found := a.placed.map some ++ byName.map fun name => a.named.lookup name
  if (found.take required).any Option.isNone then throw .wrongKind
  return found

def leading (a : Arguments Entity) (most : Nat) : Except Failure (Entity × List Entity) := do
  let first :: rest <- a.positional 1 most | throw .wrongKind
  return (first, rest)

def single (a : Arguments Entity) : Except Failure Entity :=
  return (<- a.leading 1).1

def nothing (a : Arguments Entity) : Except Failure Unit :=
  discard (a.positional 0 0)

end Arguments

def argument (bound : List (Option Entity)) (place : Nat) (usual : Entity) : Entity :=
  (bound[place]?.join).getD usual

def argumentOr (bound : List (Option Entity)) (place : Nat) (usual : Entity) : Entity :=
  let found := argument bound place usual
  if found.isNull then usual else found

namespace Render

def flag (bound : List (Option Entity)) (place : Nat) (usual : Bool) : Render Bool :=
  truthy (argument bound place (.bool usual))

def manyItems : Nat := 1000000000

/-! ## All items -/

def iterate (entity : Entity) : Render Nat := do
  let start (state : Iteration) : Render Nat := newCell (.iteration state)
  match entity with
  | .undefined => start (.rest [])
  | .text s | .markup s => start (.rest (s.toList.map fun c => .text (String.singleton c)))
  | .bytes b => start (.rest (b.toList.map fun n => .int n.toNat))
  | .atom (.set items) => start (.rest (items.map Entity.ofAtom))
  | .range first stop step => start (.numbers first (Entity.rangeLength first stop step) step)
  | .view shape map => start (.entries shape map (Entity.pairsOf (<- store) map).length 0)
  | .blocks _ => throw (.noKey "0")
  | .cell number =>
    match <- cell? number with
    | some (.list _) => start (.places number 0)
    | some (.map pairs) => start (.entries .keys number pairs.length 0)
    | some (.iteration _) | some (.loop _) => return number
    | _ => throw .wrongKind
  | _ =>
    match entity.tuple? with
    | some items => start (.rest items)
    | none => throw .wrongKind

def gather (next : Nat -> Render (Option Entity)) (iteration : Nat) :
    (fuel : Nat) -> (done : Array Entity) -> Render (List Entity)
  | 0, _ => throw .unsupported
  | fuel + 1, done => do
    match <- next iteration with
    | some item => gather next iteration fuel (done.push item)
    | none => return done.toList

variable (e : Engine)

def items (entity : Entity) : Render (List Entity) := do
  match entity.tuple?, <- cellOf? entity with
  | some items, _ => return items
  | none, some (.list items) => return items.toList
  | none, _ => gather e.next (<- iterate entity) manyItems #[]

def unpack (count : Nat) (entity : Entity) : Render (List Entity) := do
  let iteration <- iterate entity
  let rec take : Nat -> Render (List Entity)
    | 0 => do
      if (<- e.next iteration).isSome then throw .badValue
      return []
    | n + 1 => do
      let some item <- e.next iteration | throw .badValue
      return item :: (<- take n)
  take count

/-! ## Loops -/

def advance (number : Nat) : Render (Option Entity) := do
  let some (.loop state) <- cell? number | return none
  let item <- if state.after.isSome then pure state.after else e.next state.iteration
  match item, <- cell? number with
  | some item, some (.loop state) =>
    setCell number (.loop { state with
      after := none, taken := state.taken + 1, before := state.current, current := some item })
    return some item
  | _, _ => return none

def loopLength (number : Nat) : Render Nat := do
  let some (.loop state) <- cell? number | return 0
  let keep (state : Loop) (length : Nat) : Render Nat := do
    setCell number (.loop { state with length := some length })
    return length
  match state.length, state.source.length? (<- store) with
  | some length, _ => return length
  | none, some length => keep state length
  | none, none =>
    let rest <- gather e.next state.iteration manyItems #[]
    let length := rest.length + state.taken + (if state.after.isSome then 1 else 0)
    let iteration <- newCell (.iteration (.rest rest))
    keep { state with iteration } length

/-! ## Members and items by name -/

def attribute? (entity : Entity) (name : String) : Render (Option Entity) := do
  let found <- match entity, <- cellOf? entity with
    | .undefined, _ => throw missing
    | .block own context level, _ =>
      if name = "super" then
        let bodies := ((<- Render.context context).blocks.lookup own).getD []
        pure (some (if level + 1 < bodies.length then .block own context (level + 1) else .undefined))
      else pure none
    | _, some (.space pairs) => lookup (.text name) pairs
    | .cell number, some (.loop state) => loopProperty e.next (loopLength e) number state name
    | _, _ => pure none
  let store <- store
  match found, entity.property? store name with
  | some value, _ | none, some value => return some value
  | none, none =>
    if (entity.methods store).contains name then return some (.method entity name)
    else if name = "__class__" then return some (.kind (entity.kindName store))
    else return none

def member (entity : Entity) (name : String) : Render Entity := do
  if let some value <- attribute? e entity name then return value
  return (<- element? entity (.text name)).getD .undefined

def item (entity index : Entity) : Render Entity := do
  match <- element? entity index, index.text? with
  | some value, _ => return value
  | none, some name => return (<- attribute? e entity name).getD .undefined
  | none, none => return .undefined

def memberParts (written : Entity) : Render (List Entity) := do
  if written.isNull then return []
  let some s := written.text? | return [written]
  (Text.split "." s).mapM fun part =>
    if !part.isEmpty && part.toList.all Text.isAnyDigit then
      (Decimal.readWhole? 10 part).elim (throw .badValue) (return .int ·)
    else return .text part

def memberBy (usual : Entity) : List Entity -> Entity -> Render Entity
  | [], entity => return entity
  | part :: rest, entity => do
    let found <- item e entity part
    memberBy usual rest (if found.isUndefined && !usual.isNull then usual else found)

def ignoringCase : Entity -> Entity
  | .text s => .text (Text.lower s)
  | .markup s => .markup (Text.lower s)
  | entity => entity

def itemKey (parts : List Entity) (usual : Entity) (sensitive : Bool) (item : Entity) :
    Render Entity := do
  let key <- memberBy e usual parts item
  return if sensitive then key else ignoringCase key

/-! ## Targets -/

def setName (frame : Frame) (name : String) (value : Entity) : Render Unit := do
  if let some slot := frame.scope.slot? name then writeSlot frame slot (some value)

def bindNames (frame : Frame) : Target -> Entity -> Render Unit
  | .name name, value => setName frame name value
  | .field _ _, _ => pure ()
  | .several targets, value => do
    bindAll targets (<- unpack e targets.length value)
where
  bindAll : List Target -> List Entity -> Render Unit
    | target :: targets, value :: values => do
      bindNames frame target value
      bindAll targets values
    | _, _ => pure ()

mutual

def boundTo (frame : Frame) : Target -> Render Entity
  | .name name => do
    let some slot := frame.scope.slot? name | return .undefined
    return (<- readSlot frame slot).getD .undefined
  | .field _ _ => return .undefined
  | .several targets => return .tuple (<- boundToAll frame targets)

def boundToAll (frame : Frame) : List Target -> Render (List Entity)
  | [] => return []
  | target :: rest => return (<- boundTo frame target) :: (<- boundToAll frame rest)

end

/-! ## One step -/

def nameOf (name : Entity) : Render String := do
  if let some name := name.text? then return name
  if name.isKey (<- store) Entity.nesting then throw (.template .misuse) else throw .wrongKind

def mappingOf (arguments : Arguments Entity) : Render Mapping := do
  match arguments.placed, arguments.named.lookup "attribute" with
  | [], some path =>
    if arguments.named.any fun (name, _) => name != "attribute" && name != "default" then
      throw (.template .badArgument)
    return .members (<- memberParts path) ((arguments.named.lookup "default").getD .null)
  | [], none => throw (.template .badArgument)
  | name :: placed, _ => return .filter name { arguments with placed }

def portionsOf (items : List Entity) (count : Int) (fill : Entity) : List (List Entity) :=
  let size := Int.fdiv items.length count
  let extra := Int.fmod items.length count
  let rec cut (items : List Entity) : (left : Nat) -> (number : Int) -> List (List Entity)
    | 0, _ => []
    | left + 1, number =>
      let long := decide (number < extra)
      let length := (size + if long then 1 else 0).toNat
      let portion := items.take length ++ (if long || fill.isNull then [] else [fill])
      portion :: cut (items.drop length) left (number + 1)
  cut items count.toNat 0

def startFilter (filter : String) (value : Entity) (arguments : Arguments Entity)
    (context : Nat) : Render Iteration := do
  let argument (place : Nat) : Entity := (arguments.placed[place]?).getD .null
  let choose (keep byMember : Bool) : Render Iteration := do
    if !(<- truthy value) then return .rest []
    let (parts, rest) <- match byMember, arguments.placed with
      | true, [] => throw (.template .badArgument)
      | true, name :: rest => pure (<- memberParts name, rest)
      | false, placed => pure ([], placed)
    let test := match rest with
      | name :: placed => some (name, { arguments with placed })
      | [] => none
    return .choosing (<- iterate value) keep parts test context
  match filter with
  | "map" =>
    if !(<- truthy value) then return .rest []
    let mapping <- mappingOf arguments
    return .mapping (<- iterate value) mapping context
  | "select" => choose true false
  | "reject" => choose false false
  | "selectattr" => choose true true
  | "rejectattr" => choose false true
  | "batch" => return .batches (<- iterate value) (argument 0) (argument 1) []
  | "slice" =>
    let items <- Render.items e value
    match argument 0, (argument 0).number? with
    | .undefined, _ => throw missing
    | _, some (.inl n) =>
      if n = 0 then throw .arithmetic
      return .portions (portionsOf items n (argument 1))
    | _, some (.inr x) => throw (if x.isZero then .arithmetic else .wrongKind)
    | _, none => throw .wrongKind
  | "unique" =>
    let parts <- memberParts (argument 1)
    return .uniques (<- iterate value) parts (<- truthy (argument 0)) []
  | _ =>
    match value, <- cellOf? value with
    | .undefined, _ => return .rest []
    | .cell number, some (.map pairs) => return .entries .items number pairs.length 0
    | _, _ => throw .wrongKind

def seek (source : Nat) (passes : Entity -> Render Bool) : (fuel : Nat) -> Render (Option Entity)
  | 0 => throw .unsupported
  | fuel + 1 => do
    let some item <- e.next source | return none
    if <- passes item then return some item else seek source passes fuel

def filling (count : Nat) (size fill : Entity) : Render (List Entity) := do
  if fill.isNull then return []
  match size, size.number? with
  | .undefined, _ => throw missing
  | _, some (.inl n) => return List.replicate (n - count).toNat fill
  | _, some (.inr x) =>
    if Decimal.lessNumber (.inl count) (.inr x) then throw .wrongKind else return []
  | _, none => throw .wrongKind

def nextBatch (source : Nat) (size fill : Entity) :
    (fuel : Nat) -> (held : Array Entity) -> Render (Option (List Entity × List Entity × Bool))
  | 0, _ => throw .unsupported
  | fuel + 1, held => do
    match <- e.next source with
    | none =>
      if held.isEmpty then return none
      return some (held.toList ++ (<- filling held.size size fill), [], true)
    | some item =>
      if <- equal (.int held.size) size then return some (held.toList, [item], false)
      nextBatch source size fill fuel (held.push item)

def step (state : Iteration) : Render (Option (Entity × Iteration)) := do
  match state with
  | .rest [] => return none
  | .rest (item :: rest) => return some (item, .rest rest)
  | .numbers _ 0 _ => return none
  | .numbers next (left + 1) step => return some (.int next, .numbers (next + step) left step)
  | .places list next =>
    match <- cell? list with
    | some (.list items) => return (items[next]?).map fun item => (item, .places list (next + 1))
    | _ => return none
  | .entries shape map size next =>
    let pairs := Entity.pairsOf (<- store) map
    if pairs.length != size then throw .disturbed
    return (Entity.viewItems shape (pairs[next]?).toList).head?.map fun item =>
      (item, .entries shape map size (next + 1))
  | .waiting _ _ _ _ => return none
  | .mapping source mapping context =>
    let some item <- e.next source | return none
    let found <- match mapping with
      | .members parts usual => memberBy e usual parts item
      | .filter name arguments => do e.filter context (<- nameOf name) item arguments
    return some (found, state)
  | .choosing source keep parts test context =>
    let passes (item : Entity) : Render Bool := do
      let value <- memberBy e .null parts item
      let holds <- match test with
        | some (name, arguments) => do e.test context (<- nameOf name) value arguments
        | none => truthy value
      return holds == keep
    return (<- seek e source passes manyItems).map fun item => (item, state)
  | .batches source size fill held =>
    let some (batch, held, done) <- nextBatch e source size fill manyItems held.toArray
      | return none
    return some (<- newList batch, if done then .rest [] else .batches source size fill held)
  | .portions [] => return none
  | .portions (portion :: rest) => return some (<- newList portion, .portions rest)
  | .uniques source parts sensitive seen =>
    let keyOf := itemKey e parts .null sensitive
    let passes (item : Entity) : Render Bool := do
      let key <- keyOf item
      if !key.isKey (<- store) Entity.nesting then throw .wrongKind
      return !(<- seen.anyM (equal key))
    let some item <- seek e source passes manyItems | return none
    return some (item, .uniques source parts sensitive ((<- keyOf item) :: seen))
  | .tested source target condition frame =>
    let passes (item : Entity) : Render Bool := do
      bindNames e frame target item
      truthy (<- e.eval frame condition)
    if (<- seek e source passes manyItems).isNone then return none
    return some (<- boundTo frame target, state)

def next (number : Nat) : Render (Option Entity) := do
  match <- cell? number with
  | some (.loop _) => return (<- advance e number).map fun item => .tuple [item, .cell number]
  | some (.iteration state) =>
    setCell number (.iteration (.rest []))
    let state <- match state with
      | .waiting filter value arguments context => startFilter e filter value arguments context
      | _ => pure state
    let some (item, state) <- step e state | return none
    setCell number (.iteration state)
    return some item
  | _ => return none

end Render

end Refinery.Template
