import Refinery.Template.Evaluate

namespace Refinery.Template.Render

/-!
# Carrying out pieces

Pieces are carried out in order in a frame.
-/

/-! ## Frames -/

def deepest : Nat := 960

/-- Carry out something within a macro or another template, which is as deep as `weight` says. -/
def deeper {α : Type} (weight : Nat) (body : Render α) : Render α := do
  let calls := (<- get).calls + weight
  if deepest < calls then throw .tooDeep
  modify fun r => { r with calls }
  let value <- body
  modify fun r => { r with calls := r.calls - weight }
  return value

variable (e : Engine) (frame : Frame)

def enter : Render Unit := do
  let layer :: outer := frame.scope | return
  layer.origins.forM fun (name, origin) => do
    let slot : Slot := ⟨outer.length, name⟩
    match origin with
    | .given => pure ()
    | .context => writeSlot frame slot (<- resolve e frame.context name)
    | .outer other => writeSlot frame slot (<- readSlot frame other)
    | .unset => writeSlot frame slot none

def leave : Render Unit := do
  let layer :: outer := frame.scope | return
  layer.origins.forM fun (name, _) => writeSlot frame ⟨outer.length, name⟩ none

def inner (layer : Layer) : Frame :=
  { frame with scope := layer :: frame.scope, top := false }

def within (layer : Layer) (body : Frame -> Render Unit) : Render Unit := do
  let frame := inner frame layer
  enter e frame
  body frame
  leave frame

def escapesIn : Render Bool :=
  if frame.escaping.asked then escapes frame.context else return frame.escaping.on

def printed (text : String) : Render Entity := do
  return textOf (<- escapesIn frame) text

/-! ## Printing -/

def isSilent : Render Bool := do
  if !frame.checked then return false
  let runs := (<- get).runs
  return ((frame.runs.getLast?.bind fun number => runs[number]?).bind (·.extended)).isSome

def printValues (values : List Expr) : Render Unit := do
  if <- isSilent frame then return
  values.forM fun value => do
    let entity <- e.eval frame value
    print (<- if <- escapesIn frame then escaped entity else display entity)

def printText (entity : Entity) : Render Unit := do
  print (<- entity.needText)

/-! ## Names of the template -/

def putEntry (name : String) (value : Entity) : List (String × Entity) -> List (String × Entity)
  | [] => [(name, value)]
  | entry :: rest => if entry.1 == name then (name, value) :: rest else entry :: putEntry name value rest

def publish (exported : Bool) (names : List String) : Render Unit := do
  if !frame.top then return
  names.forM fun name => do
    let value := (<- boundTo frame (.name name))
    setContext frame.context fun context => { context with
      own := putEntry name value context.own
      exported :=
        if name.startsWith "_" then context.exported
        else if exported then
          if context.exported.contains name then context.exported else name :: context.exported
        else context.exported.filter (· != name) }

def namespaceOf (holder : String) : Render Nat := do
  let found <- nameIn frame holder
  match found, <- cellOf? found with
  | .cell number, some (.space _) => return number
  | _, _ => throw (.template .misuse)

def setField (number : Nat) (name : String) (value : Entity) : Render Unit := do
  if let some (.space pairs) <- cell? number then
    setCell number (.space (<- assign (.text name) value pairs))

def bindTo (target : Target) (value : Render Entity) : Render Unit := do
  match target with
  | .field holder name =>
    let number <- namespaceOf frame holder
    setField number name (<- value)
  | _ =>
    bindNames e frame target (<- value)
    publish frame true target.names

/-! ## Macros -/

def routineOf (name : Option String) (signature : Signature) (body : List Piece) :
    Render Entity := do
  let asked := Layer.specials signature body
  return .routine {
    name, signature, body
    takesCaller := asked.caller
    takesNamed := asked.named
    takesPlaced := asked.placed
    escapes := <- escapes frame.context
    frame }

def forParameters (signature : Signature) (a : Arguments Entity) : List (Option Entity) × List (String × Entity) :=
  let placed := (a.placed.take signature.parameters.length).map some
  let rest := signature.parameters.drop placed.length
  (placed ++ rest.map fun name => a.named.lookup name, a.named.filter fun (name, _) => !rest.contains name)

def setDefaults (signature : Signature)
    (values : List (Option Entity)) : Render Unit := do
  let required := signature.parameters.length - signature.defaults.length
  (signature.parameters.zip values).zipIdx.forM fun ((name, value), place) => do
    if value.isNone then
      let usual := if place < required then none else signature.defaults[place - required]?
      setName frame name (<- match usual with
        | some usual => e.eval frame usual
        | none => pure .undefined)

def invoke (context : Nat) (routine : Routine) (a : Arguments Entity) :
    Render Entity := deeper 4 do
  let signature := routine.signature
  let explicit := signature.parameters.contains "caller"
  let (values, rest) := forParameters signature a
  let takesCaller := routine.takesCaller && !explicit
  let caller := match rest.lookup "caller" with
    | some .null | none => .undefined
    | some caller => caller
  let rest := if takesCaller then rest.filter (·.1 != "caller") else rest
  if !routine.takesNamed && !rest.isEmpty then throw .wrongKind
  let more := a.placed.drop signature.parameters.length
  if !routine.takesPlaced && !more.isEmpty then throw .wrongKind
  let layer := Layer.ofMacro routine.frame.scope signature routine.body
  let frame := { inner routine.frame layer with
    runs := (<- newRun) :: routine.frame.runs, checked := false }
  (signature.parameters.zip values).forM fun (name, value) => value.forM (setName frame name)
  if takesCaller then setName frame "caller" caller
  if routine.takesNamed then
    setName frame "kwargs" (<- newMap (rest.map fun (name, value) => (.text name, value)))
  if routine.takesPlaced then setName frame "varargs" (.tuple more)
  enter e frame
  setDefaults e frame signature values
  let text <- collect true (e.exec frame routine.body)
  return textOf (<- escapes context) text

/-! ## Loops -/

def testedItems (loop : Recursion) (frame : Frame) (source : Entity) :
    Render Entity := do
  let some condition := loop.condition | return source
  let layer := Layer.ofCondition frame.scope loop.target condition
  let inside := { inner frame layer with runs := (<- newRun) :: frame.runs }
  enter e inside
  newIteration (.tested (<- iterate source) loop.target condition inside)

def repeatBody (loop : Recursion) (frame : Frame) (next : Render (Option Entity))
    (state : Option Nat) : (fuel : Nat) -> (any : Bool) -> Render Bool
  | 0, _ => throw .unsupported
  | fuel + 1, any => do
    let some item <- next | return any
    bindNames e frame loop.target item
    state.forM fun number => setName frame "loop" (.cell number)
    enter e frame
    e.exec frame loop.body
    repeatBody loop frame next state fuel true

def loopThrough (loop : Recursion) (recursive : Bool) (frame : Frame) (source : Entity)
    (depth : Nat) : Render Unit := do
  let names := Layer.loopNames loop.target recursive loop.body
  let source <- testedItems e loop frame source
  let iteration <- iterate source
  let state <- if names.head? = some "loop" then
      let state : Loop := { source, iteration, depth, recursion := if recursive then some loop else none }
      pure (some (<- newCell (.loop state)))
    else pure none
  let next : Render (Option Entity) := match state with
    | some number => advance e number
    | none => e.next iteration
  let inside := inner frame (Layer.ofPieces frame.scope names loop.body)
  let any <- repeatBody e loop inside next state manyItems false
  leave inside
  if !any && !loop.otherwise.isEmpty then
    within e frame (Layer.ofPieces frame.scope [] loop.otherwise) fun inside =>
      e.exec inside loop.otherwise

def loopAgain (loop : Recursion) (source : Entity) (depth : Nat) : Render Entity :=
  deeper 3 do
    let frame := { loop.frame with runs := (<- newRun) :: loop.frame.runs, top := false }
    let text <- collect true (loopThrough e loop true frame source depth)
    printed frame text

/-! ## Blocks -/

def blockBody (block : Block) (context level : Nat) : Render Unit := deeper 1 do
  let names := ["self", "super"].filter (reads block.body)
  let layer := Layer.ofPieces [] names block.body
  let frame : Frame := { scope := [layer], runs := [<- newRun], context }
  if names.contains "self" then setName frame "self" (.blocks context)
  if names.contains "super" then
    let bodies := ((<- Render.context context).blocks.lookup block.name).getD []
    setName frame "super"
      (if level + 1 < bodies.length then .block block.name context (level + 1) else .undefined)
  enter e frame
  e.exec frame block.body

def blockAt (name : String) (context level : Nat) : Render Unit := do
  match ((<- Render.context context).blocks.lookup name).bind (·[level]?) with
  | some block => blockBody e block context level
  | none => throw (.noKey (Text.quoted name))

def localNames : Render (List (String × Entity)) := do
  let found <- frame.scope.boundSlots.mapM fun (name, slot) => do
    return (<- readSlot frame slot).map fun value => (name, value)
  return found.filterMap id

def allNames (number : Nat) (more : List (String × Entity)) : Render (List (String × Entity)) := do
  let context <- context number
  return more ++ context.own ++ context.given

def execBlock (name : String) (exposed required : Bool) :
    Render Unit := do
  if frame.top && (<- isSilent { frame with checked := true }) then return
  let context <- context frame.context
  let bodies := (context.blocks.lookup name).getD []
  let number <- if exposed then do
      let given <- allNames frame.context (<- localNames frame)
      newContext { name := context.name, given, blocks := context.blocks, escapes := context.escapes }
    else pure frame.context
  if required && bodies.length ≤ 1 then throw (.template .misuse)
  blockAt e name number 0

/-! ## Other templates -/

def contextOf (sheet : Sheet) (given : List (String × Entity)) : Render Nat :=
  newContext { name := sheet.name, given, blocks := sheet.blocks.map fun block => (block.name, [block]) }

def execSheet (sheet : Sheet) (context : Nat) : Render Unit := deeper 1 do
  let names := ["self"].filter (reads sheet.pieces)
  let layer := Layer.ofPieces [] names sheet.pieces
  let run <- newRun
  let frame : Frame := {
    scope := [layer], runs := [run], context, top := true, checked := sheet.isExtension }
  if names.contains "self" then setName frame "self" (.blocks context)
  enter e frame
  e.exec frame sheet.pieces
  (((<- get).runs[run]?).bind (·.extended)).forM (e.sheet · context)

def sheetOf (name : Entity) : Render Sheet := do
  if name.isUndefined then throw missing
  if let some name := name.text? then e.load name
  else if name.isKey (<- store) Entity.nesting then throw .noMember
  else throw .wrongKind

def firstSheet : List Entity -> Render Sheet
  | [] => throw (.template .noneFound)
  | name :: rest => do
    tryCatch (sheetOf e name) fun failure =>
      if failure = .template .notFound || failure = .template .noneFound || failure = missing then
        firstSheet rest
      else throw failure

def someSheet (value : Entity) : Render Sheet := do
  if value.text?.isSome || value.isUndefined then sheetOf e value
  else if !(<- truthy value) then throw (.template .noneFound)
  else firstSheet e (<- items e value)

def moduleOf (sheet : Sheet) (given : List (String × Entity)) : Render Entity := do
  let number <- contextOf sheet given
  let printed <- collect true (e.sheet sheet number)
  let context <- context number
  return .exports sheet.name (context.own.filter fun (name, _) => context.exported.contains name) printed

def plainModule (sheet : Sheet) : Render Entity := do
  if let some found := (<- get).imported.lookup sheet.name then return found
  let found <- moduleOf e sheet []
  modify fun r => { r with imported := (sheet.name, found) :: r.imported }
  return found

def execLoad (template : Expr) (ignoreMissing withContext : Bool) :
    Render Unit := do
  let find : Render (Option Sheet) := do return some (<- someSheet e (<- e.eval frame template))
  let found <- if ignoreMissing then
      tryCatch find fun failure =>
        if failure = .template .notFound || failure = .template .noneFound then return none
        else throw failure
    else find
  let some sheet := found | return
  if withContext then
    e.sheet sheet (<- contextOf sheet (<- allNames frame.context (<- localNames frame)))
  else if let .exports _ _ text <- plainModule e sheet then printPast text

def importedFrom (template : Expr) (withContext : Bool) :
    Render Entity := do
  let sheet <- sheetOf e (<- e.eval frame template)
  if withContext then moduleOf e sheet (<- allNames frame.context (<- localNames frame))
  else plainModule e sheet

def execExtend (template : Expr) : Render Unit := do
  if <- isSilent { frame with checked := true } then throw (.template .misuse)
  let sheet <- sheetOf e (<- e.eval frame template)
  frame.runs.getLast?.forM fun number =>
    modify fun r => { r with
      runs := r.runs.modify number fun run => { run with extended := some sheet } }
  setContext frame.context fun context => { context with
    blocks := sheet.blocks.foldl (fun blocks block =>
      if (blocks.lookup block.name).isSome then
        blocks.map fun (name, bodies) =>
          (name, if name == block.name then bodies ++ [block] else bodies)
      else blocks ++ [(block.name, [block])]) context.blocks }

/-! ## Pieces -/

def execChoice (otherwise : List Piece) : List (Expr × List Piece) -> Render Unit
  | [] => e.exec frame otherwise
  | (condition, body) :: rest => do
    if <- truthy (<- e.eval frame condition) then e.exec frame body
    else execChoice otherwise rest

def filteredText (filter : Option Expr) (text : String) : Render Entity := do
  let some filter := filter | return .text text
  e.eval { frame with sectionText := (text, <- escapesIn frame) } filter

def execEscaping (condition : Expr) (body : List Piece) :
    Render Unit := do
  within e frame (Layer.ofEscaping frame.scope condition body) fun inside => do
    let before <- escapes frame.context
    let on <- truthy (<- e.eval inside condition)
    setContext frame.context fun context => { context with escapes := on }
    let escaping : Escaping := match condition with
      | .const _ => { frame.escaping with on }
      | _ => { frame.escaping with asked := true }
    e.exec { inside with escaping } body
    setContext frame.context fun context => { context with escapes := before }

def execPiece : Piece -> Render Unit
  | .data text => do if !(<- isSilent frame) then print text
  | .print values => printValues e frame values
  | .choice branches otherwise => execChoice e frame otherwise branches
  | .loop target source condition recursive body otherwise => do
    let loop : Recursion := { target, condition, body, otherwise, frame }
    let source <- e.eval frame source
    if recursive then printText (<- loopAgain e loop source 0)
    else loopThrough e loop false frame source 0
  | .set target value => bindTo e frame target (e.eval frame value)
  | .setBlock target filter body => do
    let inside := { inner frame (Layer.ofPieces frame.scope [] body) with checked := false }
    enter e inside
    let text <- collect false (e.exec inside body)
    bindTo e frame target do
      let value <- filteredText e inside filter text
      if <- escapes frame.context then return .markup (<- display value) else return value
    leave inside
  | .block name exposed required _ => execBlock e frame name exposed required
  | .extend template => execExtend e frame template
  | .load template ignoreMissing withContext => execLoad e frame template ignoreMissing withContext
  | .define name signature body => do
    setName frame name (<- routineOf frame (some name) signature body)
    publish frame true [name]
  | .withValues bindings body =>
    within e frame (Layer.ofBindings frame.scope bindings body) fun inside => do
      bindings.forM fun (target, value) => do
        bindNames e inside target (<- e.eval frame value)
      e.exec inside body
  | .filtered filter body =>
    within e frame (Layer.ofFiltered frame.scope filter body) fun inside => do
      printText (<- filteredText e inside filter (<- collect false (e.exec inside body)))
  | .callWith function given signature body => do
    let caller <- routineOf frame none signature body
    let function <- e.eval frame function
    let arguments <- arguments e frame given
    if arguments.named.any fun (name, _) => name == "caller" then throw .wrongKind
    let named := arguments.named ++ [("caller", caller)]
    printText (<- e.call frame.context function { arguments with named })
  | .importAs template name withContext => do
    setName frame name (<- importedFrom e frame template withContext)
    publish frame false [name]
  | .importNames template names withContext => do
    let found <- importedFrom e frame template withContext
    names.forM fun (name, boundName) => do
      setName frame boundName ((found.property? #[] name).getD .undefined)
    publish frame false (names.map (·.2))
  | .escaping condition body => execEscaping e frame condition body

def exec (pieces : List Piece) : Render Unit :=
  pieces.forM (execPiece e frame)

end Refinery.Template.Render
