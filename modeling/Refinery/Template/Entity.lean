import Refinery.Template.Scope
import Refinery.Workspace.Files

namespace Refinery.Template

/-!
# Values that templates are given

Documents and paths, and lists and maps of them.
-/

inductive Value where
  | atom (doc : Doc)
  | path (path : Path)
  | list (items : List Value)
  | map (pairs : List (Value × Value))
  deriving Inhabited

abbrev Parameters := List (String × Value)

namespace Value

def null : Value := .atom .null
def bool (b : Bool) : Value := .atom (.bool b)
def int (n : Int) : Value := .atom (.int n)
def text (s : String) : Value := .atom (.text s)

mutual

def ofDoc : Doc -> Value
  | .list items => .list (ofDocs items)
  | .map fields => .map (ofFields fields)
  | doc => .atom doc

def ofDocs : List Doc -> List Value
  | [] => []
  | doc :: rest => ofDoc doc :: ofDocs rest

def ofFields : List (Doc × Doc) -> List (Value × Value)
  | [] => []
  | (key, doc) :: rest => (ofDoc key, ofDoc doc) :: ofFields rest

end

mutual

def shown : Value -> String
  | .atom doc => doc.shown
  | .path p => p.shown
  | .list items => "[" ++ Text.join ", " (shownAll items) ++ "]"
  | .map pairs => "\x7b" ++ Text.join ", " (shownPairs pairs) ++ "\x7d"

def shownAll : List Value -> List String
  | [] => []
  | item :: rest => item.shown :: shownAll rest

def shownPairs : List (Value × Value) -> List String
  | [] => []
  | (key, item) :: rest => (key.shown ++ ": " ++ item.shown) :: shownPairs rest

end

def display : Value -> String
  | .atom doc => doc.display
  | .path p => p.toString
  | value => value.shown

def truthy : Value -> Bool
  | .atom doc => doc.truthy
  | .path _ => true
  | .list items => !items.isEmpty
  | .map pairs => !pairs.isEmpty

mutual

def equal : Value -> Value -> Bool
  | .atom a, .atom b => a.same b
  | .path a, .path b => a == b
  | .list a, .list b => equalAll a b
  | .map a, .map b => a.length == b.length && equalPairs a b
  | _, _ => false

def equalAll : List Value -> List Value -> Bool
  | [], [] => true
  | a :: as, b :: bs => equal a b && equalAll as bs
  | _, _ => false

def equalPairs : List (Value × Value) -> List (Value × Value) -> Bool
  | [], _ => true
  | (key, item) :: rest, other =>
    (other.any fun (k, v) => equal key k && equal item v) && equalPairs rest other

end

def items : Value -> Except Failure (List Value)
  | .atom (.text s) => .ok (s.toList.map fun c => text (String.singleton c))
  | .atom (.tuple docs) | .atom (.set docs) => .ok (docs.map ofDoc)
  | .list items => .ok items
  | .map pairs => .ok (pairs.map (·.1))
  | _ => .error .wrongKind

def lookup (key : Value) (pairs : List (Value × Value)) : Option Value :=
  (pairs.find? fun (k, _) => equal key k).map (·.2)

end Value

structure Arguments (α : Type) where
  placed : List α := []
  named : List (String × α) := []

/-!
## What templates work with

An entity is what an expression stands for.
-/

open Decimal (Double)

structure Escaping where
  on : Bool := false
  asked : Bool := false
  deriving DecidableEq

structure Frame where
  scope : Scope
  runs : List Nat
  context : Nat
  top : Bool := false
  checked : Bool := false
  escaping : Escaping := {}
  constant : Bool := false
  sectionText : String × Bool := ("", false)

structure Routine where
  name : Option String
  signature : Signature
  body : List Piece
  takesCaller : Bool
  takesNamed : Bool
  takesPlaced : Bool
  escapes : Bool
  frame : Frame

inductive ViewKind where
  | keys
  | values
  | items
  deriving DecidableEq

inductive Entity where
  | undefined
  | null
  | bool (value : Bool)
  | int (value : Int)
  | real (value : Double)
  | text (value : String)
  | markup (value : String)
  | bytes (value : ByteArray)
  | path (value : Path)
  | atom (doc : Doc)
  | tuple (items : List Entity)
  | group (key items : Entity)
  | range (start stop step : Int)
  | cell (number : Nat)
  | view (kind : ViewKind) (map : Nat)
  | method (target : Entity) (name : String)
  | function (name : String)
  | kind (name : String)
  | routine (routine : Routine)
  | block (name : String) (context level : Nat)
  | blocks (context : Nat)
  | exports (name : String) (entries : List (String × Entity)) (printed : String)

inductive Mapping where
  | members (parts : List Entity) (usual : Entity)
  | filter (name : Entity) (arguments : Arguments Entity)

inductive Iteration where
  | places (list next : Nat)
  | rest (items : List Entity)
  | numbers (next : Int) (left : Nat) (step : Int)
  | entries (kind : ViewKind) (map size next : Nat)
  | waiting (filter : String) (value : Entity) (arguments : Arguments Entity) (context : Nat)
  | mapping (source : Nat) (mapping : Mapping) (context : Nat)
  | choosing (source : Nat) (keep : Bool) (parts : List Entity)
      (test : Option (Entity × Arguments Entity)) (context : Nat)
  | batches (source : Nat) (size fill : Entity) (held : List Entity)
  | portions (rest : List (List Entity))
  | uniques (source : Nat) (parts : List Entity) (sensitive : Bool) (seen : List Entity)
  | tested (source : Nat) (target : Target) (condition : Expr) (frame : Frame)

structure Recursion where
  target : Target
  condition : Option Expr
  body : List Piece
  otherwise : List Piece
  frame : Frame

structure Loop where
  source : Entity
  iteration : Nat
  taken : Nat := 0
  length : Option Nat := none
  after : Option Entity := none
  current : Option Entity := none
  before : Option Entity := none
  changed : Option (List Entity) := none
  depth : Nat := 0
  recursion : Option Recursion := none

inductive Cell where
  | list (items : Array Entity)
  | map (pairs : List (Entity × Entity))
  | space (pairs : List (Entity × Entity))
  | cycler (items : List Entity) (place : Nat)
  | joiner (separator : Entity) (used : Bool)
  | iteration (state : Iteration)
  | loop (state : Loop)

structure Context where
  name : String
  own : List (String × Entity) := []
  given : List (String × Entity) := []
  exported : List String := []
  blocks : List (String × List Block) := []
  escapes : Bool := false
  deriving Inhabited

structure Run where
  slots : List (Slot × Option Entity) := []
  extended : Option Sheet := none

structure Buffer where
  text : String := ""
  isFunction : Bool

abbrev Store := Array Cell

structure Rendering where
  workspace : Workspace
  output : String := ""
  buffers : List Buffer := []
  store : Store := #[]
  runs : Array Run := #[]
  contexts : Array Context := #[]
  imported : List (String × Entity) := []
  sheets : List (String × Sheet) := []
  calls : Nat := 0

abbrev Render := ExceptT Failure (StateM Rendering)

def missing : Failure := .template .undefined

namespace Render

instance : MonadLift (Except Failure) Render where
  monadLift outcome := ExceptT.mk (pure outcome)

def ofJob {α : Type} (job : Job α) : Render α := do
  let r <- get
  let (result, workspace) := job.execute r.workspace
  set { r with workspace }
  result

def print (text : String) : Render Unit := do
  if (<- get).buffers.isEmpty && !Text.encodable text then throw .unencodable
  modify fun r =>
    match r.buffers with
    | [] => { r with output := r.output ++ text }
    | buffer :: rest => { r with buffers := { buffer with text := buffer.text ++ text } :: rest }

def printPast (text : String) : Render Unit := do
  let sections := (<- get).buffers.takeWhile fun buffer => !buffer.isFunction
  modify fun r => { r with buffers := r.buffers.drop sections.length }
  print text
  modify fun r => { r with buffers := sections ++ r.buffers }

def collect (isFunction : Bool) (body : Render Unit) : Render String := do
  modify fun r => { r with buffers := { isFunction } :: r.buffers }
  let outcome <- tryCatch (do body; return (Except.ok () : Except Failure Unit))
    fun failure => return .error failure
  let buffers := (<- get).buffers
  modify fun r => { r with buffers := buffers.tail }
  match outcome with
  | .ok _ => return (buffers.head?.map (·.text)).getD ""
  | .error failure => throw failure

/-! ## Cells -/

def store : Render Store :=
  return (<- get).store

def newCell (cell : Cell) : Render Nat :=
  modifyGet fun r => (r.store.size, { r with store := r.store.push cell })

def cell? (number : Nat) : Render (Option Cell) :=
  return (<- get).store[number]?

def cellOf? (entity : Entity) : Render (Option Cell) := do
  let .cell number := entity | return none
  cell? number

def setCell (number : Nat) (cell : Cell) : Render Unit :=
  modify fun r => { r with store := r.store.setIfInBounds number cell }

def newList (items : List Entity) : Render Entity :=
  return .cell (<- newCell (.list items.toArray))

def newMap (pairs : List (Entity × Entity)) : Render Entity :=
  return .cell (<- newCell (.map pairs))

def newIteration (state : Iteration) : Render Entity :=
  return .cell (<- newCell (.iteration state))

def texts (items : List String) : Render Entity :=
  newList (items.map .text)

/-! ## Contexts -/

def context (number : Nat) : Render Context :=
  return ((<- get).contexts[number]?).getD default

def setContext (number : Nat) (change : Context -> Context) : Render Unit :=
  modify fun r => { r with contexts := r.contexts.modify number change }

def newContext (context : Context) : Render Nat :=
  modifyGet fun r => (r.contexts.size, { r with contexts := r.contexts.push context })

def escapes (number : Nat) : Render Bool :=
  return (<- context number).escapes

/-! ## Runs -/

def newRun : Render Nat :=
  modifyGet fun r => (r.runs.size, { r with runs := r.runs.push {} })

def readSlot (frame : Frame) (slot : Slot) : Render (Option Entity) := do
  let runs := (<- get).runs
  return (frame.runs.findSome? fun number =>
    (runs[number]?).bind fun run => run.slots.lookup slot).join

def writeSlot (frame : Frame) (slot : Slot) (value : Option Entity) : Render Unit :=
  let rec put : List (Slot × Option Entity) -> List (Slot × Option Entity)
    | [] => [(slot, value)]
    | entry :: rest => if entry.1 = slot then (slot, value) :: rest else entry :: put rest
  match frame.runs with
  | [] => pure ()
  | number :: _ =>
    modify fun r => { r with runs := r.runs.modify number fun run => { run with slots := put run.slots } }

end Render

namespace Entity

/-! ## Values that are given and handed out -/

def ofAtom : Doc -> Entity
  | .null => .null
  | .bool value => .bool value
  | .int value => .int value
  | .real value => .real value
  | .text value => .text value
  | .bytes value => .bytes value
  | doc => .atom doc

mutual

def ofValue : Value -> Render Entity
  | .atom (.tuple items) => return .tuple (items.map ofAtom)
  | .atom doc => return ofAtom doc
  | .path p => return .path p
  | .list items => do Render.newList (<- ofValues items)
  | .map pairs => do Render.newMap (<- ofPairs pairs)

def ofValues : List Value -> Render (List Entity)
  | [] => return []
  | value :: rest => return (<- ofValue value) :: (<- ofValues rest)

def ofPairs : List (Value × Value) -> Render (List (Entity × Entity))
  | [] => return []
  | (key, value) :: rest => return (<- ofValue key, <- ofValue value) :: (<- ofPairs rest)

end

def toValue (store : Store) : (fuel : Nat) -> Entity -> Value
  | 0, _ => .null
  | fuel + 1, entity =>
    match entity with
    | .bool value => .bool value
    | .int value => .int value
    | .real value => .atom (.real value)
    | .text value | .markup value => .text value
    | .bytes value => .atom (.bytes value)
    | .path value => .path value
    | .atom doc => .atom doc
    | .tuple items => .list (items.map (toValue store fuel))
    | .cell number =>
      match store[number]? with
      | some (.list items) => .list (items.toList.map (toValue store fuel))
      | some (.map pairs) =>
        .map (pairs.map fun (key, value) => (toValue store fuel key, toValue store fuel value))
      | _ => .null
    | _ => .null

/-! ## Kinds of entities -/

def isUndefined : Entity -> Bool
  | .undefined => true
  | _ => false

def isNull : Entity -> Bool
  | .null => true
  | _ => false

def text? : Entity -> Option String
  | .text value | .markup value => some value
  | _ => none

def number? : Entity -> Option (Int ⊕ Double)
  | .bool value => some (.inl (if value then 1 else 0))
  | .int value => some (.inl value)
  | .real value => some (.inr value)
  | _ => none

def whole? : Entity -> Option Int
  | .bool value => some (if value then 1 else 0)
  | .int value => some value
  | _ => none

def needWhole (entity : Entity) : Except Failure Int :=
  entity.whole?.getDM (throw .wrongKind)

def needText (entity : Entity) : Except Failure String :=
  entity.text?.getDM (throw .wrongKind)

end Entity

end Refinery.Template
