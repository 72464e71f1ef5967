import Refinery.Template.Piece

namespace Refinery.Template

/-!
# Scopes

Which name means which variable is settled before a template is rendered.
-/

structure Slot where
  level : Nat
  name : String
  deriving DecidableEq

inductive Origin where
  | given
  | context
  | outer (slot : Slot)
  | unset
  deriving DecidableEq

structure Layer where
  origins : List (String × Origin) := []
  bound : List String := []

abbrev Scope := List Layer

namespace Scope

def slot? (name : String) : Scope -> Option Slot
  | [] => none
  | layer :: outer =>
    if (layer.origins.lookup name).isSome then some ⟨outer.length, name⟩ else slot? name outer

def boundSlots (scope : Scope) : List (String × Slot) :=
  let names := (scope.flatMap fun layer => layer.bound).eraseDups
  names.filterMap fun name => (scope.slot? name).map fun slot => (name, slot)

end Scope

namespace Layer

def assign (name : String) (origin : Origin) : List (String × Origin) -> List (String × Origin)
  | [] => [(name, origin)]
  | entry :: rest =>
    if entry.1 == name then (name, origin) :: rest else entry :: assign name origin rest

def setOrigin (layer : Layer) (name : String) (origin : Origin) : Layer :=
  { layer with origins := assign name origin layer.origins }

def addBound (layer : Layer) (name : String) : Layer :=
  { layer with bound := if layer.bound.contains name then layer.bound else layer.bound ++ [name] }

variable (outer : Scope)

def read (layer : Layer) (name : String) : Layer :=
  if (Scope.slot? name (layer :: outer)).isSome then layer else layer.setOrigin name .context

def bind (layer : Layer) (name : String) : Layer :=
  let layer := layer.addBound name
  if (layer.origins.lookup name).isSome then layer
  else
    match outer.slot? name with
    | some slot => layer.setOrigin name (.outer slot)
    | none => layer.setOrigin name .unset

def give (layer : Layer) (name : String) : Layer :=
  (layer.addBound name).setOrigin name .given

def readAll (layer : Layer) (names : List String) : Layer :=
  names.foldl (read outer) layer

def readExpr (layer : Layer) (e : Expr) : Layer :=
  layer.readAll outer e.names

def readExprs (layer : Layer) (es : List Expr) : Layer :=
  es.foldl (readExpr outer) layer

def bindTarget (layer : Layer) (target : Target) : Layer :=
  target.names.foldl (bind outer) (layer.readAll outer target.holders)

def giveTarget (layer : Layer) (target : Target) : Layer :=
  target.names.foldl give layer

def mergeOrigins (first second : List (String × Origin)) : List (String × Origin) :=
  second.foldl (fun merged (name, origin) => assign name origin merged) first

def join (before first second third : Layer) : Layer :=
  let parts := [first, second, third]
  let merged : Layer := parts.foldl (fun merged part =>
    { origins := mergeOrigins merged.origins part.origins
      bound := (merged.bound ++ part.bound).eraseDups }) before
  let fresh := (parts.flatMap fun part => part.bound).eraseDups.filter fun name =>
    !before.bound.contains name
  fresh.foldl (fun merged name =>
    if parts.all fun part => part.bound.contains name then merged
    else
      match outer.slot? name with
      | some slot => merged.setOrigin name (.outer slot)
      | none => merged.setOrigin name .context) merged

mutual

def visit (layer : Layer) : Piece -> Layer
  | .data _ | .block _ _ _ _ | .escaping _ _ => layer
  | .print values => layer.readExprs outer values
  | .choice [] _ => layer
  | .choice ((condition, body) :: others) otherwise =>
    let before := layer.readExpr outer condition
    join outer before (visitAll before body) (visitOthers before others)
      (visitAll before otherwise)
  | .loop _ source _ _ _ _ => layer.readExpr outer source
  | .set target value => (layer.readExpr outer value).bindTarget outer target
  | .setBlock target _ _ => layer.bindTarget outer target
  | .extend template | .load template _ _ => layer.readExpr outer template
  | .define name _ _ => layer.bind outer name
  | .withValues bindings _ => layer.readExprs outer (bindings.map (·.2))
  | .filtered filter _ => layer.readExpr outer filter
  | .callWith function given _ _ => layer.readExpr outer (.call function given)
  | .importAs template name _ => (layer.readExpr outer template).bind outer name
  | .importNames template names _ =>
    (names.map (·.2)).foldl (bind outer) (layer.readExpr outer template)

def visitAll (layer : Layer) : List Piece -> Layer
  | [] => layer
  | piece :: rest => visitAll (visit layer piece) rest

def visitOthers (layer : Layer) : List (Expr × List Piece) -> Layer
  | [] => layer
  | (condition, body) :: rest =>
    let before := layer.readExpr outer condition
    visitOthers (join outer before (visitAll before body) before before) rest

end

def ofPieces (given : List String) (pieces : List Piece) : Layer :=
  visitAll outer (given.foldl give {}) pieces

def ofRoutine (layer : Layer) (signature : Signature) (body : List Piece) : Layer :=
  visitAll outer ((signature.parameters.foldl give layer).readExprs outer signature.defaults) body

/-! ## Layers of statements -/

def loopNames (target : Target) (recursive : Bool) (body : List Piece) : List String :=
  let named := recursive || reads body "loop" || (blocksOfPieces body).any fun block => block.exposed
  (if named then ["loop"] else []) ++ target.names

def ofCondition (target : Target) (condition : Expr) : Layer :=
  (giveTarget {} target).readExpr outer condition

def ofBindings (bindings : List (Target × Expr)) (body : List Piece) : Layer :=
  ofPieces outer (bindings.flatMap fun binding => binding.1.names) body

def ofFiltered (filter : Expr) (body : List Piece) : Layer :=
  (ofPieces outer [] body).readExpr outer filter

def ofEscaping (condition : Expr) (body : List Piece) : Layer :=
  visitAll outer (readExpr outer {} condition) body

structure Specials where
  caller : Bool
  named : Bool
  placed : Bool
  lacksCaller : Bool

def specials (signature : Signature) (body : List Piece) : Specials :=
  let asked := readFirst ["caller", "kwargs", "varargs"] (Mention.ofPieces false body)
  let isParameter (name : String) : Bool := signature.parameters.contains name
  let withoutDefault := signature.parameters.take
    (signature.parameters.length - signature.defaults.length)
  { caller := asked.contains "caller"
    named := asked.contains "kwargs" && !isParameter "kwargs"
    placed := asked.contains "varargs" && !isParameter "varargs"
    lacksCaller := asked.contains "caller" && withoutDefault.contains "caller" }

def ofMacro (signature : Signature) (body : List Piece) : Layer :=
  let asked := specials signature body
  let first := ofRoutine outer {} signature body
  let names := (if asked.caller && !signature.parameters.contains "caller" then ["caller"] else []) ++
    (if asked.named then ["kwargs"] else []) ++ (if asked.placed then ["varargs"] else [])
  ofRoutine outer (names.foldl give first) signature body

end Layer

end Refinery.Template
