import Refinery.Template.Filter

namespace Refinery.Template

/-!
# Tests

Questions about entities that templates ask by name.
-/

namespace Test

def names : List String :=
  Text.words "!= < <= == > >= boolean callable defined divisibleby eq equalto escaped even false filter
    float ge greaterthan gt in integer iterable le lessthan lower lt mapping ne none number odd sameas
    sequence string test true undefined upper"

end Test

namespace Render

def isWithin (e : Engine) (value container : Entity) : Render Bool := do
  match container with
  | .undefined => return false
  | .text s | .markup s => isPartOf value s
  | .bytes b =>
    match value, value.whole? with
    | .bytes part, _ =>
      return (List.range (b.size + 1)).any fun i => part.toList.isPrefixOf (b.toList.drop i)
    | _, some n => if n < 0 || 255 < n then throw .badValue else return b.toList.any (·.toNat == n.toNat)
    | _, none => throw .wrongKind
  | .range start stop step =>
    match value.number? with
    | some number =>
      return (Entity.rangeItems start stop step).any fun n => Decimal.sameNumber (.inl n) number
    | none => return false
  | .view .keys number => return (<- lookup value (Entity.pairsOf (<- store) number)).isSome
  | .view shape number =>
    (Entity.viewItems shape (Entity.pairsOf (<- store) number)).anyM fun item => equal item value
  | .atom (.set items) =>
    if !value.isKey (<- store) Entity.nesting then throw .wrongKind
    (items.map Entity.ofAtom).anyM fun item => equal item value
  | .cell number =>
    match <- cell? number with
    | some (.map pairs) => return (<- lookup value pairs).isSome
    | some (.list items) => items.toList.anyM fun item => equal item value
    | some (.iteration _) | some (.loop _) =>
      return (<- seek e number (fun item => equal item value) manyItems).isSome
    | _ => throw .wrongKind
  | _ =>
    match container.tuple? with
    | some items => items.anyM fun item => equal item value
    | none =>
      discard (iterate container)
      return false

def compare (e : Engine) (comparison : Comparison) (a b : Entity) : Render Bool := do
  let before (orEqual : Bool) (a b : Entity) : Render Bool := do
    Entity.before (<- store) orEqual Entity.nesting a b
  match comparison with
  | .equal => equal a b
  | .notEqual => return !(<- equal a b)
  | .less => before false a b
  | .lessEqual => before true a b
  | .greater => before false b a
  | .greaterEqual => before true b a
  | .within => isWithin e a b
  | .notWithin => return !(<- isWithin e a b)

def comparison? : String -> Option Comparison
  | "==" | "eq" | "equalto" => some .equal
  | "!=" | "ne" => some .notEqual
  | ">" | "gt" | "greaterthan" => some .greater
  | ">=" | "ge" => some .greaterEqual
  | "<" | "lt" | "lessthan" => some .less
  | "<=" | "le" => some .lessEqual
  | _ => none

def isSequence (value : Entity) : Render Bool := do
  match value, <- cellOf? value with
  | .undefined, _ | .text _, _ | .markup _, _ | .bytes _, _ | .tuple _, _ | .group _ _, _
  | .range _ _ _, _ | _, some (.list _) | _, some (.map _) => return true
  | _, _ => return false

def isCallable (value : Entity) : Render Bool := do
  match value, <- cellOf? value with
  | .undefined, _ | .method _ _, _ | .function _, _ | .kind _, _ | .routine _, _ | .block _ _ _, _
  | _, some (.loop _) | _, some (.joiner _ _) => return true
  | _, _ => return false

def leaves (value divisor remainder : Entity) : Render Bool := do
  equal (<- binary .modulo value divisor) remainder

def plainTest? (name : String) (value : Entity) : Option (Render Bool) :=
  let among (names : List String) : Render Bool := do
    if !value.isKey (<- store) Entity.nesting then throw .wrongKind
    return (value.text?).any names.contains
  match name, value with
  | "odd", _ => some (leaves value (.int 2) (.int 1))
  | "even", _ => some (leaves value (.int 2) (.int 0))
  | "defined", _ => some (pure !value.isUndefined)
  | "undefined", _ => some (pure value.isUndefined)
  | "filter", _ => some (among Filter.names)
  | "test", _ => some (among Test.names)
  | "none", _ => some (pure value.isNull)
  | "boolean", .bool _ | "true", .bool true | "false", .bool false => some (pure true)
  | "boolean", _ | "true", _ | "false", _ => some (pure false)
  | "integer", .int _ | "float", .real _ => some (pure true)
  | "integer", _ | "float", _ => some (pure false)
  | "number", _ => some (pure value.number?.isSome)
  | "string", _ => some (pure value.text?.isSome)
  | "lower", _ => some do return Text.isLower (<- display value)
  | "upper", _ => some do return Text.isUpper (<- display value)
  | "mapping", _ => some do
    let some (.map _) <- cellOf? value | return false
    return true
  | "sequence", _ => some (isSequence value)
  | "iterable", .blocks _ => some (pure true)
  | "iterable", _ => some (isIterable value)
  | "callable", _ => some (isCallable value)
  | "escaped", _ => some (pure (isEscaped value))
  | _, _ => none

def test (e : Engine) (_context : Nat) (name : String) (value : Entity) (a : Arguments Entity) :
    Render Bool := do
  match plainTest? name value, comparison? name with
  | some outcome, _ =>
    a.nothing
    outcome
  | none, some comparison => compare e comparison value (<- a.single)
  | none, none =>
    match name with
    | "divisibleby" =>
      leaves value (argument (<- a.bind ["num"] 1) 0 .null) (.int 0)
    | "sameas" => return value.same true (argument (<- a.bind ["other"] 1) 0 .null)
    | "in" => isWithin e value (argument (<- a.bind ["seq"] 1) 0 .null)
    | _ => throw (.template .misuse)

end Render

end Refinery.Template
