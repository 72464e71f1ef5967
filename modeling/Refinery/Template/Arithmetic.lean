import Refinery.Format.Percent
import Refinery.Template.Compare
import Refinery.Text.Reference

namespace Refinery.Template

open Text

/-!
# Operations on entities

Whole numbers are exact.
-/

open Decimal (Double)

namespace Entity

def realOf : Int ⊕ Double -> Except Failure Double
  | .inl n =>
    let x := Double.ofInt n
    if x.isInf then .error .tooLarge else .ok x
  | .inr x => .ok x

def ofFloat (x : Float) : Entity :=
  .real (Double.ofFloat x)

def realPower (x y : Double) : Except Failure Entity :=
  if x.isZero && y.isNegative && !y.isZero && !y.isNaN then .error .arithmetic
  else if x.isFinite && !x.isZero && x.isNegative && y.isFinite && !y.isWhole then
    .error .unsupported
  else
    let found := Double.ofFloat (Float.pow x.toFloat y.toFloat)
    if found.isInf && x.isFinite && y.isFinite then .error .tooLarge else .ok (.real found)

def wholeOperation (operation : Operation) (m n : Int) : Except Failure Entity :=
  match operation with
  | .add => .ok (.int (m + n))
  | .subtract => .ok (.int (m - n))
  | .multiply => .ok (.int (m * n))
  | .divide =>
    if n = 0 then .error .arithmetic
    else
      let found := Double.ofRatio (decide (m < 0) != decide (n < 0)) m.natAbs n.natAbs
      if found.isInf then .error .tooLarge else .ok (.real found)
  | .floorDivide => if n = 0 then .error .arithmetic else .ok (.int (Int.fdiv m n))
  | .modulo => if n = 0 then .error .arithmetic else .ok (.int (Int.fmod m n))
  | .power =>
    if n < 0 then do
      if m = 0 then throw .arithmetic
      realPower (<- realOf (.inl m)) (<- realOf (.inl n))
    else if 1 < m.natAbs && 10000000 < n.toNat * m.natAbs.log2 then .error .unsupported
    else .ok (.int (Int.pow m n.toNat))

def realOperation (operation : Operation) (x y : Double) : Except Failure Entity :=
  match operation with
  | .add => .ok (ofFloat (x.toFloat + y.toFloat))
  | .subtract => .ok (ofFloat (x.toFloat - y.toFloat))
  | .multiply => .ok (ofFloat (x.toFloat * y.toFloat))
  | .divide => if y.isZero then .error .arithmetic else .ok (ofFloat (x.toFloat / y.toFloat))
  | .floorDivide => if y.isZero then .error .arithmetic else .ok (.real (x.floorDivide y))
  | .modulo => if y.isZero then .error .arithmetic else .ok (.real (x.modulo y))
  | .power => realPower x y

def numberOperation (operation : Operation) : Int ⊕ Double -> Int ⊕ Double -> Except Failure Entity
  | .inl m, .inl n => wholeOperation operation m n
  | a, b => do realOperation operation (<- realOf a) (<- realOf b)

def negative (entity : Entity) : Except Failure Entity :=
  match entity with
  | .undefined => .error missing
  | _ =>
    match entity.number? with
    | some (.inl n) => .ok (.int (-n))
    | some (.inr x) => .ok (.real x.negate)
    | none => .error .wrongKind

def positive (entity : Entity) : Except Failure Entity :=
  match entity with
  | .undefined => .error missing
  | _ =>
    match entity.number? with
    | some (.inl n) => .ok (.int n)
    | some (.inr x) => .ok (.real x)
    | none => .error .wrongKind

def truncate : Int ⊕ Double -> Except Failure Int
  | .inl n => .ok n
  | .inr x =>
    if x.isNaN then .error .badValue
    else if x.isInf then .error .tooLarge
    else .ok x.truncated

end Entity

namespace Render

/-! ## Escaping -/

def escaped (entity : Entity) : Render String := do
  match entity with
  | .markup value => return value
  | .exports _ _ printed => return printed
  | _ => return escapeMarkup (<- display entity)

def isEscaped : Entity -> Bool
  | .markup _ | .exports _ _ _ => true
  | _ => false

/-! ## Fields behind percent signs -/

def percentValues (safe : Bool) (keyed : Option (String -> Render Entity)) : Format.Percent.Values Render Entity where
  keyed := keyed
  text kind value := do
    let plain <- match kind with
      | 's' => if safe then return <- escaped value else display value
      | 'r' => quoted value
      | _ => return escapedWide (<- quoted value)
    return if safe then escapeMarkup plain else plain
  whole exact value := do
    match value with
    | .undefined => throw (if exact then .wrongKind else missing)
    | _ =>
      match value.number? with
      | some (.inr x) => if exact then throw .wrongKind else Entity.truncate (.inr x)
      | some (.inl n) => return n
      | none => throw .wrongKind
  real value := do
    match value with
    | .undefined => throw missing
    | _ =>
      match value.number? with
      | some number => Entity.realOf number
      | none => throw .wrongKind
  char value := do
    match value.whole?, value.text? with
    | some n, _ =>
      if n < 0 || 0x10FFFF < n then throw .tooLarge else return ofCode n.toNat
    | _, some s =>
      match s.toList with
      | [c] => return c
      | _ => throw .wrongKind
    | _, _ => throw .wrongKind

def keyedValues (value : Entity) : Render (Option (String -> Render Entity)) := do
  match value with
  | .undefined => return some fun _ => throw missing
  | .range _ _ _ | .bytes _ => return some fun _ => throw .wrongKind
  | .cell number =>
    match <- cell? number with
    | some (.map pairs) =>
      return some fun key => do
        match <- lookup (.text key) pairs with
        | some found => return found
        | none => throw (.noKey (Text.quoted key))
    | some (.list _) => return some fun _ => throw .wrongKind
    | _ => return none
  | _ => return none

def fillPercent (safe : Bool) (text : String) (value : Entity) : Render Entity := do
  let left : Format.Percent.Left Entity := match value.tuple? with
    | some items => .listed items
    | none => .single value
  let filled <- Format.Percent.fill (percentValues safe (<- keyedValues value)) left text
  return if safe then .markup filled else .text filled

/-! ## Two operands -/

def repetition (n : Int) (size : Nat) : Render Nat := do
  if 100000000 < n.toNat * size then throw .unsupported
  return n.toNat

def repeated (value : Entity) (n : Int) : Render Entity := do
  match value with
  | .text s => return .text (Text.repeated (<- repetition n s.length) s)
  | .markup s => return .markup (Text.repeated (<- repetition n s.length) s)
  | .bytes b =>
    return .bytes ⟨(List.replicate (<- repetition n b.size) b.toList).flatten.toArray⟩
  | .cell number =>
    match <- cell? number with
    | some (.list items) =>
      newList (List.replicate (<- repetition n items.size) items.toList).flatten
    | _ => throw .wrongKind
  | _ =>
    match value.tuple? with
    | some items => return .tuple (List.replicate (<- repetition n items.length) items).flatten
    | none => throw .wrongKind

def joined (a b : Entity) : Render Entity := do
  match a, b with
  | .text s, .text t => return .text (s ++ t)
  | .markup s, .text _ | .markup s, .markup _ | .markup s, .exports _ _ _ =>
    return .markup (s ++ (<- escaped b))
  | .text _, .markup t | .exports _ _ _, .markup t => return .markup ((<- escaped a) ++ t)
  | .bytes x, .bytes y => return .bytes (x ++ y)
  | .cell x, .cell y =>
    match <- cell? x, <- cell? y with
    | some (.list xs), some (.list ys) => newList (xs.toList ++ ys.toList)
    | _, _ => throw .wrongKind
  | _, _ =>
    match a.tuple?, b.tuple? with
    | some xs, some ys => return .tuple (xs ++ ys)
    | _, _ => throw .wrongKind

def binary (operation : Operation) (a b : Entity) : Render Entity := do
  match operation, a with
  | .modulo, .text s => fillPercent false s b
  | .modulo, .markup s => fillPercent true s b
  | _, _ =>
    if a.isUndefined || b.isUndefined then throw missing
    match a.number?, b.number?, operation with
    | some x, some y, _ => Entity.numberOperation operation x y
    | _, some (.inl n), .multiply => repeated a n
    | some (.inl n), _, .multiply => repeated b n
    | _, _, .add => joined a b
    | _, _, .divide =>
      match a, b with
      | .path p, .path q => return .path (p / q)
      | .path p, .text s => return .path (p / s)
      | .text s, .path q => return .path (Path.ofString s / q)
      | _, _ => throw .wrongKind
    | _, _, _ => throw .wrongKind

def isPartOf (part : Entity) (text : String) : Render Bool := do
  match part.text? with
  | some s => return contains text s
  | none => throw .wrongKind

end Render

end Refinery.Template
