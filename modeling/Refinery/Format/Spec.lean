import Refinery.Decimal
import Refinery.Failure
import Refinery.Text.Case

namespace Refinery
namespace Format

open Text

/-!
# Digits of fractional numbers
-/

open Decimal (Decimals Double positional withExponent)

inductive Style where
  | fixed
  | scientific
  | general
  | shortest
  deriving DecidableEq

def filledDigits (count : Nat) (n : Nat) : List Char :=
  let digits := Nat.toDigits 10 n
  List.replicate (count - digits.length) '0' ++ digits

def fixedDigits (x : Double) (places : Nat) : Decimals :=
  let (numerator, denominator) := x.size
  let scaled := Decimal.roundDiv (numerator * Nat.pow 10 places) denominator
  let digits := filledDigits (places + 1) scaled
  ⟨digits, (digits.length : Int) - places⟩

/-- The power of ten of the first digit of a positive ratio, searched from `start` upwards. -/
def leadingPower (numerator denominator : Nat) : (fuel : Nat) -> (start : Int) -> Int
  | 0, start => start
  | fuel + 1, start =>
    let next := start + 1
    if denominator * Nat.pow 10 next.toNat ≤ numerator * Nat.pow 10 (-next).toNat then
      leadingPower numerator denominator fuel next
    else start

def leadingDigits (x : Double) (count : Nat) : Decimals :=
  let (numerator, denominator) := x.size
  if numerator = 0 then ⟨List.replicate count '0', 1⟩
  else
    let guess : Int := ((numerator.log2 : Int) - (denominator.log2 : Int)) * 3 / 10 - 2
    let guess := if guess < 0 then guess * 11 / 10 - 1 else guess
    let power := leadingPower numerator denominator 700 guess
    let scale := power - (count : Int) + 1
    let rounded := Decimal.roundDiv (numerator * Nat.pow 10 (-scale).toNat)
      (denominator * Nat.pow 10 scale.toNat)
    let digits := filledDigits count rounded
    if digits.length = count then ⟨digits, power + 1⟩ else ⟨digits.take count, power + 2⟩

def withoutZeros (digits : List Char) : List Char :=
  match (digits.reverse.dropWhile (· == '0')).reverse with
  | [] => ['0']
  | kept => kept

def finiteText (style : Style) (precision : Nat) (alternate dotted : Bool) (x : Double) : String :=
  match style with
  | .fixed => positional (fixedDigits x precision) alternate
  | .scientific => withExponent (leadingDigits x (precision + 1)) alternate
  | .shortest =>
    let shown := Decimal.text x.magnitude
    if alternate && !shown.contains '.' then
      let digits := shown.toList.takeWhile Char.isDigit
      String.ofList digits ++ "." ++ drop digits.length shown
    else shown
  | .general =>
    let count := max precision 1
    let found := leadingDigits x count
    let digits := if alternate then found.digits else withoutZeros found.digits
    let most : Int := if dotted then (count : Int) - 1 else count
    if found.point ≤ -4 || most < found.point then
      withExponent ⟨digits, found.point⟩ alternate
    else
      let shown := positional ⟨digits, found.point⟩ alternate
      if dotted && !shown.contains '.' then shown ++ ".0" else shown

def sizeText (style : Style) (precision : Nat) (alternate dotted : Bool) (x : Double) : String :=
  if x.isNaN then "nan"
  else if x.isInf then "inf"
  else finiteText style precision alternate dotted x

/-! ## Specifications of how values are written -/

inductive Alignment where
  | left
  | right
  | middle
  | inside
  deriving DecidableEq

structure Spec where
  fill : Char := ' '
  alignment : Option Alignment := none
  sign : Option Char := none
  plainZero : Bool := false
  alternate : Bool := false
  zeroed : Bool := false
  width : Option Nat := none
  grouping : Option Char := none
  precision : Option Nat := none
  kind : Option Char := none
  deriving DecidableEq

namespace Spec

def alignment? (c : Char) : Option Alignment :=
  [('<', .left), ('>', .right), ('^', .middle), ('=', .inside)].lookup c

def number? (cs : List Char) : Option Nat × List Char :=
  let digits := cs.takeWhile isDigit
  if digits.isEmpty then (none, cs)
  else (some (digits.foldl (fun n c => n * 10 + (digitValue? c).getD 0) 0), cs.drop digits.length)

def largest : Nat := Nat.pow 2 63 - 1

def aligned (cs : List Char) : Option Char × Option Alignment × List Char :=
  match cs.head?.bind alignment?, cs[1]?.bind alignment? with
  | _, some alignment => (cs.head?, some alignment, cs.drop 2)
  | some alignment, none => (none, some alignment, cs.drop 1)
  | none, none => (none, none, cs)

def mayGroup (grouping : Char) : Option Char -> Bool
  | none => true
  | some kind => "defgEG%F".contains kind || (grouping == '_' && "boxX".contains kind)

def accept (allowed : String) (cs : List Char) : Option Char × List Char :=
  match cs with
  | c :: rest => if allowed.contains c then (some c, rest) else (none, cs)
  | [] => (none, [])

def parse (text : String) : Except Failure Spec := do
  let (fill, alignment, cs) := aligned text.toList
  let (sign, cs) := accept " +-" cs
  let (plain, cs) := accept "z" cs
  let (alternate, cs) := accept "#" cs
  let (zero, cs) := if fill.isSome then (none, cs) else accept "0" cs
  let (width, cs) := number? cs
  let (comma, cs) := accept "," cs
  let (bar, cs) := accept "_" cs
  let (point, cs) := accept "." cs
  let (precision, cs) := if point.isSome then number? cs else (none, cs)
  let (kind, cs) := (cs.head?, cs.drop 1)
  let grouping := comma <|> bar
  if width.any (largest < ·) || precision.any (largest < ·) || (comma.isSome && bar.isSome) ||
      (point.isSome && precision.isNone) || !cs.isEmpty || grouping.any (!mayGroup · kind) then
    throw .badValue
  return {
    fill := (zero <|> fill).getD ' '
    plainZero := plain.isSome
    alternate := alternate.isSome
    zeroed := zero.isSome
    alignment, sign, width, grouping, precision, kind }

variable (spec : Spec)

def pad (usual : Alignment) (text : String) : String :=
  let missing := spec.width.getD 0 - text.length
  let before := match spec.alignment.getD usual with
    | .left => 0
    | .right | .inside => missing
    | .middle => missing / 2
  repeated before (String.singleton spec.fill) ++ text ++ repeated (missing - before) (String.singleton spec.fill)

def text (value : String) : Except Failure String :=
  if spec.kind.any (· != 's') || spec.sign.isSome || spec.plainZero || spec.alternate ||
      spec.alignment == some .inside || spec.grouping.isSome then .error .badValue
  else
    .ok (spec.pad .left ((spec.precision.map (take · value)).getD value))

/-! ## Numbers -/

structure Parts where
  negative : Bool
  mark : String := ""
  digits : List Char
  rest : String := ""

/-- Digits in groups of `size`, filled up with zeros to `least` characters. -/
def grouped (size : Nat) (sign : Char) : (fuel : Nat) -> (first : Bool) -> (least : Int) -> (reversed : List Char) -> List Char
  | 0, _, _, reversed => reversed.reverse
  | fuel + 1, first, least, reversed =>
    let wanted := max (max (reversed.length : Int) least) 1
    let count := min size wanted.toNat
    let taken := reversed.take count
    let group := List.replicate (count - taken.length) '0' ++ taken.reverse
    let left := reversed.drop count
    let least := least - count
    let tail := group ++ (if first then [] else [sign])
    if left.isEmpty && least ≤ 0 then tail
    else grouped size sign fuel false (least - 1) left ++ tail

def signText (negative : Bool) : String :=
  if negative then "-"
  else ((spec.sign.filter (· != '-')).map String.singleton).getD ""

def assemble (groupSize : Nat) (parts : Parts) : String :=
  let sign := spec.signText parts.negative
  let alignment := spec.alignment.getD (if spec.zeroed then .inside else .right)
  let others := sign.length + parts.mark.length + parts.rest.length
  let least : Int :=
    if spec.fill == '0' && alignment == .inside then
      (spec.width.map fun (width : Nat) => (width : Int) - others).getD 0
    else 0
  let digits :=
    if parts.digits.isEmpty then []
    else
      match spec.grouping with
      | some mark =>
        grouped groupSize mark (parts.digits.length + least.toNat + 1) true least
          parts.digits.reverse
      | none => List.replicate (least.toNat - parts.digits.length) '0' ++ parts.digits
  let missing := spec.width.getD 0 - (others + digits.length)
  let filling (n : Nat) := repeated n (String.singleton spec.fill)
  let body := String.ofList digits ++ parts.rest
  match alignment with
  | .left => sign ++ parts.mark ++ body ++ filling missing
  | .right => filling missing ++ sign ++ parts.mark ++ body
  | .middle =>
    filling (missing / 2) ++ sign ++ parts.mark ++ body ++ filling (missing - missing / 2)
  | .inside => sign ++ parts.mark ++ filling missing ++ body

def style? : Char -> Option Style
  | 'e' | 'E' => some .scientific
  | 'f' | 'F' | '%' => some .fixed
  | 'g' | 'G' | 'n' => some .general
  | _ => none

def real (value : Double) : Except Failure String := do
  let percent := spec.kind == some '%'
  let value := if percent then Double.ofFloat (value.toFloat * 100.0) else value
  let (style, usual, dotted) <- match spec.kind with
    | none => pure (if spec.precision.isSome then Style.general else .shortest, 0, true)
    | some kind => pure (<- (style? kind).getDM (throw .badValue), 6, false)
  if spec.precision.any (Nat.pow 2 31 - 1 < ·) then throw .badValue
  let shown := sizeText style (spec.precision.getD usual) spec.alternate dotted value
  let shown := if spec.kind.any fun kind => "EFG".toList.contains kind then upper shown else shown
  let shown := if percent then shown ++ "%" else shown
  let zero := spec.plainZero && value.isFinite && (shown.toList.takeWhile fun c =>
    c != 'e' && c != 'E').all fun c => c == '0' || c == '.' || c == '%'
  let digits := shown.toList.takeWhile Char.isDigit
  return spec.assemble 3
    { negative := value.isNegative && !value.isNaN && !zero
      digits
      rest := drop digits.length shown }

def whole (value : Int) : Except Failure String := do
  let kind := spec.kind.getD 'd'
  if (style? kind).isSome && kind != 'n' then
    let x := Double.ofInt value
    if x.isInf then throw .tooLarge
    return <- spec.real x
  if spec.precision.isSome || spec.plainZero then throw .badValue
  if kind == 'c' then
    if spec.sign.isSome || spec.alternate then throw .badValue
    if value < 0 || 0x110000 ≤ value then throw .tooLarge
    return spec.assemble 3 { negative := false, digits := [], rest := String.singleton (ofCode value.toNat) }
  let (base, mark) <- match kind with
    | 'd' | 'n' => pure (10, "")
    | 'b' => pure (2, "0b")
    | 'o' => pure (8, "0o")
    | 'x' => pure (16, "0x")
    | 'X' => pure (16, "0X")
    | _ => throw .badValue
  let digits := Nat.toDigits base value.natAbs
  return spec.assemble (if base = 10 then 3 else 4)
    { negative := value < 0
      mark := if spec.alternate then mark else ""
      digits := if kind == 'X' then digits.map Char.toUpper else digits }

end Spec

def text (specification value : String) : Except Failure String := do
  if specification = "" then return value
  (<- Spec.parse specification).text value

def whole (specification : String) (value : Int) : Except Failure String := do
  if specification = "" then return toString value
  (<- Spec.parse specification).whole value

def real (specification : String) (value : Double) : Except Failure String := do
  if specification = "" then return Decimal.text value
  (<- Spec.parse specification).real value

end Format
end Refinery
