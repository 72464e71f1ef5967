import Refinery.Text.CharacterClass
import Refinery.Text.Search

namespace Refinery.Decimal

/-!
# Shortest decimals of binary fractions

A finite binary64 value is `mantissa * 2 ^ exponent`.
-/

structure Double where
  bits : UInt64
  deriving DecidableEq

namespace Double

def toFloat (x : Double) : Float :=
  Float.ofBits x.bits

def ofFloat (x : Float) : Double :=
  ⟨x.toBits⟩

def isNaN (x : Double) : Bool :=
  x.toFloat.isNaN

def isInf (x : Double) : Bool :=
  x.toFloat.isInf

def isNegative (x : Double) : Bool :=
  x.bits >>> 63 == 1

end Double

/-- A positive binary fraction; `wide` says that the gap below it is as wide as the gap above. -/
structure Binary where
  mantissa : Nat
  exponent : Int
  wide : Bool

def Binary.ofDouble (x : Double) : Binary :=
  let fraction := (x.bits &&& 0xFFFFFFFFFFFFF).toNat
  let field := ((x.bits >>> 52) &&& 0x7FF).toNat
  if field = 0 then ⟨fraction, -1074, true⟩
  else ⟨fraction + 0x10000000000000, (field : Int) - 1075, fraction != 0 || field = 1⟩

structure Interval where
  low : Nat
  value : Nat
  high : Nat
  denominator : Nat
  closed : Bool

def Binary.interval (b : Binary) : Interval :=
  let exponent := b.exponent - 2
  let factor := Nat.pow 2 exponent.toNat
  let denominator := Nat.pow 2 (-exponent).toNat
  let low := if b.wide then 4 * b.mantissa - 2 else 4 * b.mantissa - 1
  ⟨low * factor, 4 * b.mantissa * factor, (4 * b.mantissa + 2) * factor, denominator, b.mantissa % 2 == 0⟩

namespace Interval

def holds (i : Interval) (digits : Nat) (scale : Int) : Bool :=
  let up := Nat.pow 10 scale.toNat
  let down := Nat.pow 10 (-scale).toNat
  let point := digits * up * i.denominator
  let low := i.low * down
  let high := i.high * down
  if i.closed then low ≤ point && point ≤ high else low < point && point < high

/-- The digits on the grid of `10 ^ scale`, rounded down, with twice the remainder compared to a step. -/
def grid (i : Interval) (scale : Int) : Nat × Ordering :=
  let up := Nat.pow 10 scale.toNat
  let down := Nat.pow 10 (-scale).toNat
  let step := up * i.denominator
  let value := i.value * down
  (value / step, compare (2 * (value % step)) step)

/-- The best decimal on the grid of `10 ^ scale`, if a neighbour there lies in the interval. -/
def pick? (i : Interval) (scale : Int) : Option Nat :=
  let (below, half) := i.grid scale
  let lower := i.holds below scale
  let upper := i.holds (below + 1) scale
  if lower && (!upper || half == .lt || (half == .eq && below % 2 == 0)) then some below
  else if upper then some (below + 1)
  else none

def magnitude (i : Interval) : (fuel : Nat) -> (start : Int) -> Int
  | 0, start => start
  | fuel + 1, start =>
    if i.value * Nat.pow 10 (-start).toNat < Nat.pow 10 start.toNat * i.denominator then start
    else i.magnitude fuel (start + 1)

def shortest (i : Interval) (magnitude : Int) : (fuel : Nat) -> (digits : Nat) -> Nat × Int
  | 0, digits => ((i.grid (magnitude - digits)).1, magnitude - digits)
  | fuel + 1, digits =>
    match i.pick? (magnitude - digits) with
    | some found => (found, magnitude - digits)
    | none => i.shortest magnitude fuel (digits + 1)

end Interval

def dropZeros : (fuel : Nat) -> Nat -> Int -> Nat × Int
  | 0, digits, scale => (digits, scale)
  | fuel + 1, digits, scale =>
    if digits ≠ 0 && digits % 10 = 0 then dropZeros fuel (digits / 10) (scale + 1)
    else (digits, scale)

def shortestDigits (x : Double) : Nat × Int :=
  let b := Binary.ofDouble x
  let i := b.interval
  -- a lower estimate of the decimal magnitude from the binary one
  let bits : Int := b.exponent + (b.mantissa.log2 : Int)
  let start : Int := if 0 ≤ bits then bits * 3 / 10 - 1 else bits * 31 / 100 - 2
  let (digits, scale) := i.shortest (i.magnitude 400 start) 17 1
  dropZeros 20 digits scale

structure Decimals where
  digits : List Char
  point : Int

/-- Digits around a point; with `pointed`, the point is there even if nothing follows it. -/
def positional (d : Decimals) (pointed : Bool) : String :=
  let whole :=
    if d.point ≤ 0 then ['0']
    else d.digits.take d.point.toNat ++ List.replicate (d.point.toNat - d.digits.length) '0'
  let fraction := List.replicate (-d.point).toNat '0' ++ d.digits.drop d.point.toNat
  String.ofList whole ++ (if fraction.isEmpty then (if pointed then "." else "") else "." ++ String.ofList fraction)

def withExponent (d : Decimals) (pointed : Bool) : String :=
  let power := d.point - 1
  positional ⟨d.digits, 1⟩ pointed ++ "e" ++ (if power < 0 then "-" else "+") ++ Text.padLeft '0' 2 (toString power.natAbs)

def text (x : Double) : String :=
  if x.isNaN then "nan"
  else
    let sign := if x.isNegative then "-" else ""
    if x.isInf then sign ++ "inf"
    else if x.bits &&& 0x7FFFFFFFFFFFFFFF == 0 then sign ++ "0.0"
    else
      let (digits, scale) := shortestDigits x
      let shown := Nat.toDigits 10 digits
      let point : Int := (shown.length : Int) + scale
      if -4 < point && point ≤ 16 then
        sign ++ positional ⟨shown, point⟩ false ++ (if 0 ≤ scale then ".0" else "")
      else sign ++ withExponent ⟨shown, point⟩ false

/-! ## Reading decimal numbers -/

def digitsValue (seed : Nat) (digits : List Char) : Nat :=
  digits.foldl (fun n c => n * 10 + (c.toNat - '0'.toNat)) seed

/-- `mantissa * 10 ^ power`, where powers out of range are cut off before they are computed. -/
def scaled (negative : Bool) (mantissa : Nat) (power : Int) : Double :=
  let size : Int := (Nat.toDigits 10 mantissa).length
  let magnitude : Float :=
    if mantissa = 0 then 0.0
    else if power + size > 400 then 1.0 / 0.0
    else if power + size < -400 then 0.0
    else if power < 0 then Float.ofScientific mantissa true power.natAbs
    else Float.ofScientific mantissa false power.natAbs
  Double.ofFloat (if negative then -magnitude else magnitude)

def exponent? : List Char -> Option Int
  | [] => some 0
  | e :: rest =>
    let down := rest.head? == some '-'
    let digits := if down || rest.head? == some '+' then rest.drop 1 else rest
    let value : Int := digitsValue 0 digits
    if (e = 'e' || e = 'E') && !digits.isEmpty && digits.all Char.isDigit then
      some (if down then -value else value)
    else none

def read? (cs : List Char) : Option Double := do
  let negative := cs.head? == some '-'
  let cs := if negative || cs.head? == some '+' then cs.drop 1 else cs
  let whole := cs.takeWhile Char.isDigit
  let cs := cs.drop whole.length
  let pointed := cs.head? == some '.'
  let fraction := if pointed then (cs.drop 1).takeWhile Char.isDigit else []
  let cs := if pointed then cs.drop (fraction.length + 1) else cs
  guard (!(whole.isEmpty && fraction.isEmpty))
  let power <- exponent? cs
  return scaled negative (digitsValue (digitsValue 0 whole) fraction) (power - fraction.length)

/-! ## Exact values of binary fractions -/

def roundDiv (numerator denominator : Nat) : Nat :=
  let low := numerator / denominator
  let rest := 2 * (numerator % denominator)
  if rest < denominator || (rest = denominator && low % 2 = 0) then low else low + 1

namespace Double

variable (x : Double)

def isFinite : Bool :=
  !x.isNaN && !x.isInf

def isZero : Bool :=
  x.bits &&& 0x7FFFFFFFFFFFFFFF == 0

def negate : Double :=
  ⟨x.bits ^^^ 0x8000000000000000⟩

def magnitude : Double :=
  ⟨x.bits &&& 0x7FFFFFFFFFFFFFFF⟩

def withSignOf (y : Double) : Double :=
  if y.isNegative then x.magnitude.negate else x.magnitude

def zero : Double := ⟨0⟩

def infinite : Double := ⟨0x7FF0000000000000⟩

def notANumber : Double := ⟨0x7FF8000000000000⟩

def size : Nat × Nat :=
  let b := Binary.ofDouble x
  (b.mantissa * Nat.pow 2 b.exponent.toNat, Nat.pow 2 (-b.exponent).toNat)

def ratio : Int × Nat :=
  let (numerator, denominator) := x.size
  (if x.isNegative then -(numerator : Int) else numerator, denominator)

def lowestRatio : Int × Nat :=
  let (numerator, denominator) := x.ratio
  let common := Nat.gcd numerator.natAbs denominator
  (numerator / (common : Int), denominator / common)

def floor : Int :=
  let (numerator, denominator) := x.ratio
  Int.fdiv numerator denominator

def ceiling : Int :=
  let (numerator, denominator) := x.ratio
  Int.neg (Int.fdiv (-numerator) denominator)

def truncated : Int :=
  let (numerator, denominator) := x.ratio
  Int.tdiv numerator denominator

def isWhole : Bool :=
  x.isFinite && x.size.1 % x.size.2 == 0

/-- The bits of `mantissa * 2 ^ exponent`, for a mantissa in its range. -/
def assemble (negative : Bool) (mantissa : Nat) (exponent : Int) : Double :=
  let sign : UInt64 := if negative then 0x8000000000000000 else 0
  if Nat.pow 2 53 ≤ mantissa then assembleLarge sign (mantissa / 2) (exponent + 1)
  else assembleLarge sign mantissa exponent
where
  assembleLarge (sign : UInt64) (mantissa : Nat) (exponent : Int) : Double :=
    if mantissa < Nat.pow 2 52 then ⟨sign ||| mantissa.toUInt64⟩
    else
      let field := exponent + 1075
      if 2047 ≤ field then ⟨sign ||| 0x7FF0000000000000⟩
      else ⟨sign ||| ((mantissa - Nat.pow 2 52) + field.toNat * Nat.pow 2 52).toUInt64⟩

def ofRatio (negative : Bool) (numerator denominator : Nat) : Double :=
  if numerator = 0 || denominator = 0 then assemble negative 0 (-1074)
  else
    let guess : Int := (numerator.log2 : Int) - (denominator.log2 : Int) - 52
    let parts (exponent : Int) : Nat × Nat :=
      (numerator * Nat.pow 2 (-exponent).toNat, denominator * Nat.pow 2 exponent.toNat)
    let (top, bottom) := parts guess
    let exponent := max (-1074) (if top / bottom < Nat.pow 2 52 then guess - 1 else guess)
    let (top, bottom) := parts exponent
    if 1024 < exponent then assemble negative (Nat.pow 2 52) exponent
    else assemble negative (roundDiv top bottom) exponent

def ofInt (n : Int) : Double :=
  ofRatio (n < 0) n.natAbs 1

def compareInt (n : Int) : Ordering :=
  if x.isInf then if x.isNegative then .lt else .gt
  else
    let (numerator, denominator) := x.ratio
    compare numerator (n * denominator)

def remainder (y : Double) : Double :=
  if x.isNaN || y.isNaN || x.isInf || y.isZero then notANumber
  else if y.isInf then x
  else
    let (a, b) := x.size
    let (c, d) := y.size
    ofRatio x.isNegative ((a * d) % (c * b)) (b * d)

def modulo (y : Double) : Double :=
  let rest := x.remainder y
  if rest.isNaN then rest
  else if rest.isZero then zero.withSignOf y
  else if rest.isNegative != y.isNegative then ofFloat (rest.toFloat + y.toFloat)
  else rest

def floorDivide (y : Double) : Double :=
  let rest := x.remainder y
  if rest.isNaN then rest
  else
    let moved := !rest.isZero && rest.isNegative != y.isNegative
    let quotient := (x.toFloat - rest.toFloat) / y.toFloat
    let quotient := if moved then quotient - 1.0 else quotient
    if quotient == 0.0 then zero.withSignOf (ofFloat (x.toFloat / y.toFloat))
    else
      let low := quotient.floor
      ofFloat (if quotient - low > 0.5 then low + 1.0 else low)

end Double

def sameNumber : Int ⊕ Double -> Int ⊕ Double -> Bool
  | .inl a, .inl b => a == b
  | .inr a, .inr b => a.toFloat == b.toFloat
  | .inl a, .inr b => !b.isNaN && b.compareInt a == .eq
  | .inr a, .inl b => !a.isNaN && a.compareInt b == .eq

def lessNumber : Int ⊕ Double -> Int ⊕ Double -> Bool
  | .inl a, .inl b => decide (a < b)
  | .inr a, .inr b => a.toFloat < b.toFloat
  | .inl a, .inr b => !b.isNaN && b.compareInt a == .gt
  | .inr a, .inl b => !a.isNaN && a.compareInt b == .lt

/-! ## Numbers as people write them -/

def plainChar (c : Char) : Char :=
  if c.toNat < 127 then c
  else if Text.isBlank c then ' '
  else
    match Text.digitValue? c with
    | some value => Char.ofNat (48 + value)
    | none => c

def isMargin (c : Char) : Bool :=
  c == ' ' || (9 ≤ c.toNat && c.toNat ≤ 13)

def plainChars (s : String) : List Char :=
  (((s.toList.map plainChar).dropWhile isMargin).reverse.dropWhile isMargin).reverse

def digitOf? (base : Nat) (c : Char) : Option Nat := do
  guard c.isAlphanum
  let value := if c.isDigit then c.toNat - 48 else c.toLower.toNat - 87
  guard (value < base)
  return value

def barredValue? (base : Nat) : (seed : Nat) -> List Char -> Option Nat
  | seed, [] => some seed
  | seed, '_' :: c :: rest | seed, c :: rest => do
    barredValue? base (seed * base + (<- digitOf? base c)) rest

def markedBase? (c : Char) : Option Nat :=
  [('x', 16), ('o', 8), ('b', 2)].lookup c.toLower

def mostDigits : Nat := 4300

def tooLong (base : Nat) (cs : List Char) : Bool :=
  mostDigits < (cs.filter (· != '_')).length && !([2, 4, 8, 16, 32].contains base)

def wholeMagnitude? (base : Nat) (cs : List Char) : Option Nat :=
  let marked := do
    let '0' :: mark :: rest := cs | none
    let found <- markedBase? mark
    guard (base = 0 || base = found)
    return (found, if rest.head? = some '_' then rest.drop 1 else rest)
  let digits (base : Nat) (cs : List Char) : Option Nat := do
    let c :: rest := cs | none
    guard !(tooLong base cs)
    barredValue? base (<- digitOf? base c) rest
  match marked with
  | some (found, rest) => digits found rest
  | none =>
    if base = 0 then
      (digits 10 cs).filter fun value => cs.head? ≠ some '0' || value = 0
    else digits base cs

def signed (cs : List Char) : Bool × List Char :=
  let negative := cs.head? == some '-'
  (negative, if negative || cs.head? == some '+' then cs.drop 1 else cs)

def readWhole? (base : Nat) (s : String) : Option Int :=
  let (negative, cs) := signed (plainChars s)
  (wholeMagnitude? base cs).map fun n => if negative then -(n : Int) else n

def withoutBars? : (before : Option Char) -> List Char -> Option (List Char)
  | before, '_' :: rest =>
    match before, rest with
    | some d, c :: _ =>
      if d.isDigit && c.isDigit then withoutBars? (some '_') rest else none
    | _, _ => none
  | _, c :: rest => (withoutBars? (some c) rest).map (c :: ·)
  | _, [] => some []

def readReal? (s : String) : Option Double :=
  (withoutBars? none (plainChars s)).bind fun cs =>
    let (negative, unsigned) := signed cs
    let word := String.ofList (unsigned.map Char.toLower)
    let special (x : Double) := some (if negative then x.negate else x)
    if word = "inf" || word = "infinity" then special Double.infinite
    else if word = "nan" then special Double.notANumber
    else read? cs

end Refinery.Decimal
