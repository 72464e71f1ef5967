import Refinery.Format.Spec

namespace Refinery.Format.Percent

open Text

/-!
# Texts with fields behind percent signs
-/

open Decimal (Double)

structure Values (m : Type -> Type) (α : Type) where
  keyed : Option (String -> m α)
  text : Char -> α -> m String
  whole : (exact : Bool) -> α -> m Int
  real : α -> m Double
  char : α -> m Char

inductive Left (α : Type) where
  | listed (rest : List α)
  | single (value : α)
  | nothing

structure Field where
  left : Bool := false
  plus : Bool := false
  blank : Bool := false
  alternate : Bool := false
  zero : Bool := false
  width : Option Nat := none
  precision : Option Nat := none

variable {m : Type -> Type} {α : Type} [Monad m] [MonadExceptOf Failure m]

def next : Left α -> m (α × Left α)
  | .listed (value :: rest) => pure (value, .listed rest)
  | .single value => pure (value, .nothing)
  | _ => throw Failure.wrongKind

def key? : (depth : Nat) -> List Char -> Option (List Char × List Char)
  | _, [] => none
  | 0, ')' :: rest => some ([], rest)
  | depth, c :: rest =>
    let depth := if c == '(' then depth + 1 else if c == ')' then depth - 1 else depth
    (key? depth rest).map fun (key, left) => (c :: key, left)

def flags (field : Field) : List Char -> Field × List Char
  | '-' :: rest => flags { field with left := true } rest
  | '+' :: rest => flags { field with plus := true } rest
  | ' ' :: rest => flags { field with blank := true } rest
  | '#' :: rest => flags { field with alternate := true } rest
  | '0' :: rest => flags { field with zero := true } rest
  | rest => (field, rest)

def digits (cs : List Char) : Nat × List Char :=
  let found := cs.takeWhile Char.isDigit
  (found.foldl (fun n c => 10 * n + (c.toNat - 48)) 0, cs.drop found.length)

def width (values : Values m α) (field : Field) (left : Left α) (cs : List Char) :
    m (Field × Left α × List Char) := do
  match cs with
  | '*' :: rest =>
    let (value, left) <- next left
    let n <- values.whole true value
    if Nat.pow 2 63 ≤ n.natAbs then throw Failure.tooLarge
    return (if n < 0 then { field with left := true, width := some n.natAbs }
      else { field with width := some n.natAbs }, left, rest)
  | _ =>
    if !cs.head?.any Char.isDigit then return (field, left, cs)
    let (n, rest) := digits cs
    if Nat.pow 2 31 ≤ n then throw Failure.badValue
    return ({ field with width := some n }, left, rest)

def precision (values : Values m α) (field : Field) (left : Left α) (cs : List Char) :
    m (Field × Left α × List Char) := do
  match cs with
  | '.' :: '*' :: rest =>
    let (value, left) <- next left
    let n <- values.whole true value
    if Nat.pow 2 31 ≤ n.natAbs then throw Failure.tooLarge
    return ({ field with precision := some n.toNat }, left, rest)
  | '.' :: rest =>
    let (n, rest) := digits rest
    if Nat.pow 2 31 ≤ n then throw Failure.badValue
    return ({ field with precision := some n }, left, rest)
  | _ => return (field, left, cs)

def textField (field : Field) (text : String) : String :=
  let text := (field.precision.map (take · text)).getD text
  let missing := repeated (field.width.getD 0 - text.length) " "
  if field.left then text ++ missing else missing ++ text

def numberField (field : Field) (negative : Bool) (mark digits : String) : String :=
  let sign := if negative then "-" else if field.plus then "+" else if field.blank then " " else ""
  let missing := field.width.getD 0 - (sign.length + mark.length + digits.length)
  if field.left then sign ++ mark ++ digits ++ repeated missing " "
  else if field.zero then sign ++ mark ++ repeated missing "0" ++ digits
  else repeated missing " " ++ sign ++ mark ++ digits

def wholeField (field : Field) (kind : Char) (n : Int) : String :=
  let base := if kind == 'o' then 8 else if kind == 'x' || kind == 'X' then 16 else 10
  let mark := if field.alternate && base ≠ 10 then "0" ++ String.singleton kind else ""
  let digits := padLeft '0' (field.precision.getD 0)
    (String.ofList (Nat.toDigits base n.natAbs))
  numberField field (n < 0) mark (if kind == 'X' then upper digits else digits)

def realField (field : Field) (kind : Char) (x : Double) : String :=
  let style : Style := match kind.toLower with
    | 'e' => .scientific
    | 'f' => .fixed
    | _ => .general
  let shown := sizeText style (field.precision.getD 6) field.alternate false x
  numberField field (x.isNegative && !x.isNaN) "" (if kind.isUpper then upper shown else shown)

def write (values : Values m α) (field : Field) (kind : Char) (value : α) : m String := do
  match kind with
  | 's' | 'r' | 'a' => return textField field (<- values.text kind value)
  | 'd' | 'i' | 'u' => return wholeField field 'd' (<- values.whole false value)
  | 'o' | 'x' | 'X' => return wholeField field kind (<- values.whole true value)
  | 'e' | 'E' | 'f' | 'F' | 'g' | 'G' => return realField field kind (<- values.real value)
  | 'c' => return textField { field with precision := none } (String.singleton (<- values.char value))
  | _ => throw Failure.badValue

def fillFrom (values : Values m α) : (fuel : Nat) -> Left α -> List Char -> m String
  | 0, _, _ => pure ""
  | _, left, [] =>
    match left, values.keyed with
    | .listed (_ :: _), _ => throw Failure.wrongKind
    | .single _, none => throw Failure.wrongKind
    | _, _ => pure ""
  | fuel + 1, left, '%' :: '%' :: rest => do
    return "%" ++ (<- fillFrom values fuel left rest)
  | fuel + 1, left, '%' :: cs => do
    let (left, cs) <- match cs with
      | '(' :: rest =>
        match values.keyed, key? 0 rest with
        | none, _ => throw Failure.wrongKind
        | _, none => throw Failure.badValue
        | some keyed, some (key, rest) => do
          pure (Left.single (<- keyed (String.ofList key)), rest)
      | _ => pure (left, cs)
    let (field, cs) := flags {} cs
    let (field, left, cs) <- width values field left cs
    let (field, left, cs) <- precision values field left cs
    let sized := cs.head?.any "hlL".toList.contains
    let kind :: rest := if sized then cs.drop 1 else cs | throw Failure.badValue
    let (value, left) <- next left
    let written <- write values field kind value
    return written ++ (<- fillFrom values fuel left rest)
  | fuel + 1, left, cs => do
    let plain := cs.takeWhile (· != '%')
    return String.ofList plain ++ (<- fillFrom values fuel left (cs.drop plain.length))

def fill (values : Values m α) (left : Left α) (text : String) : m String :=
  fillFrom values (text.length + 1) left text.toList

end Refinery.Format.Percent
