import Refinery.Doc.Basic

namespace Refinery.Json

open Text

/-!
# Writing JSON

Characters beyond ASCII are escaped by their code units.
-/

structure Layout where
  indent : Option Nat
  sorted : Bool := false

def Layout.line : Layout :=
  ⟨none, false⟩

def Layout.indented (width : Nat) : Layout :=
  ⟨some width, false⟩

def escapedUnit (code : Nat) : List Char :=
  '\\' :: 'u' :: (hex 4 code).toList

def escapedChar (c : Char) : List Char :=
  if c = '"' then ['\\', '"']
  else if c = '\\' then ['\\', '\\']
  else if c = '\n' then ['\\', 'n']
  else if c = '\r' then ['\\', 'r']
  else if c = '\t' then ['\\', 't']
  else if c = '\x0c' then ['\\', 'f']
  else if c = '\x08' then ['\\', 'b']
  else if 32 ≤ c.toNat && c.toNat < 127 then [c]
  else if codeOf c < 0x10000 then escapedUnit (codeOf c)
  else
    let offset := c.toNat - 0x10000
    escapedUnit (0xD800 + offset / 0x400) ++ escapedUnit (0xDC00 + offset % 0x400)

def string (s : String) : String :=
  String.ofList ('"' :: (s.toList.flatMap escapedChar ++ ['"']))

def real (x : Decimal.Double) : String :=
  if x.isNaN then "NaN"
  else if x.isInf then if x.isNegative then "-Infinity" else "Infinity"
  else Decimal.text x

def fieldName? : Doc -> Option String
  | .text s => some s
  | .int n => some (toString n)
  | .bool b => some (if b then "true" else "false")
  | .null => some "null"
  | .real x => some (real x)
  | _ => none

variable (layout : Layout)

def newLine (level : Nat) : String :=
  match layout.indent with
  | some width => "\n" ++ String.ofList (List.replicate (width * level) ' ')
  | none => ""

def separator (level : Nat) : String :=
  match layout.indent with
  | some _ => "," ++ newLine layout level
  | none => ", "

def enclosed (level : Nat) (opening closing : String) (items : List String) : String :=
  if items.isEmpty then opening ++ closing
  else
    opening ++ newLine layout (level + 1) ++ join (separator layout (level + 1)) items ++ newLine layout level ++ closing

def arrange (fields : List (String × String)) : List (String × String) :=
  if layout.sorted then Sorting.ordered (fun a b => le a.1 b.1) fields else fields

mutual

def written? (layout : Layout) (level : Nat) : Doc -> Option String
  | .null => some "null"
  | .bool b => some (if b then "true" else "false")
  | .int n => some (toString n)
  | .real x => some (real x)
  | .text s => some (string s)
  | .list items | .tuple items =>
    (writtenItems? layout level items).map (enclosed layout level "[" "]")
  | .map fields => (writtenFields? layout level fields).map fun fields =>
    enclosed layout level "\x7b" "\x7d"
      ((arrange layout fields).map fun field => string field.1 ++ ": " ++ field.2)
  | .bytes _ | .date _ | .moment _ | .set _ => none

def writtenItems? (layout : Layout) (level : Nat) : List Doc -> Option (List String)
  | [] => some []
  | item :: rest => do
    let first <- written? layout (level + 1) item
    let others <- writtenItems? layout level rest
    some (first :: others)

def writtenFields? (layout : Layout) (level : Nat) : List (Doc × Doc) -> Option (List (String × String))
  | [] => some []
  | (key, value) :: rest => do
    let name <- fieldName? key
    let first <- written? layout (level + 1) value
    let others <- writtenFields? layout level rest
    some ((name, first) :: others)

end

def print? (doc : Doc) : Option String :=
  written? layout 0 doc

/-! ## Reading JSON -/

open Decimal (Double)

def isGap (c : Char) : Bool :=
  c == ' ' || c == '\t' || c == '\n' || c == '\r'

def skipGap (cs : List Char) : List Char :=
  cs.dropWhile isGap

def hexDigit? (c : Char) : Option Nat :=
  if '0' ≤ c && c ≤ '9' then some (c.toNat - '0'.toNat)
  else if 'a' ≤ c && c ≤ 'f' then some (c.toNat - 'a'.toNat + 10)
  else if 'A' ≤ c && c ≤ 'F' then some (c.toNat - 'A'.toNat + 10)
  else none

def hexFour? : List Char -> Option (Nat × List Char)
  | a :: b :: c :: d :: rest => do
    let a <- hexDigit? a
    let b <- hexDigit? b
    let c <- hexDigit? c
    let d <- hexDigit? d
    some (((a * 16 + b) * 16 + c) * 16 + d, rest)
  | _ => none

def unit (code : Nat) (rest : List Char) : Char × List Char :=
  if 0xD800 ≤ code && code < 0xDC00 then
    match rest with
    | '\\' :: 'u' :: more =>
      match hexFour? more with
      | some (low, after) =>
        if 0xDC00 ≤ low && low < 0xE000 then
          (Char.ofNat (0x10000 + (code - 0xD800) * 0x400 + (low - 0xDC00)), after)
        else (ofCode code, rest)
      | none => (ofCode code, rest)
    | _ => (ofCode code, rest)
  else (ofCode code, rest)

def escape? : Char -> Option Char
  | '"' => some '"'
  | '\\' => some '\\'
  | '/' => some '/'
  | 'b' => some '\x08'
  | 'f' => some '\x0c'
  | 'n' => some '\n'
  | 'r' => some '\r'
  | 't' => some '\t'
  | _ => none

def string? : (fuel : Nat) -> (done : List Char) -> List Char -> Option (String × List Char)
  | 0, _, _ => none
  | _ + 1, _, [] => none
  | fuel + 1, done, c :: rest =>
    if c = '"' then some (String.ofList done.reverse, rest)
    else if c = '\\' then
      match rest with
      | 'u' :: more =>
        match hexFour? more with
        | some (code, after) =>
          let (c, after) := unit code after
          string? fuel (c :: done) after
        | none => none
      | e :: more =>
        match escape? e with
        | some c => string? fuel (c :: done) more
        | none => none
      | [] => none
    else if c.toNat < 32 then none
    else string? fuel (c :: done) rest

def number? (cs : List Char) : Option (Doc × List Char) :=
  let negative := cs.head? == some '-'
  let cs := if negative then cs.drop 1 else cs
  let whole := if cs.head? == some '0' then ['0'] else cs.takeWhile Char.isDigit
  if whole.isEmpty then none
  else
    let cs := cs.drop whole.length
    let fraction := match cs with
      | '.' :: rest => rest.takeWhile Char.isDigit
      | _ => []
    let cs := if fraction.isEmpty then cs else cs.drop (fraction.length + 1)
    let power : Option (Int × List Char) := match cs with
      | e :: rest =>
        if e = 'e' || e = 'E' then
          let sign := rest.head?
          let digits := if sign == some '-' || sign == some '+' then rest.drop 1 else rest
          let shown := digits.takeWhile Char.isDigit
          if shown.isEmpty then none
          else
            let value : Int := Decimal.digitsValue 0 shown
            some (if sign == some '-' then -value else value, digits.drop shown.length)
        else none
      | [] => none
    let mantissa := Decimal.digitsValue (Decimal.digitsValue 0 whole) fraction
    match power with
    | some (power, rest) =>
      some (.real (Decimal.scaled negative mantissa (power - fraction.length)), rest)
    | none =>
      if fraction.isEmpty then
        let value : Int := mantissa
        some (.int (if negative then -value else value), cs)
      else
        some (.real (Decimal.scaled negative mantissa (-(fraction.length : Int))), cs)

def words : List (List Char × Doc) :=
  [("null".toList, .null), ("true".toList, .bool true), ("false".toList, .bool false),
    ("NaN".toList, .real (Double.ofFloat (0.0 / 0.0))), ("Infinity".toList, .real (Double.ofFloat (1.0 / 0.0))),
    ("-Infinity".toList, .real (Double.ofFloat (-1.0 / 0.0)))]

def mapOf? (strict : Bool) (pairs : List (Doc × Doc)) : Option Doc :=
  match Doc.ofPairs pairs with
  | .map fields => if strict && fields.length ≠ pairs.length then none else some (.map fields)
  | _ => none

mutual

def value? (strict : Bool) : (fuel : Nat) -> List Char -> Option (Doc × List Char)
  | 0, _ => none
  | _ + 1, [] => none
  | fuel + 1, c :: rest =>
    if c = '"' then (string? (rest.length + 1) [] rest).map fun (s, after) => (.text s, after)
    else if c = '[' then match skipGap rest with
      | ']' :: after => some (.list [], after)
      | after => (items? strict fuel [] after).map fun (items, after) => (.list items, after)
    else if c = '\x7b' then
      match skipGap rest with
      | '\x7d' :: after => some (.map [], after)
      | after => (fields? strict fuel [] after).bind fun (pairs, after) =>
        (mapOf? strict pairs).map fun doc => (doc, after)
    else
      match words.find? fun word => word.1.isPrefixOf (c :: rest) with
      | some (word, doc) => some (doc, (c :: rest).drop word.length)
      | none => number? (c :: rest)

def items? (strict : Bool) : (fuel : Nat) -> (done : List Doc) -> List Char -> Option (List Doc × List Char)
  | 0, _, _ => none
  | fuel + 1, done, cs =>
    match value? strict fuel cs with
    | some (item, after) =>
      match skipGap after with
      | ',' :: more => items? strict fuel (item :: done) (skipGap more)
      | ']' :: more => some ((item :: done).reverse, more)
      | _ => none
    | none => none

def fields? (strict : Bool) : (fuel : Nat) -> (done : List (Doc × Doc)) -> List Char -> Option (List (Doc × Doc) × List Char)
  | 0, _, _ => none
  | fuel + 1, done, cs =>
    match cs with
    | '"' :: rest =>
      match string? (rest.length + 1) [] rest with
      | some (key, after) =>
        match skipGap after with
        | ':' :: more =>
          match value? strict fuel (skipGap more) with
          | some (item, after) =>
            match skipGap after with
            | ',' :: more => fields? strict fuel ((.text key, item) :: done) (skipGap more)
            | '\x7d' :: more => some (((.text key, item) :: done).reverse, more)
            | _ => none
          | none => none
        | _ => none
      | none => none
    | _ => none

end

def parse? (s : String) (strict : Bool := false) : Option Doc :=
  let cs := skipGap s.toList
  match value? strict (cs.length + 1) cs with
  | some (doc, after) => if (skipGap after).isEmpty then some doc else none
  | none => none

end Refinery.Json
