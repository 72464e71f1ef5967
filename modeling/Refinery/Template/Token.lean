import Refinery.Json
import Refinery.Text.CharacterName

namespace Refinery.Template

open Text

/-!
# Tokens of templates

A template is text with expressions between double braces, and statements and comments between braces with
percent and hash signs.
-/

open Decimal (Double)

inductive Token where
  | data (text : String)
  | statementStart
  | statementEnd
  | printStart
  | printEnd
  | name (text : String)
  | text (value : String)
  | int (value : Nat)
  | real (value : Double)
  | sign (text : String)
  deriving DecidableEq

def refusal : Failure :=
  .template .syntaxError

abbrev Lexed := Except Failure

def isNameChar (c : Char) : Bool :=
  c == '_' || isAlphanumeric c || continuesIdentifier c

def after? (start : String) (cs : List Char) : Option (List Char) :=
  let expected := start.toList
  if expected.isPrefixOf cs then some (cs.drop expected.length) else none

def skipBlank (cs : List Char) : List Char :=
  cs.dropWhile isBlank

/-! ## Texts in quotes -/

def codeDigits (base least most : Nat) (cs : List Char) : Option (Nat × List Char) :=
  let digits := (cs.take most).takeWhile fun c => (Json.hexDigit? c).any (· < base)
  if digits.length < least then none
  else some (digits.foldl (fun n c => base * n + (Json.hexDigit? c).getD 0) 0, cs.drop digits.length)

def namedCode? (cs : List Char) : Option (Nat × List Char) :=
  match cs with
  | '\x7b' :: rest =>
    let name := rest.takeWhile (· != '\x7d')
    if name.length = rest.length then none
    else (codeOfName? (String.ofList name)).map fun code => (code, rest.drop (name.length + 1))
  | _ => none

def unescapeFrom : (fuel : Nat) -> List Char -> Lexed (List Char)
  | 0, _ => .ok []
  | _ + 1, [] => .ok []
  | fuel + 1, '\\' :: c :: rest =>
    let plain := [('\\', '\\'), ('\'', '\''), ('"', '"'), ('n', '\n'), ('t', '\t'), ('r', '\r'),
      ('a', '\x07'), ('b', '\x08'), ('f', '\x0c'), ('v', '\x0b')]
    let coded (found : Option (Nat × List Char)) : Lexed (List Char) := do
      let some (code, more) := found | throw refusal
      if 0x10FFFF < code then throw refusal
      return ofCode code :: (<- unescapeFrom fuel more)
    match plain.lookup c with
    | some found => do return found :: (<- unescapeFrom fuel rest)
    | none =>
      if c == '\n' then unescapeFrom fuel rest
      else if c == 'x' then coded (codeDigits 16 2 2 rest)
      else if c == 'u' then coded (codeDigits 16 4 4 rest)
      else if c == 'U' then coded (codeDigits 16 8 8 rest)
      else if c == 'N' then coded (namedCode? rest)
      else if '0' ≤ c && c ≤ '7' then coded (codeDigits 8 1 3 (c :: rest))
      else do return '\\' :: c :: (<- unescapeFrom fuel rest)
  | fuel + 1, c :: rest => do return c :: (<- unescapeFrom fuel rest)

def unescape (chars : List Char) : Lexed String := do
  let ascii := (escapedWide (String.ofList chars)).toList
  return String.ofList (<- unescapeFrom ascii.length ascii)

def quotedText (quote : Char) : (done : List Char) -> List Char -> Option (List Char × List Char)
  | done, '\\' :: c :: rest => quotedText quote (c :: '\\' :: done) rest
  | done, c :: rest => if c == quote then some (done.reverse, rest) else quotedText quote (c :: done) rest
  | _, [] => none

/-! ## Numbers -/

def barredDigits (isDigit : Char -> Bool) : List Char -> List Char
  | '_' :: c :: rest => if isDigit c then '_' :: c :: barredDigits isDigit rest else []
  | c :: rest => if isDigit c then c :: barredDigits isDigit rest else []
  | [] => []

def anyDigit? (c : Char) : Option Nat :=
  (digitValue? c).or (Json.hexDigit? c)

def digitValue (base : Nat) (cs : List Char) : Nat :=
  (cs.filter (· != '_')).foldl (fun n c => base * n + (anyDigit? c).getD 0) 0

def decimalDigits (cs : List Char) : List Char :=
  match cs with
  | c :: _ => if isDigit c then barredDigits isDigit cs else []
  | [] => []

def exponentChars (cs : List Char) : List Char :=
  match cs with
  | e :: rest =>
    if e == 'e' || e == 'E' then
      let sign := match rest with
        | s :: _ => if s == '+' || s == '-' then [s] else []
        | [] => []
      let digits := decimalDigits (rest.drop sign.length)
      if digits.isEmpty then [] else e :: sign ++ digits
    else []
  | [] => []

def realChars (cs : List Char) : List Char :=
  let whole := decimalDigits cs
  if whole.isEmpty then []
  else
    let more := cs.drop whole.length
    let fraction := match more with
      | '.' :: rest =>
        let digits := decimalDigits rest
        if digits.isEmpty then [] else '.' :: digits
      | _ => []
    let power := exponentChars (more.drop fraction.length)
    if fraction.isEmpty && power.isEmpty then [] else whole ++ fraction ++ power

def wholeNumber? (cs : List Char) : Lexed (Option (Nat × Nat)) :=
  let based (base : Nat) (isDigit : Char -> Bool) (rest : List Char) : Option (Nat × Nat) :=
    let digits := barredDigits isDigit rest
    if digits.isEmpty then none else some (digitValue base digits, digits.length + 2)
  let marked := match cs with
    | '0' :: mark :: rest =>
      if mark.toLower == 'b' then based 2 (fun c => c == '0' || c == '1') rest
      else if mark.toLower == 'o' then based 8 (fun c => '0' ≤ c && c ≤ '7') rest
      else if mark.toLower == 'x' then based 16 (fun c => (anyDigit? c).isSome) rest
      else none
    | _ => none
  match marked, cs with
  | some found, _ => .ok (some found)
  | none, '0' :: _ => .ok (some (0, (barredDigits (· == '0') cs).length))
  | none, c :: _ =>
    if c.isDigit then
      let digits := decimalDigits cs
      if Decimal.mostDigits < (digits.filter (· != '_')).length then .error .badValue
      else .ok (some (digitValue 10 digits, digits.length))
    else .ok none
  | none, [] => .ok none

def number? (pointed : Bool) (cs : List Char) : Lexed (Option (Token × List Char)) := do
  let written := if pointed then [] else realChars cs
  if written.isEmpty then
    return (<- wholeNumber? cs).map fun (value, count) => (.int value, cs.drop count)
  else
    match Decimal.read? (written.filter (· != '_')) with
    | some value => return some (.real value, cs.drop written.length)
    | none => throw (.template .unworkable)

/-! ## Inside delimiters -/

def signs : List String :=
  ["//", "**", "==", "!=", ">=", "<=", "+", "-", "/", "*", "%", "~", "[", "]", "(", ")", "\x7b",
    "\x7d", ">", "<", "=", ".", ":", "|", ",", ";"]

def closing? (sign : String) : Option String :=
  [("(", ")"), ("[", "]"), ("\x7b", "\x7d")].lookup sign

def ending? (plusAllowed : Bool) (ending : String) (cs : List Char) : Option (List Char) :=
  (after? ("-" ++ ending) cs).map skipBlank <|> (if plusAllowed then after? ("+" ++ ending) cs else none) <|> after? ending cs

/-- The first token of a text and what follows.  `opened` are the brackets that have to be closed. -/
def tokenAt (pointed : Bool) (opened : List String) (cs : List Char) :
    Lexed (List String × Token × List Char) := do
  if let some (token, rest) := <- number? pointed cs then return (opened, token, rest)
  let word := String.ofList (cs.takeWhile isNameChar)
  if word ≠ "" then
    unless isIdentifier word do throw refusal
    return (opened, .name word, cs.drop word.length)
  let quote := cs.headD ' '
  if quote == '\'' || quote == '"' then
    let some (chars, rest) := quotedText quote [] (cs.drop 1) | throw refusal
    return (opened, .text (<- unescape chars), rest)
  let some s := signs.find? fun s => s.toList.isPrefixOf cs | throw refusal
  let opened <-
    if let some close := closing? s then pure (close :: opened)
    else if [")", "]", "\x7d"].contains s then
      if opened.head? = some s then pure opened.tail else throw refusal
    else pure opened
  return (opened, .sign s, cs.drop s.length)

def inner (statement : Bool) : (fuel : Nat) -> (opened : List String) -> (done : List Token) ->
    List Char -> Lexed (List Token × List Char)
  | 0, _, done, cs => .ok (done, cs)
  | fuel + 1, opened, done, text => do
    let cs := skipBlank text
    let pointed := done.head? == some (.sign ".") && cs.length = text.length
    let (last, mark) := if statement then (.statementEnd, "%\x7d") else (.printEnd, "\x7d\x7d")
    match (if opened.isEmpty then ending? statement mark cs else none) with
    | some rest => return (last :: done, rest)
    | none =>
      if cs.isEmpty then return (done, [])
      let (opened, token, rest) <- tokenAt pointed opened cs
      inner statement fuel opened (token :: done) rest

/-! ## The text around -/

def openSign (cs : List Char) : Bool × List Char :=
  match cs with
  | '-' :: rest => (true, rest)
  | '+' :: rest => (false, rest)
  | _ => (false, cs)

def dataToken (strip : Bool) (held : List Char) : List Token :=
  let held := if strip then held.dropWhile Text.isBlank else held
  if held.isEmpty then [] else [.data (String.ofList held.reverse)]

def wordStatement? (word : String) (plusAllowed : Bool) (cs : List Char) :
    Option (Bool × List Char) := do
  let (strip, cs) := openSign cs
  let cs <- after? word (skipBlank cs)
  return (strip, <- ending? plusAllowed "%\x7d" (skipBlank cs))

def rawSection : (held : List Char) -> List Char -> Option (List Token × List Char)
  | _, [] => none
  | held, c :: rest =>
    match after? "\x7b%" (c :: rest) >>= wordStatement? "endraw" true with
    | some (strip, rest) => some (dataToken strip held, rest)
    | none => rawSection (c :: held) rest

def commentEnd : List Char -> Option (List Char)
  | [] => none
  | c :: rest => ending? false "#\x7d" (c :: rest) <|> commentEnd rest

def outer : (fuel : Nat) -> (held : List Char) -> (done : List Token) -> List Char -> Lexed (List Token)
  | 0, held, done, _ => .ok (dataToken false held ++ done)
  | _ + 1, held, done, [] => .ok (dataToken false held ++ done)
  | fuel + 1, held, done, '\x7b' :: c :: rest => do
    let word? := if c == '%' then wordStatement? "raw" false rest else none
    let (strip, inside) := word?.getD (openSign rest)
    let done' := dataToken strip held ++ done
    if word?.isSome || c == '#' then
      match (if c == '#' then (commentEnd inside).map ([], ·) else rawSection [] inside) with
      | some (tokens, rest) => outer fuel [] (tokens ++ done') rest
      | none => if inside.isEmpty then return done' else throw refusal
    else if c == '%' || c == '\x7b' then
      let start := if c == '%' then .statementStart else .printStart
      let (tokens, rest) <- inner (c == '%') (inside.length + 1) [] (start :: done') inside
      outer fuel [] tokens rest
    else outer fuel ('\x7b' :: held) done (c :: rest)
  | fuel + 1, held, done, c :: rest => outer fuel (c :: held) done rest

def tokens (keepLast : Bool) (source : String) : Lexed (List Token) := do
  let cs := (unifyLineEnds source).toList
  let cs := if !keepLast && cs.getLast? == some '\n' then cs.dropLast else cs
  return (<- outer (cs.length + 1) [] [] cs).reverse

end Refinery.Template
