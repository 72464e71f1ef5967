import Refinery.Pattern.Parse

namespace Refinery

open Pattern

/-!
# Replacing matches

A backslash introduces a reference to a group or a character by its code.
-/

inductive ReplacementPart where
  | text (text : List Char)
  | group (index : Nat)
  deriving DecidableEq

namespace Replacement

def refusal (whole : List Char) (reason : String) (place : Nat) : Failure :=
  let earlier := whole.take place
  let line := earlier.count '\n' + 1
  let column := (earlier.reverse.takeWhile (· != '\n')).length + 1
  .badPattern (s!"{reason} at position {place}" ++ if whole.contains '\n' then s!" (line {line}, column {column})" else "")

def groupPart (e : Expression) (whole : List Char) (index place : Nat) : Except Failure ReplacementPart :=
  if e.groups < index then .error (refusal whole s!"invalid group reference {index}" place)
  else .ok (.group index)

def namedPart (e : Expression) (whole : List Char) (name : List Char) (place : Nat) : Except Failure ReplacementPart :=
  let shown := String.ofList name
  if Text.isIdentifier shown then
    match e.names.lookup shown with
    | some index => groupPart e whole index place
    | none => .error (.unknownGroup ("unknown group name " ++ Text.quoted shown))
  else
    match groupNumber? shown with
    | some index => groupPart e whole index place
    | none => .error (refusal whole ("bad character in group name " ++ Text.quoted shown) place)

def escapedPart (e : Expression) (whole : List Char) (place : Nat) : List Char -> Except Failure (ReplacementPart × Nat)
  | [] => .error (refusal whole "bad escape (end of pattern)" place)
  | 'g' :: '<' :: more => do
    let name := more.takeWhile (· != '>')
    if name.isEmpty then throw (refusal whole "missing group name" (place + 3))
    if name.length = more.length then
      throw (refusal whole "missing >, unterminated name" (place + 3))
    return (<- namedPart e whole name (place + 3), name.length + 3)
  | 'g' :: _ => .error (refusal whole "missing <" (place + 2))
  | '0' :: more =>
    let digits := (more.take 2).takeWhile isOctal
    .ok (.text [Char.ofNat (inBase 8 digits)], digits.length + 1)
  | c :: more => do
    if c.isDigit then
      let three := c :: more.take 2
      if three.length = 3 && three.all isOctal then
        let code := inBase 8 three
        if 0o377 < code then
          throw (refusal whole ("octal escape value " ++ String.ofList ('\\' :: three) ++ " outside of range 0-0o377") place)
        return (.text [Char.ofNat code], 3)
      let digits := c :: (more.take 1).takeWhile Char.isDigit
      return (<- groupPart e whole (inBase 10 digits) (place + 1), digits.length)
    if let some d := control? c then return (.text [d], 1)
    if c.isAlpha then throw (refusal whole ("bad escape \\" ++ String.singleton c) place)
    return (.text ['\\', c], 1)

def parts (e : Expression) (whole : List Char) : (fuel place : Nat) -> List Char -> Except Failure (List ReplacementPart)
  | 0, _, _ | _ + 1, _, [] => .ok []
  | fuel + 1, place, '\\' :: rest => do
    let (part, length) <- escapedPart e whole place rest
    return part :: (<- parts e whole fuel (place + 1 + length) (rest.drop length))
  | fuel + 1, place, c :: rest => do
    return .text [c] :: (<- parts e whole fuel (place + 1) rest)

def parse (e : Expression) (text : List Char) : Except Failure (List ReplacementPart) :=
  if text.contains '\\' then parts e text (text.length + 1) 0 text else .ok [.text text]

def fill (parts : List ReplacementPart) (m : Match) : List Char :=
  parts.flatMap fun part =>
    match part with
    | .text text => text
    | .group 0 => m.text
    | .group index => ((m.groups[index - 1]?).join).getD []

end Replacement

def Pattern.Flags.ofBits (bits : Nat) : Pattern.Flags :=
  { single := bits.testBit 0
    ignoreCase := bits.testBit 1
    locale := bits.testBit 2
    multiline := bits.testBit 3
    dotAll := bits.testBit 4
    unicode := bits.testBit 5
    verbose := bits.testBit 6
    ascii := bits.testBit 8 }

namespace Expression

def substituteWith (e : Expression) (fill : Match -> List Char) (text : List Char)
    (limit : Option Nat := none) : List Char × Nat :=
  let (found, tail) := e.matchesIn text limit
  (found.foldr (fun m rest => m.gap ++ fill m ++ rest) tail, found.length)

def substitute (e : Expression) (replacement text : List Char) (limit : Option Nat := none) :
    Except Failure (List Char × Nat) := do
  let parts <- Replacement.parse e replacement
  return e.substituteWith (Replacement.fill parts) text limit

def replaceBy (e : Expression) (text : String) (s : String) (limit : Option Nat := none) : String :=
  String.ofList (e.substituteWith (fun _ => text.toList) s.toList limit).1

def ofBytes (flags : Pattern.Flags) (bytes : List Char) : Except Failure Expression :=
  parse true flags bytes

def ofText (flags : Pattern.Flags) (text : String) : Except Failure Expression :=
  parse false flags text.toList

end Expression

end Refinery
