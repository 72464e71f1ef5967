import Refinery.Path.Basic

namespace Refinery

/-!
# Patterns for names

A star stands for any characters, a question mark for one, and a set in brackets for one of its members.
-/

structure NameSet where
  negated : Bool
  singles : List Char
  ranges : List (Char × Char)
  deriving DecidableEq

inductive NamePart where
  | star
  | any
  | char (c : Char)
  | set (set : NameSet)
  deriving DecidableEq

namespace NameSet

def contains (s : NameSet) (c : Char) : Bool :=
  (s.singles.contains c || s.ranges.any fun (low, high) => low ≤ c && c ≤ high) != s.negated

def pieces : (skip : Nat) -> (piece : List Char) -> List Char -> List (List Char)
  | _, piece, [] => [piece.reverse]
  | 0, piece, c :: rest =>
    if c = '-' then piece.reverse :: pieces 2 [] rest else pieces 0 (c :: piece) rest
  | skip + 1, piece, c :: rest => pieces skip (c :: piece) rest

def closePieces : List (List Char) -> List (List Char)
  | [piece, []] => [piece ++ ['-']]
  | piece :: rest => piece :: closePieces rest
  | [] => []

def dropEmpty : List (List Char) -> List (List Char)
  | [] => []
  | piece :: rest =>
    match dropEmpty rest with
    | [] => [piece]
    | next :: others =>
      match piece.getLast?, next.head? with
      | some low, some high =>
        if high < low then (piece.dropLast ++ next.drop 1) :: others else piece :: next :: others
      | _, _ => piece :: next :: others

def rangesOf : List (List Char) -> List (Char × Char)
  | piece :: next :: rest =>
    match piece.getLast?, next.head? with
    | some low, some high => (low, high) :: rangesOf (next :: rest)
    | _, _ => rangesOf (next :: rest)
  | _ => []

def ofText (text : List Char) : NameSet :=
  let negated := text.head? == some '!'
  let body := if negated then text.drop 1 else text
  let found := dropEmpty (closePieces (pieces 1 [] body))
  ⟨negated, found.flatten, rangesOf found⟩

end NameSet

abbrev NamePattern := List NamePart

namespace NamePattern

def setText? (cs : List Char) : Option (List Char × List Char) :=
  let mark := if cs.head? == some '!' then 1 else 0
  let start := if (cs.drop mark).head? == some ']' then mark + 1 else mark
  let body := cs.take start ++ (cs.drop start).takeWhile (· != ']')
  match cs.drop body.length with
  | _ :: after => some (body, after)
  | [] => none

def parts : (fuel : Nat) -> List Char -> NamePattern
  | 0, _ => []
  | _ + 1, [] => []
  | fuel + 1, '*' :: rest => .star :: parts fuel (rest.dropWhile (· == '*'))
  | fuel + 1, '?' :: rest => .any :: parts fuel rest
  | fuel + 1, '[' :: rest =>
    match setText? rest with
    | some (body, after) => .set (NameSet.ofText body) :: parts fuel after
    | none => .char '[' :: parts fuel rest
  | fuel + 1, c :: rest => .char c :: parts fuel rest

def ofString (s : String) : NamePattern :=
  let cs := s.toList
  parts cs.length cs

def anyEnd (test : List Char -> Bool) : List Char -> Bool
  | [] => test []
  | c :: rest => test (c :: rest) || anyEnd test rest

def accepts : NamePattern -> List Char -> Bool
  | [], cs => cs.isEmpty
  | .star :: rest, cs => anyEnd (accepts rest) cs
  | .any :: rest, _ :: cs => accepts rest cs
  | .char d :: rest, c :: cs => d == c && accepts rest cs
  | .set s :: rest, c :: cs => s.contains c && accepts rest cs
  | _ :: _, [] => false

def matchesName (pattern name : String) : Bool :=
  accepts (ofString pattern) name.toList

def isWild (s : String) : Bool :=
  s.toList.any fun c => c == '*' || c == '?' || c == '['

end NamePattern

namespace Path

def matches? (path : Path) (pattern : String) : Option Bool :=
  let goal := Path.ofString pattern
  if goal.parts.isEmpty then none
  else if goal.isAbsolute then
    some (goal.anchor == path.anchor && goal.names.length == path.names.length &&
      (goal.names.zip path.names).all fun (p, name) => NamePattern.matchesName p name)
  else
    some (goal.names.length ≤ path.parts.length && (goal.names.reverse.zip path.parts.reverse).all fun (p, name) =>
        NamePattern.matchesName p name)

end Path

end Refinery
