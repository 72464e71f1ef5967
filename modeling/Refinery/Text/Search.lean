import Refinery.Sorting

namespace Refinery.Text

/-!
# Finding, splitting and replacing

Occurrences of a text in another are taken from left to right without overlap.
-/

def startsWith (s start : String) : Bool :=
  start.toList.isPrefixOf s.toList

def endsWith (s ending : String) : Bool :=
  ending.toList.reverse.isPrefixOf s.toList.reverse

/-- The pieces between occurrences of `sep`.  `skip` characters of an occurrence are still to be passed over,
and `piece` is in reverse. -/
def splitFrom (sep : List Char) : (skip : Nat) -> (piece : List Char) -> List Char -> List (List Char)
  | _, piece, [] => [piece.reverse]
  | 0, piece, c :: rest =>
    if sep.isPrefixOf (c :: rest) then
      piece.reverse :: splitFrom sep (sep.length - 1) [] rest
    else
      splitFrom sep 0 (c :: piece) rest
  | skip + 1, piece, _ :: rest => splitFrom sep skip piece rest

def split (sep s : String) : List String :=
  if sep.isEmpty then [s]
  else (splitFrom sep.toList 0 [] s.toList).map String.ofList

def join (sep : String) : List String -> String
  | [] => ""
  | [s] => s
  | s :: rest => s ++ sep ++ join sep rest

def splitAtMost (sep : String) (count : Nat) (s : String) : List String :=
  let pieces := split sep s
  if pieces.length ≤ count + 1 then pieces
  else pieces.take count ++ [join sep (pieces.drop count)]

def splitAtMostRight (sep : String) (count : Nat) (s : String) : List String :=
  let pieces := split sep s
  if pieces.length ≤ count + 1 then pieces
  else join sep (pieces.take (pieces.length - count)) :: pieces.drop (pieces.length - count)

def occurrences (part s : String) : Nat :=
  (split part s).length - 1

def contains (s part : String) : Bool :=
  part.isEmpty || 1 < (split part s).length

/-- Replace every occurrence of `before`.  An empty `before` occurs in front of every character
and at the end. -/
def replace (before after s : String) : String :=
  if before.isEmpty then
    String.join (s.toList.map fun c => after ++ String.singleton c) ++ after
  else
    join after (split before s)

def replaceAtMost (before after : String) (count : Nat) (s : String) : String :=
  join after (splitAtMost before count s)

def cut? (sep s : String) : Option (String × String) :=
  match splitAtMost sep 1 s with
  | [head, tail] => some (head, tail)
  | _ => none

def cutLast? (sep s : String) : Option (String × String) :=
  match splitAtMostRight sep 1 s with
  | [head, tail] => some (head, tail)
  | _ => none

def drop (n : Nat) (s : String) : String :=
  String.ofList (s.toList.drop n)

def take (n : Nat) (s : String) : String :=
  String.ofList (s.toList.take n)

def dropEnd (n : Nat) (s : String) : String :=
  String.ofList (s.toList.take (s.length - n))

def repeated (n : Nat) (s : String) : String :=
  String.join (List.replicate n s)

def padLeft (fill : Char) (width : Nat) (s : String) : String :=
  String.ofList (List.replicate (width - s.length) fill) ++ s

def le (a b : String) : Bool :=
  decide (a ≤ b)

def leAll : List String -> List String -> Bool
  | [], _ => true
  | _ :: _, [] => false
  | a :: first, b :: second => if a = b then leAll first second else le a b

def sorted (texts : List String) : List String :=
  Sorting.ordered le texts

/-!
## Lines

A file read as text has one line end, the line feed: a carriage return, alone or before a line feed, is read
as one.
-/

def unifyFrom : List Char -> List Char
  | [] => []
  | '\r' :: '\n' :: rest => '\n' :: unifyFrom rest
  | c :: rest => (if c = '\r' then '\n' else c) :: unifyFrom rest

def unifyLineEnds (s : String) : String :=
  if s.toList.contains '\r' then String.ofList (unifyFrom s.toList) else s

/-- The lines of a text with their line feeds, where `line` is the current one in reverse. -/
def linesFrom : (line : List Char) -> List Char -> List (List Char)
  | [], [] => []
  | line@(_ :: _), [] => [line.reverse]
  | line, c :: rest =>
    if c = '\n' then (c :: line).reverse :: linesFrom [] rest
    else linesFrom (c :: line) rest

def lines (s : String) : List String :=
  (linesFrom [] s.toList).map String.ofList

def isLineBreak (c : Char) : Bool :=
  let code := c.toNat
  (10 ≤ code && code ≤ 13) || (28 ≤ code && code ≤ 30) || code == 0x85 || code == 0x2028 || code == 0x2029

def breakFrom (keep : Bool) : (line : List Char) -> List Char -> List (List Char)
  | [], [] => []
  | line@(_ :: _), [] => [line.reverse]
  | line, '\r' :: '\n' :: rest =>
    (if keep then ('\n' :: '\r' :: line).reverse else line.reverse) :: breakFrom keep [] rest
  | line, c :: rest =>
    if isLineBreak c then
      (if keep then (c :: line).reverse else line.reverse) :: breakFrom keep [] rest
    else
      breakFrom keep (c :: line) rest

def brokenLines (s : String) : List String :=
  (breakFrom false [] s.toList).map String.ofList

def brokenLinesKept (s : String) : List String :=
  (breakFrom true [] s.toList).map String.ofList

end Refinery.Text
