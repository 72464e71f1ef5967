import Refinery.Text.CharacterClass
import Refinery.Text.Search

namespace Refinery.Text

/-!
# Arranging texts

Texts in fields of a width, texts cut at blanks, and parts of texts between two places.
-/

/-! ## Fields of a width -/

def fillers (fill : Char) (count : Nat) : String :=
  String.ofList (List.replicate count fill)

def atLeft (fill : Char) (width : Nat) (s : String) : String :=
  s ++ fillers fill (width - s.length)

def centered (fill : Char) (width : Nat) (s : String) : String :=
  let space := width - s.length
  let left := space / 2 + (if space % 2 = 1 && width % 2 = 1 then 1 else 0)
  fillers fill left ++ s ++ fillers fill (space - left)

def zeroFilled (width : Nat) (s : String) : String :=
  let zeros := fillers '0' (width - s.length)
  match s.toList with
  | '-' :: rest => "-" ++ zeros ++ String.ofList rest
  | '+' :: rest => "+" ++ zeros ++ String.ofList rest
  | _ => zeros ++ s

def expandTabsFrom (size : Nat) : (column : Nat) -> List Char -> List Char
  | _, [] => []
  | column, c :: rest =>
    if c == '\t' then
      let width := if size = 0 then 0 else size - column % size
      List.replicate width ' ' ++ expandTabsFrom size (column + width) rest
    else if c == '\n' || c == '\r' then c :: expandTabsFrom size 0 rest
    else c :: expandTabsFrom size (column + 1) rest

def expandTabs (size : Nat) (s : String) : String :=
  String.ofList (expandTabsFrom size 0 s.toList)

/-! ## Cutting at blanks -/

/-- Words of a text, with `count` cuts at most; what is left after them is kept as it is. -/
def wordsAtMost : (count fuel : Nat) -> List Char -> List (List Char)
  | _, 0, _ => []
  | count, fuel + 1, cs =>
    let cs := cs.dropWhile isBlank
    if cs.isEmpty then []
    else
      match count with
      | 0 => [cs]
      | count + 1 =>
        let word := cs.takeWhile fun c => !isBlank c
        word :: wordsAtMost count fuel (cs.drop word.length)

def cutAtBlanks (count : Nat) (s : String) : List String :=
  (wordsAtMost count (s.length + 1) s.toList).map String.ofList

def cutAtBlanksRight (count : Nat) (s : String) : List String :=
  ((wordsAtMost count (s.length + 1) s.toList.reverse).map fun word =>
    String.ofList word.reverse).reverse

/-- Replace the first `count` occurrences; an empty text occurs in front of every character and at
the end. -/
def replaceFirst (before after : String) (count : Nat) (s : String) : String :=
  if before.isEmpty then
    let rec weave : (count : Nat) -> List Char -> String
      | 0, cs => String.ofList cs
      | _ + 1, [] => after
      | count + 1, c :: rest => after ++ String.singleton c ++ weave count rest
    weave count s.toList
  else replaceAtMost before after count s

/-! ## Between two places -/

def window? (s : String) (start stop : Option Int) : Option (Nat × String) :=
  let size : Int := s.length
  let place (n : Int) : Int := if n < 0 then max 0 (n + size) else n
  let first := place (start.getD 0)
  let last := min size (place (stop.getD size))
  if last < first then none
  else some (first.toNat, take (last - first).toNat (drop first.toNat s))

def place? (part s : String) : Option Nat :=
  if part.isEmpty then some 0 else (cut? part s).map fun (before, _) => before.length

def lastPlaceFrom (part : List Char) : (place : Nat) -> (found : Option Nat) -> List Char -> Option Nat
  | place, found, [] => if part.isEmpty then some place else found
  | place, found, c :: rest =>
    lastPlaceFrom part (place + 1) (if part.isPrefixOf (c :: rest) then some place else found) rest

def lastPlace? (part s : String) : Option Nat :=
  lastPlaceFrom part.toList 0 none s.toList

def countOf (part s : String) : Nat :=
  if part.isEmpty then s.length + 1 else occurrences part s

end Refinery.Text
