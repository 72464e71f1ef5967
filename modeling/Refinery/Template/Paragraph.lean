import Refinery.Pattern.Replace
import Refinery.Text.Arrange
import Refinery.Text.Reference

namespace Refinery
namespace Wording

open Pattern

/-!
# Wording in documents

Names as they appear in documents: languages, anchors of headings, and badges.
-/

def languageName (language : String) : String :=
  if language = "nodejs" then "Node.js" else language

def highlighterName (language : String) : String :=
  if language = "nodejs" then "javascript" else language

def gaps : Expression :=
  ⟨.group 1 (oneOrMore (among [.one '(', .one ')', .one ' '])), 1, [], none⟩

def lastHyphen : Expression :=
  ⟨sequence [literal "-", .boundary .lastLineEnd], 0, [], none⟩

def slug (heading : String) : String :=
  lastHyphen.replaceBy "" (gaps.replaceBy "-" (Text.lower heading))

def badgeStyle? (level : String) : Option String :=
  [("GA", "general%20availability%20%28GA%29-brightgreen"), ("STABLE", "stable-brightgreen"),
    ("PREVIEW", "preview-yellow"), ("BETA", "beta-yellow"), ("ALPHA", "alpha-orange"),
    ("EAP", "EAP-yellow"), ("DEPRECATED", "deprecated-red")].lookup (Text.upper level)

def releaseBadge (level : String) : String :=
  match badgeStyle? level with
  | some style =>
    "[![release level](https://img.shields.io/badge/release%20level-" ++ style ++
      ".svg?style=flat)](https://cloud.google.com/terms/launch-stages)"
  | none => ""

end Wording

namespace Paragraph

/-!
## Lines of a width

The words of a text are set in lines that have a width at most.
-/

def pattern (text : String) (ignoreCase : Bool := false) : Expression :=
  match Expression.ofText { ignoreCase } text with
  | .ok e => e
  | .error _ => default

def gapText : String := "[\\t\\n\\x0b\\x0c\\r\\ ]"

def wordPattern : Expression :=
  let sign := "[\\w!\"'&.,?]"
  let letter := "[^\\d\\W]"
  pattern ("(" ++ gapText ++ "+|(?<=" ++ sign ++ ")-\x7b2,\x7d(?=\\w)|[^\\t\\n\\x0b\\x0c\\r\\ ]+?(?:-(?:(?<=" ++
    letter ++ "\x7b2\x7d-)|(?<=" ++ letter ++ "-" ++ letter ++ "-))(?=" ++ letter ++ "-?" ++ letter ++
    ")|(?=" ++ gapText ++ "|\\Z)|(?<=" ++ sign ++ ")(?=-\x7b2,\x7d\\w)))")

def gapPattern : Expression :=
  pattern ("(" ++ gapText ++ "+)")

def pieces (e : Expression) (s : String) : List String :=
  let (found, tail) := e.matchesIn s.toList
  ((found.flatMap fun m => [String.ofList m.gap, String.ofList m.text]) ++
    [String.ofList tail]).filter fun piece => !piece.isEmpty

structure Setting where
  width : Nat
  cutWords : Bool := true
  partAtHyphens : Bool := true

def fitting : (room : Nat) -> List String -> List String × List String
  | _, [] => ([], [])
  | room, word :: rest =>
    if word.length ≤ room then
      let (line, others) := fitting (room - word.length) rest
      (word :: line, others)
    else ([], word :: rest)

def cutPlace (setting : Setting) (room : Nat) (word : String) : Nat :=
  let start := Text.take room word
  match Text.lastPlace? "-" start with
  | some place =>
    if setting.partAtHyphens && room < word.length && 0 < place && (start.toList.take place).any (· != '-') then place + 1
    else room
  | none => room

def withLongWord (setting : Setting) (line : List String) (words : List String) : List String × List String :=
  let taken := (String.join line).length
  match words with
  | word :: rest =>
    if word.length ≤ setting.width then (line, words)
    else if setting.cutWords then
      let place := cutPlace setting (setting.width - taken) word
      (line ++ [Text.take place word], Text.drop place word :: rest)
    else if line.isEmpty then ([word], rest)
    else (line, words)
  | [] => (line, [])

def linesFrom (setting : Setting) : (fuel : Nat) -> (started : Bool) -> List String -> List String
  | 0, _, _ => []
  | _, _, [] => []
  | fuel + 1, started, first :: rest =>
    let words := if started && Text.allBlank first then rest else first :: rest
    let (line, words) := fitting setting.width words
    let (line, words) := withLongWord setting line words
    let line := if line.getLast?.any Text.allBlank then line.dropLast else line
    if line.isEmpty then linesFrom setting fuel started words
    else String.join line :: linesFrom setting fuel true words

def wrap (setting : Setting) (s : String) : List String :=
  let words := pieces (if setting.partAtHyphens then wordPattern else gapPattern) s
  linesFrom setting (2 * s.length + 2) false words

end Paragraph

namespace Link

/-!
## Links in texts

Words that look like addresses of pages or of mail become links.
-/

def pagePattern : Expression :=
  Paragraph.pattern ("^((https?://|www\\.)(([\\w%-]+\\.)+)?([a-z]\x7b2,63\x7d|xn--[\\w%]\x7b2,59\x7d)|" ++
    "([\\w%-]\x7b2,63\x7d\\.)+(com|net|int|edu|gov|org|info|mil)|" ++
    "(https?://)((([\\d]\x7b1,3\x7d)(\\.[\\d]\x7b1,3\x7d)\x7b3\x7d)|" ++
    "(\\[([\\da-f]\x7b0,4\x7d:)\x7b2\x7d([\\da-f]\x7b0,4\x7d:?)\x7b1,6\x7d])))" ++ "(?::[\\d]\x7b1,5\x7d)?(?:[/?#]\\S*)?$") true

def mailPattern : Expression :=
  Paragraph.pattern "^\\S+@\\w[\\w.-]*\\.\\w+$"

def schemePattern : Expression :=
  Paragraph.pattern "^([\\w.+-]\x7b2,\x7d:(/)\x7b0,2\x7d)\\Z"

def gapPattern : Expression :=
  Paragraph.pattern "(\\s+)"

def headPattern : Expression :=
  Paragraph.pattern "^([(<]|&lt;)+"

def tailPattern : Expression :=
  Paragraph.pattern "([)>.,\\n]|&gt;)+$"

def isScheme (s : String) : Bool :=
  (schemePattern.matchStart? s).isSome

structure Setting where
  shorten : String -> Except Failure String
  attributes : String
  schemes : List String

def balanced (opening closing : String) (word ending : String) : String × String :=
  let opened := Text.occurrences opening word
  if opened ≤ Text.occurrences closing word then (word, ending)
  else
    let rec move : (count : Nat) -> String -> String -> String × String
      | 0, word, ending => (word, ending)
      | count + 1, word, ending =>
        match Text.cut? closing ending with
        | some (before, after) => move count (word ++ before ++ closing) after
        | none => (word, ending)
    move (min opened (Text.occurrences closing ending)) word ending

def ofAddress (setting : Setting) (word : String) : Except Failure String := do
  let link (target text attributes : String) :=
    "<a href=\"" ++ target ++ "\"" ++ attributes ++ ">" ++ text ++ "</a>"
  let isMail (s : String) : Bool := (mailPattern.matchStart? s).isSome
  if (pagePattern.matchStart? word).isSome then
    let plain := Text.startsWith word "https://" || Text.startsWith word "http://"
    return link (if plain then word else "https://" ++ word) (<- setting.shorten word) setting.attributes
  else if Text.startsWith word "mailto:" && isMail (Text.drop 7 word) then
    return link word (Text.drop 7 word) ""
  else if Text.contains word "@" && !Text.startsWith word "www." && !Text.startsWith word "@" &&
      !Text.contains word ":" && isMail word then
    return link ("mailto:" ++ word) word ""
  else
    return setting.schemes.foldl (fun word scheme =>
      if word ≠ scheme && Text.startsWith word scheme then link word word setting.attributes
      else word) word

def ofWord (setting : Setting) (word : String) : Except Failure String := do
  let (start, middle) := match headPattern.matchStart? word with
    | some m => (String.ofList m.text, Text.drop m.text.length word)
    | none => ("", word)
  let (middle, ending) :=
    if [")", ">", ".", ",", "\n", "&gt;"].any (Text.endsWith middle) then
      match tailPattern.search? middle with
      | some m => (String.ofList m.gap, Text.drop m.gap.length middle)
      | none => (middle, "")
    else (middle, "")
  let (middle, ending) := balanced "(" ")" middle ending
  let (middle, ending) := balanced "<" ">" middle ending
  let (middle, ending) := balanced "&lt;" "&gt;" middle ending
  return start ++ (<- ofAddress setting middle) ++ ending

def inText (setting : Setting) (s : String) : Except Failure String := do
  return String.join (<- (Paragraph.pieces gapPattern s).mapM (ofWord setting))

end Link
end Refinery
