import Refinery.Yaml.Value

namespace Refinery.Yaml

open Text

/-!
# Writing YAML

Collections are written as blocks, empty ones in brackets, and the keys of a mapping in order if
they can be compared.
-/

open Decimal (Double)

def width : Nat := 80

structure Sheet where
  text : String := ""
  column : Nat := 0
  spaced : Bool := true
  indented : Bool := true

namespace Sheet

def write (s : Sheet) (text : String) : Sheet :=
  { s with text := s.text ++ text, column := s.column + text.length }

def lineBreak (s : Sheet) : Sheet :=
  { text := s.text ++ "\n", column := 0, spaced := true, indented := true }

def indentTo (s : Sheet) (column : Nat) : Sheet :=
  let s := if !s.indented || column < s.column || (s.column = column && !s.spaced) then s.lineBreak
    else s
  if s.column < column then
    { s.write (repeated (column - s.column) " ") with spaced := true }
  else s

def sign (s : Sheet) (text : String) (needsSpace : Bool) (spaced indented : Bool := false) : Sheet :=
  { s.write (if s.spaced || !needsSpace then text else " " ++ text) with
    spaced, indented := s.indented && indented }

end Sheet

/-! ## Scalars -/

def scalarText : Doc -> String × String
  | .null => ("null", "null")
  | .bool value => (if value then "true" else "false", "bool")
  | .int value => (toString value, "int")
  | .real value =>
    let shown := Decimal.text value
    let text :=
      if value.isNaN then ".nan"
      else if value.isInf then (if value.isNegative then "-.inf" else ".inf")
      else if shown.contains '.' || !shown.contains 'e' then shown
      else replaceAtMost "e" ".0e" 1 shown
    (text, "float")
  | .date value => (value.text, "timestamp")
  | .moment value => (value.text " ", "timestamp")
  | .text value => (value, "str")
  | .bytes value => (Base64.encode value, "binary")
  | other => (other.display, "str")

def isBreakChar (c : Char) : Bool :=
  c == '\n' || c == '\x85' || c == '\u2028' || c == '\u2029'

structure Analysis where
  empty : Bool := false
  multiline : Bool := false
  allowPlain : Bool := true
  allowSingle : Bool := true
  deriving DecidableEq

def isIndicator (first : Bool) (before : Option Char) (c : Char) (after : Option Char) : Bool :=
  let followed := (after.map Read.isSpace).getD true
  let preceded := (before.map Read.isSpace).getD true
  if first then
    "#,[]\x7b\x7d&*!|>'\"%@`".toList.contains c || ((c == '?' || c == ':' || c == '-') && followed)
  else (c == ':' && followed) || (c == '#' && preceded)

/-- Whether some character of a text keeps it from being plain; `before` is the one in front. -/
def hasIndicator : (before : Option Char) -> List Char -> Bool
  | _, [] => false
  | before, c :: rest =>
    isIndicator before.isNone before c rest.head? || hasIndicator (some c) rest

def hasPair (first second : Char -> Bool) : List Char -> Bool
  | c :: d :: rest => (first c && second d) || hasPair first second (d :: rest)
  | _ => false

def analyze (text : String) : Analysis :=
  let cs := text.toList
  if cs.isEmpty then { empty := true }
  else
    let blank := fun c => c == ' '
    let edge := fun c => blank c || isBreakChar c
    let edges := ((cs.head?.map edge).getD false) || ((cs.getLast?.map edge).getD false)
    let breaks := cs.any isBreakChar
    let special := cs.any fun c => !(c == '\n' || (' ' ≤ c && c ≤ '~'))
    let spaceBreak := hasPair blank isBreakChar cs
    let breakSpace := hasPair isBreakChar blank cs
    let marks := startsWith text "---" || startsWith text "..."
    { multiline := breaks
      allowPlain := !(edges || breakSpace || spaceBreak || special || breaks || marks || hasIndicator none cs)
      allowSingle := !(breakSpace || spaceBreak || special) }

def runs (kind : Char -> Nat) : List Char -> List (List Char)
  | [] => []
  | c :: rest =>
    match runs kind rest with
    | [] => [[c]]
    | [] :: more => [c] :: more
    | (d :: run) :: more =>
      if kind c = kind d then (c :: d :: run) :: more else [c] :: (d :: run) :: more

def charKind (c : Char) : Nat :=
  if c == ' ' then 0 else if isBreakChar c then 1 else 2

def plain (split : Bool) (column : Nat) (text : String) (s : Sheet) : Sheet :=
  let s := if text = "" then s else
    { (if s.spaced then s else s.write " ") with spaced := false, indented := false }
  (runs charKind text.toList).foldl (fun s run =>
    if run == [' '] && width < s.column && split then
      { s.indentTo column with spaced := false, indented := false }
    else s.write (String.ofList run)) s

def quotedBreaks (column : Nat) (run : List Char) (s : Sheet) : Sheet :=
  let s := if run.head? == some '\n' then s.lineBreak else s
  let s := run.foldl (fun s c =>
    if c == '\n' then s.lineBreak
    else { text := s.text.push c, column := 0, spaced := true, indented := true }) s
  s.indentTo column

def singleRuns (split : Bool) (column : Nat) : (first : Bool) -> List (List Char) -> Sheet -> Sheet
  | _, [], s => s
  | first, run :: rest, s =>
    let s := match run with
      | c :: _ =>
        if c == ' ' then
          if run.length = 1 && width < s.column && split && !first && !rest.isEmpty then
            s.indentTo column
          else s.write (String.ofList run)
        else if isBreakChar c then quotedBreaks column run s
        else s.write (replace "'" "''" (String.ofList run))
      | [] => s
    singleRuns split column false rest s

def single (split : Bool) (column : Nat) (text : String) (s : Sheet) : Sheet :=
  (singleRuns split column true (runs charKind text.toList) (s.sign "'" true)).sign "'" false

def escape? (c : Char) : Option String :=
  let letters := [('\x00', "0"), ('\x07', "a"), ('\x08', "b"), ('\t', "t"), ('\n', "n"),
    ('\x0b', "v"), ('\x0c', "f"), ('\r', "r"), ('\x1b', "e"), ('"', "\""), ('\\', "\\"),
    ('\x85', "N"), ('\xa0', "_"), ('\u2028', "L"), ('\u2029', "P")]
  let code := c.toNat
  match letters.lookup c with
  | some letter => some ("\\" ++ letter)
  | none =>
    if 0x20 ≤ code && code ≤ 0x7E then none
    else
      let hex (width : Nat) := upper (hex width code)
      some (if code ≤ 0xFF then "\\x" ++ hex 2
        else if code ≤ 0xFFFF then "\\u" ++ hex 4 else "\\U" ++ hex 8)

/-- Write a text in double quotes.  `held` are the characters that wait, in reverse, and `inside` says that
the character is not the first. -/
def doubleFrom (split : Bool) (column : Nat) : (inside : Bool) -> (held : List Char) -> List Char -> Sheet -> Sheet
  | _, held, [], s => s.write (String.ofList held.reverse)
  | inside, held, c :: rest, s =>
    let escaped := escape? c
    let (held, s, waiting) := match escaped with
      | some text =>
        ([], ((if held.isEmpty then s else s.write (String.ofList held.reverse)).write text), 0)
      | none => (held, s, held.length)
    let overlong := if escaped.isSome then width + 1 < s.column else width < s.column + waiting
    if inside && !rest.isEmpty && (c == ' ' || escaped.isSome || held.isEmpty) && overlong && split then
      let s := (s.write (String.ofList held.reverse ++ "\\")).indentTo column
      let s := { s with spaced := false, indented := false }
      let next := if escaped.isSome then rest.head? else some c
      let s := if next == some ' ' then s.write "\\" else s
      doubleFrom split column true (if escaped.isSome then [] else [c]) rest s
    else
      doubleFrom split column true (if escaped.isSome then [] else c :: held) rest s

def double (split : Bool) (column : Nat) (text : String) (s : Sheet) : Sheet :=
  (doubleFrom split column false [] text.toList (s.sign "\"" true)).sign "\"" false

def literal (column : Nat) (text : String) (s : Sheet) : Sheet :=
  (brokenLines text).foldl (fun s line => ((s.indentTo column).write line).lineBreak)
    (s.sign "|" true).lineBreak

def scalar (asKey : Bool) (column : Nat) (doc : Doc) (s : Sheet) : Sheet :=
  let (text, kind) := scalarText doc
  if kind = "binary" then
    let s := s.sign "!!binary" true
    if text = "" then single false column text s else literal column text s
  else
  let found := analyze text
  if Plain.tag text = standardTag kind && !(asKey && (found.empty || found.multiline)) && found.allowPlain then
    plain (!asKey) column text s
  else if found.allowSingle && !(asKey && found.multiline) then single (!asKey) column text s
  else double (!asKey) column text s

/-! ## Collections -/

def inOrder (pairs : List (Value × Value)) : List (Value × Value) :=
  match Sorting.sort (fun a b => a.1.doc.less b.1.doc) pairs with
  | .ok sorted => sorted
  | .error _ => pairs

def canAlias : Value -> Option Nat
  | .leaf number (.date _) | .leaf number (.moment _) => some number
  | .leaf _ _ | .tuple _ => none
  | .list number _ | .set number _ | .map number _ => some number

structure Census where
  seen : List Nat := []
  again : List Nat := []

def census : (fuel : Nat) -> Census -> Value -> Census
  | 0, c, _ => c
  | fuel + 1, c, value =>
    match canAlias value, value with
    | none, .tuple items => items.foldl (census fuel) c
    | none, _ => c
    | some number, _ =>
      if c.seen.contains number then
        if c.again.contains number then c else { c with again := c.again ++ [number] }
      else
        let c := { c with seen := number :: c.seen }
        match value with
        | .leaf _ _ => c
        | .list _ items | .tuple items | .set _ items => items.foldl (census fuel) c
        | .map _ pairs => (inOrder pairs).foldl (fun c (key, item) =>
          census fuel (census fuel c key) item) c

def anchorName? (c : Census) (value : Value) : Option String := do
  let number <- canAlias value
  let index <- c.again.findIdx? (· == number)
  return "id" ++ padLeft '0' 3 (toString (index + 1))

structure Progress where
  sheet : Sheet := {}
  written : List Nat := []

def isEmpty : Value -> Bool
  | .list _ [] | .tuple [] | .map _ [] | .set _ [] => true
  | _ => false

def isSimpleKey (c : Census) (p : Progress) (key : Value) : Bool :=
  let anchor := ((anchorName? c key).map String.length).getD 0
  match key with
  | .leaf number doc =>
    let (text, kind) := scalarText doc
    let found := analyze text
    (p.written.contains number && (anchorName? c key).isSome) ||
      (anchor + kind.length + 2 + text.length < 128 && !found.empty && !found.multiline)
  | _ => anchor + 5 < 128 && isEmpty key

/-- Write a value.  `column` is where the lines of the collection around it start, `inMapping` says
that it is part of a mapping. -/
def node (c : Census) : (fuel : Nat) -> (inMapping asKey : Bool) -> (column : Option Nat) -> Value -> Progress -> Progress
  | 0, _, _, _, _, p => p
  | fuel + 1, inMapping, asKey, column, value, p =>
    let anchor := anchorName? c value
    let known := ((canAlias value).map p.written.contains).getD false
    match known, anchor with
    | true, some name => { p with sheet := p.sheet.sign ("*" ++ name) true }
    | _, _ =>
      let p := { p with
        sheet := match anchor with
          | some name => p.sheet.sign ("&" ++ name) true
          | none => p.sheet
        written := (canAlias value).toList ++ p.written }
      let inner := column.elim 0 (· + 2)
      let tagged (tag : String) : Progress := { p with sheet := p.sheet.sign tag true }
      let listed (p : Progress) (items : List Value) : Progress :=
        let level := if inMapping && !p.sheet.indented then column.getD 0 else inner
        if items.isEmpty then { p with sheet := (p.sheet.sign "[" true true).sign "]" false }
        else items.foldl (fun p item =>
          let p := { p with sheet := (p.sheet.indentTo level).sign "-" true false true }
          node c fuel false false (some level) item p) p
      let mapped (p : Progress) (pairs : List (Value × Value)) : Progress :=
        if pairs.isEmpty then { p with sheet := (p.sheet.sign "\x7b" true true).sign "\x7d" false }
        else (inOrder pairs).foldl (fun p pair => mapEntry c fuel inner pair p) p
      match value with
      | .leaf _ doc => { p with sheet := scalar asKey (column.elim 2 (· + 2)) doc p.sheet }
      | .list _ items => listed p items
      | .map _ pairs => mapped p pairs
      | .set _ items => mapped (tagged "!!set") (items.map fun item => (item, .leaf 0 .null))
      | .tuple items => listed (tagged "!!python/tuple") items
where
  mapEntry (c : Census) (fuel : Nat) (level : Nat) (pair : Value × Value) (p : Progress) :
      Progress :=
    match fuel with
    | 0 => p
    | fuel + 1 =>
      let p := { p with sheet := p.sheet.indentTo level }
      let simple := isSimpleKey c p pair.1
      let p := if simple then p else { p with sheet := p.sheet.sign "?" true false true }
      let p := node c fuel true simple (some level) pair.1 p
      let sheet := if simple then p.sheet.sign ":" false
        else (p.sheet.indentTo level).sign ":" true false true
      node c fuel true false (some level) pair.2 { p with sheet }

mutual

def depth : Value -> Nat
  | .leaf _ _ => 1
  | .list _ items | .tuple items | .set _ items => depthItems items + 1
  | .map _ pairs => depthPairs pairs + 1

def depthItems : List Value -> Nat
  | [] => 0
  | item :: rest => max (depth item) (depthItems rest)

def depthPairs : List (Value × Value) -> Nat
  | [] => 0
  | (key, item) :: rest => max (max (depth key) (depth item)) (depthPairs rest)

end

def print (value : Value) : String :=
  let fuel := 2 * depth value + 2
  let p := node (census fuel {} value) fuel false false none value {}
  (p.sheet.indentTo 0).text

end Refinery.Yaml
