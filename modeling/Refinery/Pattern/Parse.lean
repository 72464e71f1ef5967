import Refinery.Decimal
import Refinery.Failure
import Refinery.Pattern.Match

namespace Refinery
namespace Pattern

open Text

/-!
# Reading patterns
-/

structure Flags where
  ignoreCase : Bool := false
  multiline : Bool := false
  dotAll : Bool := false
  verbose : Bool := false
  ascii : Bool := false
  unicode : Bool := false
  locale : Bool := false
  single : Bool := false
  deriving DecidableEq

variable (flags : Flags)

def Flags.fitTexts : Bool :=
  !flags.locale && !(flags.ascii && flags.unicode)

def Flags.lines : Flags :=
  { multiline := true }

abbrev Extent := Nat × Option Nat

namespace Extent

def sum (a b : Extent) : Extent :=
  (a.1 + b.1, do return (<- a.2) + (<- b.2))

def join (a b : Extent) : Extent :=
  (min a.1 b.1, do return max (<- a.2) (<- b.2))

def times (a : Extent) (low : Nat) : Option Nat -> Extent
  | none => (a.1 * low, if a.2 = some 0 then some 0 else none)
  | some high => (a.1 * low, a.2.map (· * high))

end Extent

def extent (groups : List (Nat × Extent)) : Pattern -> Extent
  | empty => (0, some 0)
  | one _ => (1, some 1)
  | seq first second => (first.extent groups).sum (second.extent groups)
  | alt first second => (first.extent groups).join (second.extent groups)
  | repeated body low high _ => (body.extent groups).times low high
  | group _ body => body.extent groups
  | again index _ _ => (groups.lookup index).getD (0, none)
  | boundary _ => (0, some 0)
  | ahead _ _ => (0, some 0)
  | behind _ _ _ => (0, some 0)
  | atomic body => body.extent groups
  | ifGroup _ yes no => (yes.extent groups).join (no.extent groups)

structure Reader where
  rest : List Char
  bytes : Bool
  groups : Nat := 0
  opened : List Nat := []
  names : List (String × Nat) := []
  extents : List (Nat × Extent) := []
  mentioned : List Nat := []
  behindFrom : Option Nat := none
  unworkable : Bool := false

abbrev Reading := StateT Reader (Except Failure)

def refuse {m : Type -> Type} [MonadExcept Failure m] {α : Type} (reason : String) : m α :=
  throw (.badPattern reason)

structure Item where
  pattern : Pattern
  anchors : Bool := false
  repeats : Bool := false

instance : Coe Pattern Item :=
  ⟨fun pattern => { pattern }⟩

namespace Reading

def setRest (rest : List Char) : Reading Unit :=
  modify fun r => { r with rest := rest }

def peek : Reading (Option Char) := do
  return (<- get).rest.head?

def next (reason : String) : Reading Char := do
  match (<- get).rest with
  | [] => refuse reason
  | c :: rest =>
    setRest rest
    return c

def accept (c : Char) : Reading Bool := do
  let rest := (<- get).rest
  if rest.head? = some c then setRest (rest.drop 1)
  return rest.head? = some c

def close : Reading Unit := do
  unless <- accept ')' do refuse "unterminated subpattern"

def takeWhile (limit : Nat) (p : Char -> Bool) : Reading (List Char) := do
  let rest := (<- get).rest
  let taken := (rest.take limit).takeWhile p
  setRest (rest.drop taken.length)
  return taken

def takeUntil (terminator : Char) : Reading String := do
  let rest := (<- get).rest
  let taken := rest.takeWhile (· != terminator)
  if taken.isEmpty || taken.length = rest.length then refuse "missing name"
  setRest (rest.drop (taken.length + 1))
  return String.ofList taken

end Reading

open Reading

def isOctal (c : Char) : Bool :=
  '0' ≤ c && c ≤ '7'

def isHex (c : Char) : Bool :=
  c.isDigit || ('a' ≤ c && c ≤ 'f') || ('A' ≤ c && c ≤ 'F')

def inBase (base : Nat) (digits : List Char) : Nat :=
  digits.foldl (fun n c =>
    n * base + (if c.isDigit then c.toNat - 48 else c.toLower.toNat - 87)) 0

def groupNumber? (s : String) : Option Nat :=
  (Decimal.readWhole? 10 s).bind fun n => if n < 0 then none else some n.toNat

def control? (c : Char) : Option Char :=
  ("abfnrtv\\".toList.zip "\x07\x08\x0c\n\r\t\x0b\\".toList).lookup c

def kind? (c : Char) : Option SetItem :=
  ([('d', .digit), ('s', .blank), ('w', .word)].lookup c.toLower).map (.kind · c.isUpper)

def hexEscape (count : Nat) : Reading Char := do
  let digits <- takeWhile count isHex
  if digits.length ≠ count then refuse "incomplete escape"
  let code := inBase 16 digits
  if 0x110000 ≤ code then refuse "bad escape"
  return ofCode code

def octal (digits : List Char) : Reading Char := do
  let code := inBase 8 digits
  if 0o377 < code then refuse "octal escape out of range"
  return Char.ofNat code

def escaped? (c : Char) : Reading (Option SetItem) := do
  let longer := !(<- get).bytes
  match control? c, kind? c with
  | some d, _ => return some (.one d)
  | none, some item => return some item
  | none, none =>
    if c = 'x' then return some (.one (<- hexEscape 2))
    else if c = 'u' && longer then return some (.one (<- hexEscape 4))
    else if c = 'U' && longer then return some (.one (<- hexEscape 8))
    else return none

def plainEscape (c : Char) : Reading Char := do
  if c.isAlpha || c.isDigit then refuse "bad escape" else return c

def setItem : Reading SetItem := do
  let c <- next "unterminated character set"
  if c ≠ '\\' then return .one c
  let c <- next "bad escape"
  match <- escaped? c with
  | some item => return item
  | none =>
    if isOctal c then return .one (<- octal (c :: (<- takeWhile 2 isOctal)))
    else return .one (<- plainEscape c)

def setItems : (fuel : Nat) -> (done : List SetItem) -> Reading (List SetItem)
  | 0, _ => refuse "unterminated character set"
  | fuel + 1, done => do
    if !done.isEmpty && (<- peek) = some ']' then
      setRest ((<- get).rest.drop 1)
      return done.reverse
    let first <- setItem
    if <- accept '-' then
      if <- accept ']' then return (.one '-' :: first :: done).reverse
      match first, <- setItem with
      | .one a, .one b =>
        if codeOf b < codeOf a then refuse "bad character range"
        setItems fuel (.range a b :: done)
      | _, _ => refuse "bad character range"
    else
      setItems fuel (first :: done)

def literalChar (c : Char) : Pattern :=
  if flags.ignoreCase then one (.folded c flags.ascii) else one (.literal c)

def setOf (items : List SetItem) (negated : Bool) : Pattern :=
  one (.set items.eraseDups negated flags.ignoreCase flags.ascii)

def groupNamed (name : String) : Reading Nat := do
  match (<- get).names.lookup name with
  | some index => return index
  | none => refuse "unknown group name"

def outsideAssertion (index : Nat) : Reading Unit := do
  let r <- get
  if r.behindFrom.any fun first => first < index || r.opened.contains index then
    refuse "cannot refer to a group of the same assertion"

def reference (index : Nat) : Reading Pattern := do
  if (<- get).opened.contains index then refuse "cannot refer to an open group"
  outsideAssertion index
  return again index flags.ignoreCase flags.ascii

def edge (b : Boundary) : Item :=
  { pattern := boundary b, anchors := true }

def escapeItem : Reading Item := do
  let c <- next "bad escape"
  if c = 'A' then return edge .textStart
  if c = 'Z' then return edge .textEnd
  if c = 'b' then return edge (.wordEdge flags.ascii)
  if c = 'B' then return edge (.notWordEdge flags.ascii)
  match <- escaped? c with
  | some (.one d) => return literalChar flags d
  | some item => return setOf flags [item] false
  | none =>
    let ahead := (<- get).rest.take 2
    if c = '0' || (ahead.length = 2 && (c :: ahead).all isOctal) then
      return literalChar flags (<- octal (c :: (<- takeWhile 2 isOctal)))
    if !c.isDigit then return literalChar flags (<- plainEscape c)
    let index := inBase 10 (c :: (<- takeWhile 1 Char.isDigit))
    if (<- get).groups < index then refuse "invalid group reference"
    reference flags index

def braces (cs : List Char) : Option (Nat × Option Nat × List Char) := do
  let number? (digits : List Char) := if digits.isEmpty then none else some (inBase 10 digits)
  let low := cs.takeWhile Char.isDigit
  match cs.drop low.length with
  | ',' :: rest =>
    let high := rest.takeWhile Char.isDigit
    guard (rest[high.length]? = some '\x7d')
    return (inBase 10 low, number? high, rest.drop (high.length + 1))
  | '\x7d' :: rest => return (<- number? low, number? low, rest)
  | _ => none

def mostRounds : Nat := 4294967295

def repeatLast (low : Nat) (high : Option Nat) : List Item -> Reading (List Item)
  | [] => refuse "nothing to repeat"
  | item :: done => do
    if flags.single then modify fun r => { r with unworkable := true }
    if item.anchors then refuse "nothing to repeat"
    if item.repeats then refuse "multiple repeat"
    let greed <- do
      if <- accept '?' then pure Greed.reluctant
      else if <- accept '+' then pure Greed.possessive
      else pure Greed.greedy
    return { pattern := repeated item.pattern low high greed, repeats := true } :: done

def isFlag (c : Char) : Bool :=
  "iLmsxatu".toList.contains c

def isAlphabetFlag (c : Char) : Bool :=
  "aLu".toList.contains c

def setFlag (value : Bool) (flags : Flags) : Char -> Flags
  | 'i' => { flags with ignoreCase := value }
  | 'm' => { flags with multiline := value }
  | 's' => { flags with dotAll := value }
  | 'x' => { flags with verbose := value }
  | 't' => { flags with single := value }
  | 'a' => { flags with ascii := true, unicode := false }
  | 'u' => { flags with ascii := false, unicode := true }
  | 'L' => { flags with locale := true }
  | _ => flags

def addFlag : Char -> Flags
  | 'a' => { flags with ascii := true }
  | 'u' => { flags with unicode := true }
  | c => setFlag true flags c

def mayTurnOn (bytes : Bool) (letters : List Char) : Bool :=
  letters.all isFlag && !letters.contains (if bytes then 'u' else 'L') && (letters.filter isAlphabetFlag).eraseDups.length ≤ 1

def mayTurnOff (letters : List Char) : Bool :=
  !letters.isEmpty && letters.all fun c => isFlag c && !isAlphabetFlag c && c != 't'

inductive FlagScope where
  | whole (flags : Flags) (rest : List Char)
  | part (flags : Flags) (rest : List Char)

def flagGroup (bytes : Bool) (flags : Flags) (cs : List Char) : Except Failure FlagScope :=
  let isLetter := fun c => c != ')' && c != ':' && c != '-'
  let on := cs.takeWhile isLetter
  if !mayTurnOn bytes on then refuse "bad inline flags"
  else
    match cs.drop on.length with
    | ')' :: rest =>
      if on.isEmpty then refuse "unknown extension" else .ok (.whole (on.foldl addFlag flags) rest)
    | ':' :: rest =>
      if on.contains 't' then refuse "bad inline flags"
      else .ok (.part (on.foldl (setFlag true) flags) rest)
    | '-' :: rest =>
      let off := rest.takeWhile isLetter
      match rest.drop off.length with
      | ':' :: rest =>
        if on.contains 't' || !mayTurnOff off || on.any off.contains then refuse "bad inline flags"
        else .ok (.part (off.foldl (setFlag false) (on.foldl (setFlag true) flags)) rest)
      | _ => refuse "missing :"
    | _ => refuse "missing -, : or )"

def isLayout (c : Char) : Bool :=
  c == ' ' || (9 ≤ c.toNat && c.toNat ≤ 13)

def skipLayout : Reading Bool := do
  match (<- get).rest, flags.verbose with
  | '#' :: rest, true => setRest ((rest.dropWhile (· != '\n')).drop 1)
  | c :: rest, true => if isLayout c then setRest rest else return false
  | _, _ => return false
  return true

def skipComment (cs : List Char) : Reading Unit := do
  if !cs.contains ')' then refuse "unterminated comment"
  setRest ((cs.dropWhile (· != ')')).drop 1)

def openGroup (name : Option String) : Reading Nat := do
  let r <- get
  let index := r.groups + 1
  if name.any fun name => (r.names.lookup name).isSome then refuse "redefinition of group name"
  let names := r.names ++ name.toList.map (·, index)
  set { r with groups := index, opened := index :: r.opened, names := names }
  return index

def captured (name : Option String) (body : Reading Pattern) : Reading Pattern := do
  let index <- openGroup name
  let body <- body
  close
  modify fun r =>
    { r with
      opened := r.opened.filter (· != index)
      extents := (index, body.extent r.extents) :: r.extents }
  return group index body

def groupAsked (name : String) : Reading Nat := do
  if isIdentifier name then groupNamed name
  else
    match groupNumber? name with
    | some 0 => refuse "bad group number"
    | some index =>
      modify fun r => { r with mentioned := index :: r.mentioned }
      return index
    | none => refuse "bad character in group name"

section

variable (inner : (several : Bool) -> Flags -> Reading Pattern)

def bracket : Reading (List Item) := do
  let plain (flags : Flags) (rest : List Char) (wrap : Pattern -> Pattern) : Reading (List Item) := do
    setRest rest
    let body <- inner true flags
    close
    return [wrap body]
  if !(<- accept '?') then return [(<- captured none (inner true flags))]
  match (<- get).rest with
  | 'P' :: '<' :: rest =>
    setRest rest
    let name <- takeUntil '>'
    if !Text.isIdentifier name then refuse "bad character in group name"
    return [(<- captured name (inner true flags))]
  | 'P' :: '=' :: rest =>
    setRest rest
    return [(<- reference flags (<- groupNamed (<- takeUntil ')')))]
  | '#' :: rest =>
    skipComment rest
    return []
  | ':' :: rest => plain flags rest id
  | '>' :: rest => plain flags rest atomic
  | '=' :: rest => plain flags rest (ahead · false)
  | '!' :: rest => plain flags rest (ahead · true)
  | '<' :: sign :: rest =>
    if sign ≠ '=' && sign ≠ '!' then refuse "unknown extension"
    let outer := (<- get).behindFrom
    modify fun r => { r with rest := rest, behindFrom := some (outer.getD r.groups) }
    let body <- inner true flags
    modify fun r => { r with behindFrom := outer }
    close
    let (low, high) := body.extent (<- get).extents
    if high ≠ some low then modify fun r => { r with unworkable := true }
    return [behind body low (sign == '!')]
  | '(' :: rest =>
    setRest rest
    let index <- groupAsked (<- takeUntil ')')
    outsideAssertion index
    let yes <- inner false flags
    let no <- if <- accept '|' then inner false flags else pure empty
    close
    return [ifGroup index yes no]
  | rest =>
    match <- flagGroup (<- get).bytes flags rest with
    | .part flags rest => plain flags rest id
    | .whole _ _ => refuse "global flags not at the start of the expression"

def addItem (done : List Item) (c : Char) : Reading (List Item) := do
  match c with
  | '\\' => return (<- escapeItem flags) :: done
  | '[' =>
    let negated <- accept '^'
    return setOf flags (<- setItems ((<- get).rest.length + 1) []) negated :: done
  | '*' => repeatLast flags 0 none done
  | '+' => repeatLast flags 1 none done
  | '?' => repeatLast flags 0 (some 1) done
  | '\x7b' =>
    match braces (<- get).rest with
    | none => return literalChar flags c :: done
    | some (low, high, rest) =>
      if mostRounds ≤ low || high.any (mostRounds ≤ ·) then throw .tooLarge
      if high.any (· < low) then refuse "min repeat greater than max repeat"
      setRest rest
      repeatLast flags low high done
  | '.' => return one (if flags.dotAll then .any else .notLineFeed) :: done
  | '^' => return edge (if flags.multiline then .lineStart else .textStart) :: done
  | '$' => return edge (if flags.multiline then .lineEnd else .lastLineEnd) :: done
  | '(' => return (<- bracket flags inner) ++ done
  | _ => return literalChar flags c :: done

def items : (fuel : Nat) -> (done : List Item) -> Reading Pattern
  | 0, _ => refuse "pattern too deep"
  | fuel + 1, done => do
    if <- skipLayout flags then items fuel done
    else
      match (<- get).rest with
      | [] | '|' :: _ | ')' :: _ => return sequence (done.reverse.map (·.pattern))
      | c :: rest =>
        setRest rest
        items fuel (<- addItem flags inner done c)

end

def alternatives : (fuel : Nat) -> (several : Bool) -> Flags -> Reading Pattern
  | 0, _, _ => refuse "pattern too deep"
  | fuel + 1, several, flags => do
    let first <- items flags (alternatives fuel) ((<- get).rest.length + 1) []
    if several then
      if <- accept '|' then return alt first (<- alternatives fuel true flags)
    return first

def leading (flags : Flags) : (fuel : Nat) -> Reading Flags
  | 0 => return flags
  | fuel + 1 => do
    match (<- get).rest with
    | '(' :: '?' :: '#' :: rest =>
      skipComment rest
      leading flags fuel
    | '(' :: '?' :: c :: rest =>
      if !c.isAlpha || c = 'P' then return flags
      match <- flagGroup (<- get).bytes flags (c :: rest) with
      | .whole flags rest =>
        setRest rest
        leading flags fuel
      | .part _ _ => return flags
    | _ => if <- skipLayout flags then leading flags fuel else return flags

def isCased (ascii : Bool) (c : Char) : Bool :=
  if ascii then c.isAlpha else lowerOne false c != c || upperOne c != c

def mindsCase (ascii : Bool) : SetItem -> Bool
  | .one c => isCased ascii c
  | .range first last =>
    !isBasic last || (List.range (codeOf last + 1 - codeOf first)).any fun i =>
        isCased ascii (ofCode (codeOf first + i))
  | .kind _ _ => false

def opening? (ascii : Bool) : Pattern -> Option CharTest
  | one (.set items negated fold inner) =>
    if inner == ascii || (fold && items.any (mindsCase inner)) then none
    else some (.set items negated false ascii)
  | seq empty second => second.opening? ascii
  | seq first _ => first.opening? ascii
  | group _ body => body.opening? ascii
  | _ => none

def whole : Reading (Pattern × Flags) := do
  let fuel := (<- get).rest.length + 1
  let flags <- leading flags fuel
  let pattern <- alternatives fuel true flags
  let r <- get
  if !r.bytes && !flags.fitTexts then throw .badValue
  unless r.rest.isEmpty do refuse "unbalanced parenthesis"
  if r.mentioned.any (r.groups < ·) then refuse "invalid group reference"
  if r.unworkable then refuse "unworkable pattern"
  return (pattern, flags)

end Pattern

namespace Expression

def parse (bytes : Bool) (flags : Pattern.Flags) (text : List Char) :
    Except Failure Expression := do
  let ((pattern, flags), r) <- (Pattern.whole { flags with ascii := flags.ascii || bytes }).run
    { rest := text, bytes := bytes }
  return { pattern, groups := r.groups, names := r.names, opening := pattern.opening? flags.ascii }

end Expression

end Refinery
