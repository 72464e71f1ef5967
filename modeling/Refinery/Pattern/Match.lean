import Refinery.Text.Case
import Refinery.Text.Quoted

namespace Refinery

open Text

/-!
# Patterns

A pattern is a regular expression.
-/

inductive CharKind where
  | digit
  | blank
  | word
  deriving DecidableEq

namespace CharKind

def holds (ascii : Bool) : CharKind -> Char -> Bool
  | digit, c => if ascii || c.toNat < 128 then c.isDigit else isDigit c
  | blank, c => isBlank c && (!ascii || (c.toNat < 128 && !(28 ≤ c.toNat && c.toNat ≤ 31)))
  | word, c =>
    if ascii || c.toNat < 128 then c.isAlphanum || c == '_' else isAlphanumeric c

end CharKind

inductive SetItem where
  | one (c : Char)
  | range (first last : Char)
  | kind (named : CharKind) (negated : Bool)
  deriving DecidableEq

def caseClasses : List (List Nat) :=
  [[0x69, 0x131], [0x73, 0x17F], [0xB5, 0x3BC], [0x345, 0x3B9, 0x1FBE], [0x390, 0x1FD3],
    [0x3B0, 0x1FE3], [0x3B2, 0x3D0], [0x3B5, 0x3F5], [0x3B8, 0x3D1], [0x3BA, 0x3F0],
    [0x3C0, 0x3D6], [0x3C1, 0x3F1], [0x3C2, 0x3C3], [0x3C6, 0x3D5], [0x432, 0x1C80],
    [0x434, 0x1C81], [0x43E, 0x1C82], [0x441, 0x1C83], [0x442, 0x1C84, 0x1C85], [0x44A, 0x1C86],
    [0x463, 0x1C87], [0x1C88, 0xA64B], [0x1E61, 0x1E9B], [0xFB05, 0xFB06]]

variable (ascii : Bool)

def classOf (lower : Char) : List Char :=
  if ascii then [lower]
  else
    match caseClasses.find? (·.contains lower.toNat) with
    | some codes => codes.map Char.ofNat
    | none => [lower]

def lowerOne (c : Char) : Char :=
  if ascii then (if c.toNat < 128 then c.toLower else c)
  else (lowerChar c).headD c

def upperOne (c : Char) : Char :=
  (upperChar c).headD c

def capitalsOf (lower : Char) : List Char :=
  if ascii then
    if 'a' ≤ lower && lower ≤ 'z' then [lower, lower.toUpper]
    else if 'A' ≤ lower && lower ≤ 'Z' then []
    else [lower]
  else
    let moved := lowerRuns.filterMap fun run =>
      let code := (lower.toNat : Int) - run.distance
      if 0 ≤ code && run.image? code.toNat == some lower.toNat then some (Char.ofNat code.toNat)
      else none
    let longer := lowerExpansions.filterMap fun (code, form) =>
      if form.head? == some lower.toNat then some (Char.ofNat code) else none
    let ascii := if 'a' ≤ lower && lower ≤ 'z' then [lower.toUpper] else []
    (if lowerOne false lower == lower then [lower] else []) ++ ascii ++ moved ++ longer

def sameLower (a b : Char) : Bool :=
  lowerOne ascii a == lowerOne ascii b

def sameUpToCase (a b : Char) : Bool :=
  (classOf ascii (lowerOne ascii b)).contains (lowerOne ascii a)

inductive CharTest where
  | any
  | notLineFeed
  | literal (c : Char)
  | folded (c : Char) (ascii : Bool)
  | set (items : List SetItem) (negated fold ascii : Bool)
  deriving DecidableEq

def between (first last c : Char) : Bool :=
  codeOf first ≤ codeOf c && codeOf c ≤ codeOf last

def isBasic (c : Char) : Bool :=
  codeOf c < 0x10000

namespace SetItem

def holds (ascii : Bool) (c : Char) : SetItem -> Bool
  | one d => c == d
  | range first last => between first last c
  | kind named negated => named.holds ascii c != negated

def holdsFolded (ascii : Bool) (lower : Char) : SetItem -> Bool
  | one d => if isBasic d then sameUpToCase ascii lower d else lower == d
  | range first last =>
    ((classOf ascii lower).any fun one =>
      (capitalsOf ascii one).any fun c => isBasic c && between first last c) ||
    (!isBasic last && (between first last lower || between first last (upperOne lower)))
  | kind named negated => named.holds ascii lower != negated

end SetItem

namespace CharTest

def accepts : CharTest -> Char -> Bool
  | any, _ => true
  | notLineFeed, c => c != '\n'
  | literal d, c => c == d
  | folded d ascii, c => sameUpToCase ascii c d
  | set items negated fold ascii, c =>
    (match items, fold with
      | items, false => items.any (·.holds ascii c)
      | [.one d], true => sameUpToCase ascii c d
      | items, true => items.any (·.holdsFolded ascii (lowerOne ascii c))) != negated

end CharTest

inductive Boundary where
  | textStart
  | textEnd
  | lastLineEnd
  | lineStart
  | lineEnd
  | wordEdge (ascii : Bool)
  | notWordEdge (ascii : Bool)
  deriving DecidableEq

inductive Greed where
  | greedy
  | reluctant
  | possessive
  deriving DecidableEq

inductive Pattern where
  | empty
  | one (test : CharTest)
  | seq (first second : Pattern)
  | alt (first second : Pattern)
  | repeated (body : Pattern) (low : Nat) (high : Option Nat) (greed : Greed)
  | group (index : Nat) (body : Pattern)
  | again (index : Nat) (fold ascii : Bool)
  | boundary (edge : Boundary)
  | ahead (body : Pattern) (negated : Bool)
  | behind (body : Pattern) (width : Nat) (negated : Bool)
  | atomic (body : Pattern)
  | ifGroup (index : Nat) (yes no : Pattern)
  deriving DecidableEq, Inhabited

namespace Pattern

def literal (s : String) : Pattern :=
  s.toList.foldr (fun c rest => seq (one (.literal c)) rest) empty

def sequence : List Pattern -> Pattern
  | [] => empty
  | [p] => p
  | p :: rest => seq p (sequence rest)

def choice : List Pattern -> Pattern
  | [] => ahead empty true
  | [p] => p
  | p :: rest => alt p (choice rest)

def ofKind (named : CharKind) : Pattern :=
  one (.set [.kind named false] false false false)

def among (items : List SetItem) : Pattern :=
  one (.set items false false false)

def notAmong (items : List SetItem) : Pattern :=
  one (.set items true false false)

def zeroOrMore (body : Pattern) : Pattern :=
  repeated body 0 none .greedy

def oneOrMore (body : Pattern) : Pattern :=
  repeated body 1 none .greedy

def times (n : Nat) (body : Pattern) : Pattern :=
  repeated body n (some n) .greedy

def optional (body : Pattern) : Pattern :=
  repeated body 0 (some 1) .greedy

def dot : Pattern :=
  one .notLineFeed

end Pattern

structure Expression where
  pattern : Pattern
  groups : Nat
  names : List (String × Nat)
  opening : Option CharTest := none
  deriving DecidableEq, Inhabited

/-!
## Matching

A match is a walk over the text.
-/

structure Span where
  entered : Option (Nat × List Char) := none
  left : Option Nat := none
  deriving DecidableEq

def Span.text? (span : Span) : Option (List Char) := do
  let (start, after) <- span.entered
  let stop <- span.left
  if stop < start then none else some (after.take (stop - start))

structure Spot where
  before : List Char
  after : List Char
  position : Nat
  groups : List Span
  deriving DecidableEq

abbrev Goal := Spot -> Option Spot

namespace Spot

def start (text : List Char) (groups : Nat) : Spot :=
  ⟨[], text, 0, List.replicate groups {}⟩

def step (test : CharTest) (s : Spot) : Option Spot :=
  match s.after with
  | [] => none
  | c :: rest =>
    if test.accepts c then some ⟨c :: s.before, rest, s.position + 1, s.groups⟩ else none

def upTo (first second : Spot) : List Char :=
  first.after.take (second.position - first.position)

def enter (s : Spot) (index : Nat) : Spot :=
  { s with groups := s.groups.modify (index - 1) fun span =>
      { span with entered := some (s.position, s.after) } }

def leave (s : Spot) (index : Nat) : Spot :=
  { s with groups := s.groups.modify (index - 1) fun span =>
      { span with left := some s.position } }

def group? (s : Spot) (index : Nat) : Option (List Char) :=
  (s.groups[index - 1]?).bind Span.text?

def pass (same : Char -> Char -> Bool) : List Char -> Spot -> Option Spot
  | [], s => some s
  | d :: rest, s =>
    match s.after with
    | [] => none
    | c :: after =>
      if same c d then pass same rest ⟨c :: s.before, after, s.position + 1, s.groups⟩ else none

def back : (width : Nat) -> Spot -> Option Spot
  | 0, s => some s
  | width + 1, s =>
    match s.before with
    | [] => none
    | c :: before => back width ⟨before, c :: s.after, s.position - 1, s.groups⟩

def holds (s : Spot) : Boundary -> Bool
  | .textStart => s.before.isEmpty
  | .textEnd => s.after.isEmpty
  | .lastLineEnd => s.after.isEmpty || s.after == ['\n']
  | .lineStart => s.before.isEmpty || s.before.head? == some '\n'
  | .lineEnd => s.after.isEmpty || s.after.head? == some '\n'
  | .wordEdge ascii =>
    let word (c : Option Char) := c.any (CharKind.word.holds ascii)
    word s.before.head? != word s.after.head?
  | .notWordEdge ascii =>
    let word (c : Option Char) := c.any (CharKind.word.holds ascii)
    !(s.before.isEmpty && s.after.isEmpty) && word s.before.head? == word s.after.head?

/-- The places reached by passing at most `limit` accepted characters, the furthest first. -/
def run (test : CharTest) : (limit : Nat) -> (passed : List Spot) -> Spot -> List Spot
  | 0, passed, s => s :: passed
  | limit + 1, passed, s =>
    match s.step test with
    | some next => run test limit (s :: passed) next
    | none => s :: passed

end Spot

namespace Pattern

def firstOf (goal : Goal) : List Spot -> Option Spot
  | [] => none
  | s :: rest =>
    match goal s with
    | some r => some r
    | none => firstOf goal rest

def mayRepeat (count : Nat) : Option Nat -> Bool
  | none => true
  | some high => decide (count < high)

def rounds (body : Goal -> Goal) (low : Nat) (high : Option Nat) (goal : Goal) :
    (fuel count : Nat) -> (last : Option Nat) -> Goal
  | 0, _, _, s => goal s
  | fuel + 1, count, last, s =>
    if count < low then body (rounds body low high goal fuel (count + 1) last) s
    else if mayRepeat count high && last != some s.position then
      match body (rounds body low high goal fuel (count + 1) (some s.position)) s with
      | some r => some r
      | none => goal s
    else
      goal s

def fewRounds (body : Goal -> Goal) (low : Nat) (high : Option Nat) (goal : Goal) :
    (fuel count : Nat) -> (last : Option Nat) -> Goal
  | 0, _, _, s => goal s
  | fuel + 1, count, last, s =>
    if count < low then body (fewRounds body low high goal fuel (count + 1) last) s
    else
      match goal s with
      | some r => some r
      | none =>
        if mayRepeat count high && last != some s.position then
          body (fewRounds body low high goal fuel (count + 1) (some s.position)) s
        else
          none

def firmRounds (body : Goal -> Goal) (low : Nat) (high : Option Nat) : (fuel count : Nat) -> Spot -> Option Spot
  | 0, _, s => some s
  | fuel + 1, count, s =>
    if mayRepeat count high then
      match body some s with
      | some next =>
        if next.position = s.position && low ≤ count + 1 then some next
        else firmRounds body low high fuel (count + 1) next
      | none => if count < low then none else some s
    else
      some s

def fewSteps (test : CharTest) (goal : Goal) (high : Option Nat) : (fuel count : Nat) -> Goal
  | 0, _, s => goal s
  | fuel + 1, count, s =>
    match goal s with
    | some r => some r
    | none =>
      if mayRepeat count high then
        match s.step test with
        | some next => fewSteps test goal high fuel (count + 1) next
        | none => none
      else
        none

def steps (test : CharTest) : (n : Nat) -> Spot -> Option Spot
  | 0, s => some s
  | n + 1, s =>
    match s.step test with
    | some next => steps test n next
    | none => none

def repeatTest (test : CharTest) (low : Nat) (high : Option Nat) (greed : Greed) (goal : Goal) : Goal := fun s =>
  match steps test low s with
  | none => none
  | some s =>
    let length := s.after.length
    let limit := match high with
      | none => length
      | some high => high - low
    match greed with
    | .greedy => firstOf goal (s.run test limit [])
    | .reluctant => fewSteps test goal (high.map (· - low)) (length + 1) 0 s
    | .possessive =>
      match s.run test limit [] with
      | furthest :: _ => goal furthest
      | [] => none

def run : Pattern -> Goal -> Goal
  | empty, goal, s => goal s
  | one test, goal, s =>
    match s.step test with
    | some next => goal next
    | none => none
  | seq first second, goal, s => first.run (second.run goal) s
  | alt first second, goal, s =>
    match first.run goal s with
    | some r => some r
    | none => second.run goal s
  | repeated body low high greed, goal, s =>
    match body with
    | one test => repeatTest test low high greed goal s
    | _ =>
      let fuel := low + s.after.length + 2
      match greed with
      | .greedy => rounds body.run low high goal fuel 0 none s
      | .reluctant => fewRounds body.run low high goal fuel 0 none s
      | .possessive =>
        match firmRounds body.run low high fuel 0 s with
        | some next => goal next
        | none => none
  | group index body, goal, s => body.run (fun e => goal (e.leave index)) (s.enter index)
  | again index fold ascii, goal, s =>
    match s.group? index with
    | some text =>
      match s.pass (if fold then sameLower ascii else (· == ·)) text with
      | some next => goal next
      | none => none
    | none => none
  | boundary edge, goal, s => if s.holds edge then goal s else none
  | ahead body negated, goal, s =>
    match body.run some s with
    | some found => if negated then none else goal { s with groups := found.groups }
    | none => if negated then goal s else none
  | behind body width negated, goal, s =>
    let found := match s.back width with
      | some earlier => body.run (fun e => if e.position = s.position then some e else none) earlier
      | none => none
    match found with
    | some found => if negated then none else goal { s with groups := found.groups }
    | none => if negated then goal s else none
  | atomic body, goal, s =>
    match body.run some s with
    | some next => goal next
    | none => none
  | ifGroup index yes no, goal, s =>
    if (s.group? index).isSome then yes.run goal s else no.run goal s

end Pattern

structure Match where
  gap : List Char
  text : List Char
  groups : List (Option (List Char))
  deriving DecidableEq

namespace Match

def group? (m : Match) (index : Nat) : Option String :=
  if index = 0 then some (String.ofList m.text)
  else ((m.groups[index - 1]?).join).map String.ofList

def group (m : Match) (index : Nat) : String :=
  (m.group? index).getD ""

end Match

namespace Expression

variable (e : Expression)

def matchHere (moving : Bool) (s : Spot) : Option Spot :=
  e.pattern.run (fun found =>
    if moving && found.position = s.position then none else some found) s

def mayStart (after : List Char) : Bool :=
  e.opening.all fun test => after.head?.any test.accepts

def tryHere (moving : Bool) (before after : List Char) (position : Nat) : Option (Spot × Spot) :=
  let here : Spot := ⟨before, after, position, List.replicate e.groups {}⟩
  if e.mayStart after then (e.matchHere moving here).map fun found => (here, found) else none

/-- The first match at or after a place.  With `moving`, a match at the first place must not be empty. -/
def searchFrom (e : Expression) (moving : Bool) (before : List Char) :
    (after : List Char) -> (position : Nat) -> Option (Spot × Spot)
  | [], position => e.tryHere moving before [] position
  | c :: rest, position =>
    match e.tryHere moving before (c :: rest) position with
    | some found => some found
    | none => e.searchFrom false (c :: before) rest (position + 1)

def between (origin start stop : Spot) : Match :=
  ⟨origin.upTo start, start.upTo stop, stop.groups.map Span.text?⟩

def matchesFrom (e : Expression) (limit : Option Nat) : (fuel count : Nat) -> (moving : Bool) -> Spot -> List Match × List Char
  | 0, _, _, s => ([], s.after)
  | fuel + 1, count, moving, s =>
    if Pattern.mayRepeat count limit then
      match e.searchFrom moving s.before s.after s.position with
      | some (start, stop) =>
        let (rest, tail) :=
          e.matchesFrom limit fuel (count + 1) (start.position == stop.position) stop
        (between s start stop :: rest, tail)
      | none => ([], s.after)
    else
      ([], s.after)

def matchesIn (text : List Char) (limit : Option Nat := none) : List Match × List Char :=
  e.matchesFrom limit (2 * text.length + 2) 0 false (Spot.start text e.groups)

def search? (s : String) : Option Match :=
  (e.matchesIn s.toList (some 1)).1.head?

def matchStart? (s : String) : Option Match :=
  let start := Spot.start s.toList e.groups
  (e.matchHere false start).map (between start start)

def occursIn (s : String) : Bool :=
  (e.search? s).isSome

end Expression

end Refinery
