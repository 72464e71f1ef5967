import Refinery.Doc.Access

namespace Refinery

open Job Text

/-!
# Versions of packages

Several spellings are read, and one is written.
-/

inductive LocalPart where
  | word (text : String)
  | number (value : Nat)
  deriving DecidableEq

structure Version where
  epoch : Nat := 0
  release : List Nat
  before : Option (String × Nat) := none
  after : Option Nat := none
  development : Option Nat := none
  label : List LocalPart := []
  deriving DecidableEq

namespace Version

def isAsciiDigit (c : Char) : Bool :=
  '0' ≤ c && c ≤ '9'

def valueOf (digits : String) : Nat :=
  digits.toList.foldl (fun n c => n * 10 + (c.toNat - 48)) 0

/-! ## The written form -/

open Pattern

def word (s : String) : Pattern :=
  sequence (s.toList.map fun c => .one (.folded c false))

def separator : Pattern :=
  among [.one '-', .one '_', .one '.']

def number : Pattern :=
  oneOrMore (among [.range '0' '9'])

def labelPart : Pattern :=
  oneOrMore (.one (.set [.range 'a' 'z', .range '0' '9'] false true false))

def mark (wordGroup numberGroup : Nat) (words : List String) : Pattern :=
  sequence [optional separator, .group wordGroup (choice (words.map word)), optional separator,
    optional (.group numberGroup number)]

def form : Expression :=
  { pattern := sequence [
      optional (word "v"), optional (.seq (.group 1 number) (literal "!")),
      .group 2 (.seq number (zeroOrMore (.seq (literal ".") number))),
      optional (mark 3 4 ["alpha", "a", "beta", "b", "preview", "pre", "c", "rc"]),
      optional (choice [.seq (literal "-") (.group 5 number), mark 6 7 ["post", "rev", "r"]]),
      optional (mark 8 9 ["dev"]), optional (.seq (literal "+")
        (.group 10 (.seq labelPart (zeroOrMore (.seq separator labelPart))))), .boundary .textEnd]
    groups := 10
    names := [] }

def usualWord (word : String) : String :=
  if word = "alpha" then "a"
  else if word = "beta" then "b"
  else if ["c", "pre", "preview"].contains word then "rc"
  else word

def localPartOf (text : String) : LocalPart :=
  if text.toList.all isAsciiDigit then .number (valueOf text) else .word (lower text)

def labelOf (text : String) : List LocalPart :=
  (split "." (text.map fun c => if c == '-' || c == '_' then '.' else c)).map localPartOf

def parse? (text : String) : Option Version := do
  let found <- form.matchStart? (trim text)
  let value (index : Nat) : Nat := valueOf (found.group index)
  let given (index : Nat) : Bool := (found.group? index).isSome
  return {
    epoch := value 1
    release := (split "." (found.group 2)).map valueOf
    before := (found.group? 3).map fun word => (usualWord (lower word), value 4)
    after := if given 5 then some (value 5) else if given 6 then some (value 7) else none
    development := if given 8 then some (value 9) else none
    label := ((found.group? 10).map labelOf).getD [] }

def parse (text : String) : Except Failure Version :=
  match parse? text with
  | some version => .ok version
  | none => .error .badVersion

def localPartText : LocalPart -> String
  | .word text => text
  | .number value => toString value

def text (v : Version) : String :=
  (if v.epoch = 0 then "" else toString v.epoch ++ "!") ++ join "." (v.release.map toString) ++ (match v.before with
    | some (letter, number) => letter ++ toString number
    | none => "") ++ (match v.after with
    | some number => ".post" ++ toString number
    | none => "") ++ (match v.development with
    | some number => ".dev" ++ toString number
    | none => "") ++ if v.label.isEmpty then "" else "+" ++ join "." (v.label.map localPartText)

def significant (v : Version) : List Nat :=
  (v.release.reverse.dropWhile (· == 0)).reverse

def stage (v : Version) : Nat × String × Nat :=
  match v.before, v.after, v.development with
  | some (letter, number), _, _ => (1, letter, number)
  | none, none, some _ => (0, "", 0)
  | none, _, _ => (2, "", 0)

def compareLocalPart : LocalPart -> LocalPart -> Ordering
  | .word a, .word b => compare a b
  | .word _, .number _ => .lt
  | .number _, .word _ => .gt
  | .number a, .number b => compare a b

def compareLists {α : Type} (order : α -> α -> Ordering) : List α -> List α -> Ordering
  | [], [] => .eq
  | [], _ :: _ => .lt
  | _ :: _, [] => .gt
  | a :: as, b :: bs => (order a b).then (compareLists order as bs)

def compareMarks : Option Nat -> Option Nat -> Ordering
  | none, none => .eq
  | none, some _ => .lt
  | some _, none => .gt
  | some a, some b => compare a b

def compareDevelopment : Option Nat -> Option Nat -> Ordering
  | none, none => .eq
  | none, some _ => .gt
  | some _, none => .lt
  | some a, some b => compare a b

def order (a b : Version) : Ordering :=
  let (stageA, letterA, numberA) := a.stage
  let (stageB, letterB, numberB) := b.stage
  (compare a.epoch b.epoch).then <| (compareLists compare a.significant b.significant).then <|
    (compare stageA stageB).then <| (compare letterA letterB).then <| (compare numberA numberB).then <|
    (compareMarks a.after b.after).then <| (compareDevelopment a.development b.development).then <|
    compareLists compareLocalPart a.label b.label

end Version

namespace UpdateCheck

/-! ## Looking for updates -/

variable (package : String)

def installedVersion : Except Failure Version :=
  if package = "gcp-synthtool" then Version.parse "2020.2.4" else .error .notInstalled

def releasedVersion : Job Doc := do
  let page <- fetch ("https://pypi.org/pypi/" ++ package ++ "/json")
  if 400 ≤ page.status && page.status < 600 then fail (.webStatus page.status)
  let doc <- need .badJson (Json.parse? page.text)
  Job.ofExcept do (<- doc.entry "info").entry "version"

def day : Nat := 60 * 60 * 24

def isDue : Job Bool := do
  let flag := (<- home) / ".cache" / ("update-check-" ++ package)
  match <- nodeAt? flag with
  | none =>
    makeDirectories flag.parent
    touch flag
    return true
  | some (.file file) =>
    if day ≤ file.age then
      touch flag
      return true
    return false
  | some _ => return false

def announce : Job Unit := do
  if <- isDue package then
    let current <- Job.ofExcept (installedVersion package)
    let released <- Job.ofExcept ((<- releasedVersion package).needText)
    let newest <- Job.ofExcept (Version.parse released)
    if current.order newest = .lt then
      printLine (package ++ " has a newer version available. Current version is " ++
        current.text ++ ", newest is " ++ newest.text ++
        ". Run \x60python3 -m pip install --upgrade " ++ package ++ "\x60 to update.")

end UpdateCheck
end Refinery
