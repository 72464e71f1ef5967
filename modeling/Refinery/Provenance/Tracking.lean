import Refinery.Path.NamePattern
import Refinery.Workspace.Files

namespace Refinery.Provenance

open Job Text

/-!
# Keeping the record of a session

A tracked job notes the sources it uses and the files it touches.
-/

inductive Event where
  | created (path : String)
  | modified (path : String)
  | deleted (path : String)
  | moved (source destination : String)
  | directory
  deriving DecidableEq

namespace Event

def touched? : Event -> Option String
  | created path | modified path => some path
  | moved _ destination => some destination
  | deleted _ | directory => none

end Event

def touchedFiles (watched : Path) (events : List Event) : Except Failure (List String) := do
  let paths <- (events.filterMap Event.touched?).mapM fun path =>
    match (Path.ofString path).relativeTo? watched with
    | some relative => .ok relative.toString
    | none => .error .badValue
  return sorted paths.eraseDups

def readOrEmpty (path : String := "synth.metadata") : Job Record := do
  match <- attempt (readText path) with
  | .ok text => Job.ofExcept (Record.parse text)
  | .error (.absent _) => return {}
  | .error failure => fail failure

def write (path : String := "synth.metadata") : Job Unit := do
  writeText path (<- session).record.print

def reset : Job Unit :=
  note fun s => { s with record := {}, excluded := [] }

def outsideGit (path : String) : Bool :=
  !(Path.ofString path).parts.contains ".git"

def answeredPaths (output : String) : List String :=
  (split "\n" output).map fun line => PathText.normal (trim line)

def withoutIgnored (paths : List String) : Job (List String) := do
  let candidates := paths.filter outsideGit
  if !(<- hasProgram "git") then complain .gitMissing
  let answer <- run ["git", "check-ignore", "--stdin"] none (some candidates)
  let ignored := answeredPaths answer.output
  return candidates.filter fun path => !ignored.contains (PathText.normal path)

def obsoleteFiles (old current : Record) : List String :=
  (old.generatedFiles.filter fun path => !current.generatedFiles.contains path).eraseDups

def isExcluded (patterns : List String) (path : String) : Bool :=
  patterns.any fun pattern => NamePattern.matchesName pattern path

def removeIfPresent (path : String) : Job Unit := do
  match <- attempt (unlink path) with
  | .ok _ | .error (.absent _) => pure ()
  | .error failure => fail failure

def removeAmong (paths : List String) : Job Unit := do
  let session <- session
  (<- withoutIgnored paths).forM fun path => do
    if !isExcluded session.excluded path then removeIfPresent path

def removeObsolete (old : Record) : Job Unit := do
  removeAmong (obsoleteFiles old (<- session).record)

def answerOf (words : List String) : Job String := do
  return trim (unifyLineEnds (<- run words).output)

def addRepository (name directory : String) : Job Nat := do
  let status <- run ["git", "-C", directory, "status"]
  if status.status ≠ 0 then return 0
  let remote <- answerOf ["git", "-C", directory, "remote", "get-url", "origin"]
  let sha <- answerOf ["git", "-C", directory, "log", "--no-decorate", "-1", "--pretty=format:%H"]
  record (·.addSource (.git { name, remote, sha }))
  return 1

def addSelf : Job Nat := do
  addRepository "." (<- workingDirectory)

def finish (path : String) (old : Record) (watched : Option Path) (events : List Event) :
    Job Unit := do
  if (<- session).removesObsolete then
    let directory <- need .noMember watched
    let touched <- Job.ofExcept (touchedFiles directory events)
    (<- withoutIgnored touched).forM fun file => record (·.addGeneratedFile file)
    removeObsolete old
  record fun r => r.forgetLocalPaths.sortSources
  if (<- session).writesRecord then write path

def start (path : String) : Job (Record × Option Path) := do
  let old <- readOrEmpty path
  let _ <- addSelf
  let directory := (Path.ofString path).parent
  makeDirectories directory
  return (old, if (<- session).removesObsolete then some directory else none)

def track {α : Type} (path : String) (job : Job α) (events : List Event := []) : Job α := do
  let (old, watched) <- start path
  let value <- job
  finish path old watched events
  return value

def recordOf? (list kind : String) (fields : List (String × Doc)) : Option Record :=
  Record.ofDoc? (.fields [(list, .list [.fields [(kind, .fields fields)]])])

def checkFields (list kind : String) : List (String × Doc) -> Except Failure Unit
  | [] => .ok ()
  | (name, value) :: rest =>
    if lower name ≠ name || (recordOf? list kind [(name, .null)]).isNone then .error .badValue
    else
      match value with
      | .null | .text _ => checkFields list kind rest
      | _ => .error .wrongKind

def addEntry (list kind : String) (fields : List (String × Doc)) : Job Unit := do
  Job.ofExcept (checkFields list kind fields)
  let addition <- need .badValue (recordOf? list kind fields)
  record fun r =>
    addition.destinations.foldl .addDestination (addition.sources.foldl .addSource r)

def preclones : Job Preclones := do
  match (<- session).preclones with
  | some known => return known
  | none =>
    let found <- match <- chosen? "SYNTHTOOL_PRECONFIG_FILE" with
      | none => pure {}
      | some path => do
        let text <- readText path
        Job.ofExcept (Preclones.parse text)
    note fun s => { s with preclones := some found }
    return found

end Refinery.Provenance
