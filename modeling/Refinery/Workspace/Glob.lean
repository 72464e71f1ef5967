import Refinery.Path.NamePattern
import Refinery.Workspace.Files

namespace Refinery

open Job Text

/-!
# Paths that match a pattern

A pattern is matched name by name; two stars stand for any number of directories.  Directories are listed when
the search reaches them, so it sees what was done with the paths it found before.
-/

inductive GlobStep where
  | exact (name : String)
  | matching (pattern : NamePattern)
  | anywhere
  deriving DecidableEq

structure Glob where
  steps : List GlobStep
  directoriesOnly : Bool := false
  deriving DecidableEq

namespace Glob

def stepOf (name : String) : Except Failure GlobStep :=
  if name = "**" then .ok .anywhere
  else if contains name "**" then .error .badValue
  else if NamePattern.isWild name then .ok (.matching (NamePattern.ofString name))
  else .ok (.exact name)

def parse (pattern : String) : Except Failure Glob := do
  if pattern = "" then throw .badValue
  let path := Path.ofString pattern
  if path.isAbsolute then throw .unsupported
  let directoriesOnly := endsWith pattern "/"
  if path.names.isEmpty then throw (if directoriesOnly then .noMember else .noIndex)
  return ⟨<- path.names.mapM stepOf, directoriesOnly⟩

def foldDirectories {σ : Type} (visit : σ -> Path -> Job σ) : (depth : Nat) -> σ -> Path -> Job σ
  | 0, state, _ => pure state
  | depth + 1, state, directory => do
    let state <- visit state directory
    let inner <- (<- children directory).filterM fun (path : Path) => do
      return (<- isDirectory path) && !(<- isLink path)
    inner.foldlM (foldDirectories visit depth) state

def foldSteps (directoriesOnly : Bool) : List GlobStep -> {σ : Type} -> (visit : σ -> Path -> Job σ) -> σ -> Path -> Job σ
  | [], _, visit, state, path => visit state path
  | .exact name :: rest, _, visit, state, path => do
    let path := path.child name
    let found <- if rest.isEmpty && !directoriesOnly then exists? path else isDirectory path
    if found then foldSteps directoriesOnly rest visit state path else pure state
  | .matching pattern :: rest, _, visit, state, path => do
    let names <- list path
    let wanted <- names.filterM fun name =>
      if rest.isEmpty && !directoriesOnly then pure true else isDirectory (path.child name)
    (wanted.filter fun name => pattern.accepts name.toList).foldlM
      (fun state name => foldSteps directoriesOnly rest visit state (path.child name)) state
  | .anywhere :: rest, σ, visit, state, path => do
    let once : List Path × σ -> Path -> Job (List Path × σ) := fun (seen, state) path => do
      if seen.contains path then return (seen, state)
      let state <- visit state path
      return (path :: seen, state)
    let (_, state) <- foldDirectories (foldSteps directoriesOnly rest once)
      (<- depthLimit) ([], state) path
    return state

def fold {σ : Type} (directory : Path) (pattern : String) (visit : σ -> Path -> Job σ) (state : σ) :
    Job σ := do
  let glob <- Job.ofExcept (parse pattern)
  if <- isDirectory directory then
    foldSteps glob.directoriesOnly glob.steps visit state directory
  else
    return state

def list (directory : Path) (pattern : String) : Job (List Path) := do
  let found <- fold directory pattern (fun found path => pure (path :: found)) []
  return found.reverse

end Glob

/-!
## Selections of paths

A pattern that is given as a text never selects the script that is running; one that is given as a path does.
-/

inductive Choice where
  | text (pattern : String)
  | path (path : Path)
  deriving DecidableEq

inductive Selection where
  | nothing
  | one (choice : Choice)
  | many (choices : List Choice)
  deriving DecidableEq

namespace Choice

def text' : Choice -> String
  | text pattern => pattern
  | path p => p.toString

def shown : Choice -> String
  | text pattern => quoted pattern
  | path p => p.shown

def fold {σ : Type} (root : Path) (visit : σ -> Path -> Job σ) (state : σ) : Choice -> Job σ
  | path p =>
    if p.isAbsolute then Glob.fold ⟨p.anchor, []⟩ (Path.mk .relative p.names).toString visit state
    else Glob.fold root p.toString visit state
  | text pattern =>
    Glob.fold root pattern (fun state found => do
      let script := Path.ofString (<- get).script
      if (<- absolute found) = (<- absolute script) then return state
      visit state found) state

end Choice

namespace Selection

def choices : Selection -> List Choice
  | nothing => []
  | one choice => [choice]
  | many choices => choices

def ofPaths (paths : List Path) : Selection :=
  many (paths.map .path)

def shown : Selection -> String
  | nothing => "None"
  | one choice => choice.text'
  | many choices => bracketed (choices.map Choice.shown)

def fold {σ : Type} (selection : Selection) (root : Path) (visit : σ -> Path -> Job σ) (state : σ) : Job σ :=
  selection.choices.foldlM (fun state choice => choice.fold root visit state) state

def paths (selection : Selection) (root : Path := Path.here) : Job (List Path) := do
  return (<- selection.fold root (fun found path => pure (path :: found)) []).reverse

def files (selection : Selection) (root : Path := Path.here) : Job (List Path) := do
  let found <- selection.fold root (fun found path => do
    return if <- isFile path then path :: found else found) []
  return found.reverse

end Selection

namespace ShellGlob

/-!
## Patterns as a shell reads them

Names that start with a dot are found only by such a pattern, two stars stand for any directories below, and a
final slash asks for directories.
-/

def isMagic (text : String) : Bool :=
  text.toList.any fun c => c == '*' || c == '?' || c == '['

def isHidden (name : String) : Bool :=
  startsWith name "."

def namesIn (directory : String) (directoriesOnly : Bool) : Job (List String) := do
  let directory := if directory = "" then "." else directory
  match <- attempt (list directory) with
  | .error _ => return []
  | .ok names =>
    if directoriesOnly then
      names.filterM fun name => isDirectory (PathText.join directory name)
    else return names

def below (directoriesOnly : Bool) : (depth : Nat) -> (directory : String) -> Job (List String)
  | 0, _ => pure []
  | depth + 1, directory => do
    let names <- namesIn directory directoriesOnly
    let found <- (names.filter (!isHidden ·)).mapM fun name => do
      let inner <- below directoriesOnly depth (PathText.join directory name)
      return name :: inner.map (PathText.join name)
    return found.flatten

def isThere (path : String) : Job Bool := do
  if path = "" then return false
  return (<- exists? path) || (<- isLink path)

def component (directory pattern : String) (directoriesOnly : Bool) : Job (List String) := do
  if pattern = "**" then
    return "" :: (<- below directoriesOnly (<- depthLimit) directory)
  if isMagic pattern then
    let names <- namesIn directory directoriesOnly
    let names := if isHidden pattern then names else names.filter (!isHidden ·)
    return names.filter (NamePattern.matchesName pattern)
  if pattern = "" then
    return if <- isDirectory directory then [""] else []
  return if <- isThere (PathText.join directory pattern) then [pattern] else []

def expand : (depth : Nat) -> (pattern : String) -> (directoriesOnly : Bool) -> Job (List String)
  | 0, _, _ => pure []
  | depth + 1, pattern, directoriesOnly => do
    let (directory, name) := PathText.splitLast pattern
    if !isMagic pattern then
      let found <- if name = "" then isDirectory directory else isThere pattern
      return if found then [pattern] else []
    if directory = "" then component "" name directoriesOnly
    else
      let directories <-
        if directory ≠ pattern && isMagic directory then expand depth directory true
        else pure [directory]
      let found <- directories.mapM fun inside => do
        return (<- component inside name directoriesOnly).map (PathText.join inside)
      return found.flatten

def paths (pattern : String) : Job (List String) := do
  let found <- expand (pattern.length + 1) pattern false
  match found with
  | "" :: rest =>
    return if pattern = "" || startsWith pattern "**" then rest else found
  | _ => return found

end ShellGlob
end Refinery
