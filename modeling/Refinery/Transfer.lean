import Refinery.Roots
import Refinery.Workspace.Glob

namespace Refinery

open Job Roots

/-!
# Copying into place

Files are copied to a destination or to where they stand below their root.
-/

abbrev Merge := (source destination : String) -> (path : Path) -> Except Failure String

namespace Merge

def keepMatching (patterns : List String) : Merge := fun source destination path =>
  match patterns with
  | [] => .ok source
  | pattern :: rest =>
    match path.matches? pattern with
    | none => .error .badValue
    | some true => .ok destination
    | some false => keepMatching rest source destination path

end Merge

namespace Transfer

def mergeFile (source destination : Path) (merge : Merge) : Job Unit := do
  let sourceText <- readText source
  let destinationText <- readText destination
  let merged <- Job.ofExcept (merge sourceText destinationText destination)
  setMode destination (<- modeOf source)
  if merged ≠ destinationText then writeText destination merged else touch destination

def placeFile (source destination : Path) (merge : Option Merge) : Job Unit := do
  match merge with
  | some merge =>
    if <- isFile destination then
      match <- attempt (mergeFile source destination merge) with
      | .ok _ => pure ()
      | .error _ => copyFile source destination
    else copyFile source destination
  | none => copyFile source destination

def isExcluded (excludes : List Path) (directory file : Path) : Job Bool :=
  excludes.foldlM (fun found exclude => do
    if exclude = (<- relativize directory) then return true
    if exclude = (<- relativize file) then return true
    return found) false

def copyNamed (source destination : Path) (excludes : List Path) (merge : Option Merge)
    (directory : String) (copied : Bool) (name : String) : Job Bool := do
  let root := Path.ofString directory
  let relative <- need .badValue (root.relativeTo? source)
  let target := destination / relative
  if <- isExcluded excludes root (root.child name) then return copied
  makeDirectories target
  placeFile (root.child name) (target.child name) merge
  return true

def copyDirectory (source destination : Path) (excludes : List Path) (merge : Option Merge) :
    Job Bool := do
  walk (fun copied directory _ files =>
      files.foldlM (copyNamed source destination excludes merge directory) copied)
    (<- depthLimit) false source

def notedPatterns : Selection -> Except Failure (List String)
  | .nothing => .ok []
  | .one (.text pattern) => .ok (pattern.toList.map (String.ofList [·]))
  | .one (.path _) => .error .wrongKind
  | .many choices => .ok (choices.map Choice.text')

def selectsNothing : Selection -> Bool
  | .nothing => true
  | .one (.text pattern) => pattern.isEmpty
  | .one (.path _) => false
  | .many choices => choices.isEmpty

def exclusionsAt (excludes : Selection) (source : Path) : Job (List Path) := do
  if selectsNothing excludes then return []
  let found <- excludes.fold source (fun found path => do
    return (<- relativize path) :: found) []
  return found.reverse

def copyOne (target : Path) (merge : Option Merge) (copied : Bool) (excluded : List Path)
    (source : Path) : Job Bool := do
  if <- isDirectory source then
    if copied then return true
    copyDirectory source target excluded merge
  else if excluded.contains source then
    return copied
  else
    placeFile source target merge
    return true

def moveOne (destination : Option Path) (merge : Option Merge) (state : Bool × Selection)
    (source : Path) : Job (Bool × Selection) := do
  let target <- match destination with
    | some path => pure path
    | none => relativize source
  let excluded <- exclusionsAt state.2 source
  let copied <- copyOne target merge state.1 excluded source
  return (copied, Selection.ofPaths excluded)

def move (sources : Selection) (destination : Option Path := none) (excludes : Selection := .nothing)
    (merge : Option Merge := none) (required : Bool := false) : Job Bool := do
  let patterns <- Job.ofExcept (notedPatterns excludes)
  patterns.forM fun pattern => note fun s => { s with excluded := s.excluded ++ [pattern] }
  let (copied, _) <- sources.fold Path.here (moveOne destination merge) (false, excludes)
  if required && !copied then complain (.nothingCopied sources.shown)
  return copied

end Transfer

end Refinery
