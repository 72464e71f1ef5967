import Refinery.Merge

namespace Refinery.Component

open Job

/-!
# Copying generated components

The generated code of a component is staged by version.
-/

def metadataFolder : String := "GPBMetadata"

def isVersion (version : String) (entry : Path) : Job Bool := do
  return Text.lower (<- resolve entry).stem = version

def findVersion : (depth : Nat) -> (folder : Path) -> (version : String) -> Job (Option Path)
  | 0, _, _ => fail .tooDeep
  | depth + 1, folder, version => do
    let first <- (<- children folder).findM? fun entry => do
      if <- isVersion version entry then return true
      isDirectory entry
    match first with
    | none => return none
    | some entry =>
      if <- isVersion version entry then return some folder
      findVersion depth (<- resolve entry) version

def findVersionIn (folder : Path) (version : String) : Job (Option Path) := do
  findVersion (<- depthLimit) folder version

def copyFolder (source target : Path) (excludes : Selection) : Job Unit := do
  let _ <- Transfer.move (.ofPaths [source]) (some target) excludes (some Merge.year)

def versionOf (sources : Path) : Job String := do
  match <- list sources with
  | name :: _ => return Text.lower name
  | [] => fail .exhausted

def copySources (source target : Path) (excludes : Selection) (version : String) :
    Job String := do
  if !(<- isDirectory (source / "src")) then return version
  let version <- if version = "" then versionOf (source / "src") else pure version
  copyFolder (source / "src") (target / "src") excludes
  copyFolder (source / "tests") (target / "tests") excludes
  if <- isDirectory (source / "samples") then
    copyFolder (source / "samples") (target / "samples") excludes
  return version

def messageFolders (version : String) : List Path -> Job (Option Path × Option Path)
  | entries => entries.foldlM (fun (messages, metadata) entry => do
    let found <- findVersionIn (<- resolve entry) version
    if entry.name = metadataFolder then return (messages, found)
    return (found, metadata)) (none, none)

def copyVersion (source target : Path) (excludes : Selection := .many [])
    (version : String := "") : Job Unit := do
  let version <- copySources source target excludes version
  let sources := source / "proto/src"
  if (<- isDirectory sources) && version ≠ "" then
    let (messages, metadata) <- messageFolders version (<- children sources)
    if let some folder := messages then copyFolder folder (target / "src") excludes
    if let some folder := metadata then copyFolder folder (target / "metadata") excludes

def copyComponent (source target : Path) (excludes : Selection := .many [])
    (change : Job Unit := pure ()) : Job Unit := do
  for entry in <- children source do
    if <- isDirectory entry then
      copyVersion (<- resolve entry) target excludes
  inDirectory target change

def copyStaged (staging : String := "owl-bot-staging") : Job Unit := do
  let folder := Path.ofString staging
  if <- isDirectory folder then
    for entry in <- children folder do
      if <- isDirectory entry then
        let source <- resolve entry
        let target <- resolve (Path.ofString source.name)
        let script := target / "owlbot.py"
        if <- isFile script then
          let _ <- runChecked ["python", script] (some target)
        else copyComponent source target
    removeTree folder

end Refinery.Component
