import Refinery.Distribution.Postprocess
import Refinery.Replacement

namespace Refinery.Distribution

open Job

/-!
# Libraries of a shared repository

Each package is finished like a library of its own, and listed replacements are made.
-/

variable (package : String)

def linkDocument (name : String) : Job Unit := do
  let back := (<- get).directory
  enter (package ++ "/docs")
  if <- exists? ("../" ++ name) then
    if !(<- exists? (Path.ofString name)) then
      makeLink (Path.ofString ("../" ++ name)) (Path.ofString name)
  modify fun w => { w with directory := back }

def addChangelog : Job Unit := do
  let changelog := Path.ofString (package ++ "/CHANGELOG.md")
  if !(<- exists? changelog) then writeText changelog "# Changelog"
  linkDocument package "CHANGELOG.md"

def sharedAddress (line : String) : String :=
  if Text.startsWith line "url = \"https://github.com/googleapis/python-" then
    "url = \"https://github.com/googleapis/google-cloud-python\"\n"
  else line

def setAddress : Job Unit := do
  let path := Path.ofString (package ++ "/setup.py")
  let lines := Text.lines (<- readText path)
  writeText path (String.join (lines.map sharedAddress))

def replaceOnce (listed : Doc) (path : String) : Job Nat := do
  let once : Job Nat := do
    let before <- Job.ofExcept (listed.entry "before")
    let after <- Job.ofExcept (listed.entry "after")
    Replacement.replaceIn (.one (.text path)) (<- Job.ofExcept before.needText)
      (<- Job.ofExcept after.needText)
  let count <- once
  if (<- once) ≠ 0 then fail .unmetAssumption
  return count

def applyIn (listed : Doc) (made : Nat × Nat) (path : Doc) : Job (Nat × Nat) := do
  let path <- Job.ofExcept path.needText
  if !Text.contains path package then return made
  return (made.1 + 1, made.2 + (<- replaceOnce listed path))

def checkMade (listed : Doc) (expected : Nat) (made : Nat × Nat) : Job Unit := do
  if made.1 ≠ 0 then
    if made.1 ≠ expected then fail .unmetAssumption
    if !(<- Job.ofExcept (listed.entry "count")).same (.int made.2) then Job.fail .unmetAssumption

def applyListed (listed : Doc) : Job Unit := do
  let paths <- Job.ofExcept do (<- listed.entry "paths").each
  checkMade listed paths.length (<- paths.foldlM (applyIn package listed) (0, 0))

def listedIn (file : Path) : Job (List Doc) := do
  let doc <- Job.ofExcept (Yaml.parse (<- Job.readText file))
  Job.ofExcept do (<- doc.entry "replacements").each

def applyFrom (file : Path) : Job Unit := do
  (<- listedIn file).forM (applyListed package)

def applyReplacements (folder package : String) : Job Unit := do
  let directory := Path.ofString folder
  if <- exists? directory then
    (<- children directory).forM (applyFrom package)

def packagesIn (directory : Path) : Job (List String) := do
  let found <- (<- Glob.list directory "packages/**/.OwlBot.yaml").filterM
    fun (path : Path) => isFile path
  return found.map fun path => path.parent.toString

def systemTestVersions : List String :=
  ["3.8", "3.9", "3.10", "3.11", "3.12"]

def sharedParameters (versions : List String) : Template.Parameters :=
  [ ("microgenerator", .bool true), ("default_python_version", .text "3.10"),
    ("unit_test_python_versions", .list (CommonFiles.testedVersions.map .text)),
    ("system_test_python_versions", .list (systemTestVersions.map .text)), ("cov_level", .int 100),
    ("versions", .list (versions.map .text)) ]

def finishStaged (name staging : String) (default : Option String) : Job Unit := do
  let folders <- Staging.versions default (some staging)
  let clients <- if folders.isEmpty then pure [] else
    (<- children (Path.ofString staging)).filterM fun (path : Path) => isDirectory path
  copyStaged folders (!clients.isEmpty) (package ++ "/samples/generated_samples")
    (some (Path.ofString package)) []
  let files <- CommonFiles.new
  let sources := package ++ "/" ++ if Text.startsWith name "google" then "google" else name
  let versions <- RepositoryMetadata.detectVersions (Path.ofString sources) default true
  let rendered <- files.sharedModules ("packages/" ++ name) (sharedParameters versions)
  let _ <- Transfer.move (.ofPaths [rendered]) (some (Path.ofString package))
  linkDocument package "README.rst"
  addChangelog package
  setAddress package
  formatFolders ("packages/" ++ name ++ "/**/noxfile.py")
  applyReplacements ("packages/" ++ name ++ "/scripts/client-post-processing") name

def finishPackage : Job Unit := do
  let path := Path.ofString package
  let default <- match <- attempt (defaultVersionIn (path.toString ++ "/.repo-metadata.json")) with
    | .ok version => pure version
    | .error (.absent _) => complain .defaultVersionUnknown
    | .error failure => fail failure
  let staging := "owl-bot-staging/" ++ path.name
  if <- exists? (Path.ofString staging) then
    let default <- match default with
      | .null => pure none
      | version => some <$> Job.ofExcept version.needText
    finishStaged package path.name staging default

def finishAll : Job Unit := do
  (<- packagesIn (<- workingDirectory)).forM finishPackage
  Staging.remove

end Refinery.Distribution
