import Refinery.CommonFiles.Libraries
import Refinery.Transfer

namespace Refinery.Distribution

open Job Transfer

/-!
# Finishing a library

Staged files are copied into the library, then the common files are rendered.
-/

/-! ## Branches of earlier major versions -/

def versionPattern : String :=
  "(?:__)?version(?:__)?\\s*=\\s*[\\\"'](?P<major_version>\\d)\\.[\\d\\.]+[\\\"']"

def majorVersion? (text : String) : Except Failure (Option Nat) := do
  let pattern <- Expression.ofText {} versionPattern
  return (pattern.search? text).bind fun found =>
    ((found.group 1).toList.head?).bind Text.digitValue?

def findMajorVersion : List Path -> Job (Option Nat)
  | [] => return none
  | path :: rest => do
    match <- Job.ofExcept (majorVersion? (<- Job.readText path)) with
    | some version => return some version
    | none => findMajorVersion rest

def branchLines (version : Nat) : String :=
  "- branch: v" ++ toString version ++ "\n  handleGHRelease: true\n  releaseType: python\n"

def branchSection (major : Nat) : String :=
  "# NOTE: this section is generated by synthtool.languages.python\n" ++
    "# See https://github.com/googleapis/synthtool/blob/master/synthtool/languages/python.py\n" ++
    "branches:\n" ++ String.join ((List.range major).reverse.map branchLines)

def releaseSettings : String := ".github/release-please.yml"

def addBranches : Job Unit := do
  let files := (<- Glob.list .here "google/**/version.py") ++ [Path.ofString "setup.py"]
  match <- findMajorVersion files with
  | none =>
    complain (.noLibraryVersion (Text.bracketed (files.map Path.shown)) versionPattern)
  | some major =>
    let settings <- Job.ofExcept (Yaml.parse (<- Job.readText releaseSettings))
    if 0 < major && !(<- Job.ofExcept (settings.holds "branches")) then
      appendText releaseSettings (branchSection major)

/-!
## Sample projects

A sample project is a folder with a list of requirements.
-/

def templateFolder (name : String) : Job Path := do
  return Path.ofString ((<- chosen? "SYNTHTOOL_TEMPLATES").getD "") / name

def helpText (file : String) : Job String := do
  return Text.unifyLineEnds (<- runChecked ["python3", file, "--help"]).output

def locate (folder : Path) (sample : Doc) : Job Doc := do
  let file <- Job.ofExcept do (<- sample.entry "file").needText
  let path <- resolve (folder / file)
  Job.ofExcept (sample.put "abs_path" (.text path))

def readmeMetadata (folder : Path) : Job Doc := do
  let readme := folder / "README.rst.in"
  if !(<- exists? readme) then return .map []
  let requirements <- resolve (folder / "requirements.txt")
  let _ <- runChecked ["python3", "-m", "pip", "install", "-r", requirements]
  let metadata <- Job.ofExcept (Yaml.parse (<- Job.readText readme))
  let samples <- Job.ofExcept (metadata.entry "samples")
  let located <- (<- Job.ofExcept samples.each).mapM (locate folder)
  if located.isEmpty then return metadata
  Job.ofExcept (metadata.put "samples" (.list located))

def addNotebookTests : Job Unit := do
  if <- exists? "owlbot.py" then
    let templates <- templateFolder "python_notebooks_testing_pipeline"
    Roots.add templates
    let _ <- move (.ofPaths [templates]) none (.many [])

def keepExclusions (excludes : List String) : Job Unit :=
  note fun s => { s with sampleExclusions := excludes }

def helpFunction (arguments : Template.Arguments Template.Value) : Job Template.Value := do
  match arguments.placed ++ arguments.named.map (·.2) with
  | [file] => return .text (<- helpText file.display)
  | _ => fail .wrongKind

def leftOut (configured : Bool) : List String :=
  "**/*tmpl*" :: if configured then ["**/noxfile_config.py"] else []

def renderProject (templates : Template.Folder) (excludes : List String) (project : Path) : Job Unit := do
  let rendered <- { templates with excludes }.renderAll project
  Roots.add rendered
  let _ <- move (.ofPaths [rendered]) none (.many (excludes.map .text))

def visitProject (templates : Template.Folder) (excludes : List String) (requirements : Path) :
    Job (List String) := do
  let project := requirements.parent
  let excludes := excludes ++ leftOut (<- exists? (project / "noxfile_config.py"))
  keepExclusions excludes
  renderProject templates excludes project
  return excludes

def sampleTemplates : Job Template.Folder := do
  let templates <- Template.Folder.new (<- templateFolder "python_samples")
  return { templates with
    library := { templates.library with functions := [("get_help", helpFunction)] } }

def renderProjects (root : Path) : Job Unit := do
  let excludes := (<- session).sampleExclusions ++ ["README.md", "README.rst"]
  keepExclusions excludes
  let _ <- Glob.fold root "**/requirements.txt" (visitProject (<- sampleTemplates)) excludes

def samplesRoot : Job Path := do
  if (<- exists? "samples") && (<- exists? "setup.py") then return Path.ofString "samples"
  return .here

def addSampleFiles (root : Option Path := none) (excludes : Option (List String) := none) :
    Job Unit := do
  let root <- match root with
    | some path => pure path
    | none => samplesRoot
  match excludes with
  | none => renderProjects root
  | some names =>
    let kept := (<- session).sampleExclusions
    keepExclusions names
    let outcome <- attempt (renderProjects root)
    keepExclusions kept
    Job.ofExcept outcome

/-! ## The whole library -/

def defaultVersionIn (file : String) : Job Doc := do
  let doc <- readJson file
  Job.ofExcept (doc.entryOrNull "default_version")

def copyStaged (folders : List Path) (bringSamples : Bool) (samples : String)
    (target : Option Path) (excludes : List String) : Job Unit := do
  if bringSamples then discardTree samples
  folders.forM fun folder => do
    let _ <- move (.ofPaths [folder]) target (.many (excludes.map .text))

def formatFolders (pattern : String) : Job Unit :=
  Glob.fold .here pattern (fun _ (file : Path) => do
    let _ <- runChecked ["nox", "-s", "format"] (some file.parent)) ()

def finishVersion (version : String) : Job Unit := do
  let folders <- Staging.versions (some version)
  copyStaged folders (!folders.isEmpty) "samples/generated_samples" none
    ["setup.py", "README.rst", "docs/index.rst"]
  Staging.remove
  let files <- CommonFiles.new
  let versions <- RepositoryMetadata.detectVersions (Path.ofString "./google") none true
  let rendered <- files.modules
    [("microgenerator", .bool true), ("versions", .list (versions.map .text))]
  let _ <- move (.ofPaths [rendered]) none (.many [.text ".coveragerc"])
  addSampleFiles
  formatFolders "**/noxfile.py"

def finish : Job Unit := do
  let default <- match <- attempt (defaultVersionIn ".repo-metadata.json") with
    | .ok version => pure version
    | .error (.absent _) => pure .null
    | .error failure => fail failure
  if default.truthy then finishVersion (<- Job.ofExcept default.needText)
  addBranches

end Refinery.Distribution
