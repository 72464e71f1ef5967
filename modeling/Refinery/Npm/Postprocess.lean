import Refinery.CommonFiles.Libraries
import Refinery.Transfer

namespace Refinery
namespace Npm

open Job Pattern

/-!
# Finishing a package

Staged files are copied into the package, the default version last.
-/

/-!
## Quickstart samples

A package without a quickstart gets one of its generated samples.
-/

def generatedFolder : String := "./samples/generated"

def tagEnd : Expression :=
  ⟨sequence [literal "_", zeroOrMore dot, literal "]"], 0, [], none⟩

def retag (sample : String) : String :=
  tagEnd.replaceBy "_quickstart]" sample (some 2)

def quickstartChoices (folder : Path) : Job (List String) := do
  let lists <- Sample.generatedFiles folder "list"
  if lists.isEmpty then Sample.generatedFiles folder ".*" else return lists

def addQuickstart (directory : Path) : Job Unit := do
  let samples <- resolve (directory / "samples")
  let quickstart <- resolve (directory / "samples" / "quickstart.js")
  if (<- exists? samples) && !(<- exists? quickstart) then
    match <- quickstartChoices (<- resolve (directory / generatedFolder)) with
    | [] => fail .noIndex
    | sample :: _ =>
      copyContent (<- resolve (directory / sample)) quickstart
      writeText quickstart (retag (<- readText quickstart))

/-!
## Packages that are released

Each directory of a package has an entry in the release configuration.
-/

def fromFolder? (folder path : String) : Option String :=
  (Text.cut? folder path).map fun (_, rest) =>
    folder ++ String.ofList (rest.toList.takeWhile (· != '\n'))

def register (config : Doc) (directory : String) : Except Failure Doc :=
  config.putIn "packages" directory (.map [])

def saysPrivate (description : Doc) : Except Failure Bool := do
  if <- description.holds "private" then
    return (match <- description.entry "private" with
      | .bool true => true
      | _ => false)
  else return false

def isPrivate (directory : String) : Job Bool := do
  Job.ofExcept (saysPrivate (<- Job.readJson (Path.ofString directory / "package.json")))

def releaseFile : String := "release-please-config.json"

def registerPublic (directories : List String) : Job Unit := do
  let config <- readJson releaseFile
  let config <- directories.foldlM (fun config directory => do
    let hidden <- isPrivate directory
    let name <- need .unmetAssumption (fromFolder? "src/apis/" directory)
    if hidden then return config else Job.ofExcept (register config name)) config
  let config <- if <- isPrivate "." then pure config else Job.ofExcept (register config ".")
  writeJson releaseFile 2 config

def registerAll (directories : List String) : Job Unit := do
  let config <- readJson releaseFile
  let config <- Job.ofExcept (directories.foldlM (fun config directory => do
    match fromFolder? "packages/" directory with
    | some name => register config name
    | none => .error .unmetAssumption) config)
  writeJson releaseFile 2 config

/-! ## Commands that finish a package -/

def tools : String := "/synthtool/node_modules"

def install : Job Unit := do
  let _ <- runChecked ["npm", "install"]

def untypeSamples : Job Unit := do
  let _ <- run [tools ++ "/.bin/typeless-sample-bot", "--outputpath", "samples", "--targets",
    "samples", "--recursive"]

def fixFormat : Job Unit := do
  let _ <- run ["npm", "run", "prelint"]
  let _ <- runChecked ["npm", "run", "fix"]

def fixFormatLocally : Job Unit := do
  let _ <- runChecked ["cp", "-r", "node_modules", "."]
  let _ <- run ["node_modules/.bin/gts", "fix"]

def fixFormatIn (directory : String) : Job Unit := do
  let _ <- runChecked ["cp", "-r", tools, "."] (some directory)
  let _ <- run [tools ++ "/.bin/gts", "fix"] (some directory)

def compilerArguments (modules : Bool) : List String :=
  if modules then ["esm/src", "--esm"] else ["src"]

def compileMessages (modules : Bool := false) : Job Unit := do
  let _ <- runChecked (["npx", "compileProtos"] ++ compilerArguments modules)

def compileMessagesLocally : Job Unit := do
  let _ <- runChecked ["node_modules/.bin/compileProtos", "src"]

def compileMessagesIn (directory : String) (modules : Bool := false) : Job Unit := do
  let _ <- runChecked ((tools ++ "/.bin/compileProtos") :: compilerArguments modules)
    (some directory)

def finish (modules : Bool := false) : Job Unit := do
  install
  fixFormat
  compileMessages modules

def finishInstalled : Job Unit := do
  fixFormat
  compileMessages

def finishIn (directory : String) (modules : Bool := false) : Job Unit := do
  fixFormatIn directory
  compileMessagesIn directory modules

open Template (Value)

/-! ## The whole package -/

structure Choices where
  templates : Option Path := none
  stagingExcludes : Option Selection := none
  templateExcludes : Option (List String) := none
  patch : Path -> Job Unit := fun _ => pure ()

def versionsIn (directory : Path) (default : Doc) : Job (List Doc) := do
  let folders <- (<- children directory).filterM fun (path : Path) => isDirectory path
  return (folders.map fun path => Doc.text path.name).filter (!·.same default) ++ [default]

def copyStaging (staging : Path) (versions : List Doc) (destination : Option Path)
    (excludes : Selection) (patch : Path -> Job Unit) : Job Unit := do
  versions.forM fun version => do
    let folder := staging / (<- Job.ofExcept version.needText)
    Roots.add folder
    patch folder
    let _ <- Transfer.move (.ofPaths [folder]) destination excludes
  removeTree staging

def collectVersions (staging sources : Path) (default : Doc) (destination : Option Path)
    (excludes : Selection) (patch : Path -> Job Unit) : Job (List Doc) := do
  match default with
  | .null => return []
  | _ =>
    if <- isDirectory staging then
      let versions <- versionsIn staging default
      copyStaging staging versions destination excludes patch
      return versions
    else versionsIn sources default

def packageParameters (sourceLocation : String) (versions : List Doc) (default : Doc) : Template.Parameters :=
  ("source_location", .text sourceLocation) ::
    if default.truthy then
      [("versions", .list (versions.map .ofDoc)), ("default_version", .ofDoc default)]
    else []

def updateSamples (metadata : Doc) (folder : Path) : Job Unit := do
  let version <- Job.ofExcept (metadata.entryOrNull "version")
  if version.truthy then Sample.setLibraryVersion version folder

def interfaceFolders (directory : Path) (pattern : String) : Job (List String) := do
  let found <- (<- Glob.list directory pattern).filterM fun (path : Path) => do
    return !(<- isFile path) && !Text.contains path "node_modules"
  return found.map Path.toString

def finishPackage (choices : Choices := {}) : Job Unit := do
  let excludes := choices.stagingExcludes.getD
    (.many [.text "README.md", .text "package.json", .text "src/index.ts"])
  let templateExcludes := choices.templateExcludes.getD []
  let default <- RepositoryMetadata.defaultVersion
  let versions <- collectVersions (Path.ofString "owl-bot-staging") (Path.ofString "src") default
    none excludes choices.patch
  let files <- CommonFiles.new choices.templates
  files.exclude templateExcludes
  let rendered <- files.package (packageParameters "build/src" versions default)
  let _ <- Transfer.move (.ofPaths [rendered]) none (.many (templateExcludes.map .text))
  if default.truthy then finishInstalled
  updateSamples (<- metadata) (Path.ofString generatedFolder)
  if <- isFile releaseFile then
    registerPublic (<- interfaceFolders (<- workingDirectory) "src/apis/**/*")

end Npm

namespace Npm

/-! ## Repositories of many packages -/

def isForeign (path : String) : Bool :=
  Text.contains path "gapic-node-templating" || Text.contains path "node_modules"

def fetchMain : Job Unit := do
  let words := ["git", "fetch", "origin", "main:main", "--deepen=200"]
  let completed <- Job.run words
  if completed.status ≠ 0 && completed.status ≠ 128 then
    Job.fail (.commandFailed words completed.status)

def hasChanged (directory : String) : Job Bool := do
  return (<- Job.run ["git", "diff", "--quiet", "main...", directory]).status = 1

def packageFolders (directory : Path) (changedOnly : Bool) : Job (List String) := do
  if changedOnly then fetchMain
  let configured <- Glob.fold directory "packages/**/.OwlBot.yaml" (fun found (path : Path) => do
    if (<- Job.isFile path) && !isForeign path then
      let folder := path.parent.toString
      if changedOnly then
        if <- hasChanged folder then return folder :: found
        return found
      return folder :: found
    return found) []
  let staged <- Glob.list directory "owl-bot-staging/*"
  return configured.reverse ++ staged.map fun path =>
    path.parent.parent.toString ++ "/packages/" ++ path.name

def finishPackageIn (given : String) (choices : Choices := {}) : Job Unit := do
  let excludes := choices.stagingExcludes.getD
    (.many [.text "package.json", .text "src/index.ts", .text "esm/src/index.ts"])
  let templateExcludes := choices.templateExcludes.getD []
  let directory := Path.ofString given
  let described <- Job.readJson (<- Job.resolve (directory / ".repo-metadata.json"))
  let default <- Job.ofExcept (described.entryOrNull "default_version")
  let moduleSources <- Job.resolve (directory / "esm" / "src")
  let modules <- Job.isDirectory moduleSources
  let sources <- if modules then pure moduleSources else Job.resolve (directory / "src")
  let staging <- Job.resolve (Path.ofString "owl-bot-staging" / directory.name)
  let versions <- collectVersions staging sources default (some directory) excludes choices.patch
  let files <- CommonFiles.new choices.templates
  files.exclude templateExcludes
  let location := if modules then "build/esm/src" else "build/src"
  let rendered <- files.sharedPackage given (modules && default.truthy)
    (packageParameters location versions default)
  let _ <- Transfer.move (.ofPaths [rendered]) (some directory)
    (.many (templateExcludes.map .text))
  if default.truthy then finishIn given modules
  updateSamples (<- sharedMetadata directory) (<- Job.resolve (directory / generatedFolder))
  addQuickstart directory

def script? (directory : String) : Job (Option Path) := do
  let path <- Job.resolve (Path.ofString directory / "owlbot.py")
  return if <- Job.exists? path then some path else none

def finishEach (directories : List String) (choices : Choices) : Job Unit :=
  directories.forM fun directory => do
    match <- script? directory with
    | some script => Job.noteCommand { words := ["python " ++ script.toString], shell := true }
    | none => finishPackageIn directory choices

def finishPackages (given : List String := []) (choices : Choices := {}) : Job Unit := do
  let directories <-
    if given.isEmpty then do packageFolders (<- Job.workingDirectory) true else pure given
  finishEach directories choices
  if <- Job.isFile releaseFile then
    registerAll (<- packageFolders (<- Job.workingDirectory) false)

end Npm
end Refinery
