import Refinery.Doc.Access
import Refinery.Maven.Pom
import Refinery.Workspace.Glob

namespace Refinery.Maven

open Job

/-!
# Adding missing descriptions

Modules that are new get a version, and every module without a description gets one.
-/

def namesIn? (repo : Doc) (field : String) : Except Failure (Option (List String)) := do
  if <- repo.holds field then
    match <- repo.entry field with
    | .text names => return some (Text.split "," names)
    | _ => .error .noMember
  else return none

structure Library where
  group : String
  main : Module
  parent : Module
  known : Modules
  required : Modules := []
  excluded : List String := [""]

namespace Library

variable (library : Library) (artifact : String)

def sibling : Module :=
  { library.main with group := messageGroup library.group, artifact }

def mayRequire : Bool :=
  !library.excluded.contains artifact && !Text.contains library.main.artifact artifact

def require : Library :=
  if library.mayRequire artifact then
    { library with required := library.required.put (library.sibling artifact) }
  else library

def discover : Library :=
  if library.known.has artifact then library
  else
    { library with known := library.known.put (library.sibling artifact) }.require artifact

def requiredWith (start : String) : Modules :=
  library.required.filter fun module =>
    Text.startsWith module.artifact start && !Text.contains library.parent.artifact module.artifact

def modules : Modules :=
  let messages := library.requiredWith "proto-"
  let services := library.requiredWith "grpc-"
  if services.contains library.main || messages.contains library.main then services ++ messages
  else library.main :: services ++ messages

def versioned (additional : List String) : Modules :=
  additional.foldl (fun modules artifact =>
    if modules.has artifact then modules else modules.put (library.sibling artifact))
    (library.known.filter (·.artifact ≠ library.parent.artifact))

end Library

def writeInFolder (path text : String) : Job Unit := do
  let folder := PathText.directory path
  if !(<- isDirectory folder) then makeDirectories folder false
  writeText path text

variable (library : Library)

def addMessages (path : String) : Job Library := do
  let library := library.discover path
  if <- isFile (path ++ "/pom.xml") then return library
  printLine ("creating missing proto pom: " ++ path)
  let target <- Job.ofExcept (library.required.need path)
  writeInFolder (path ++ "/pom.xml") (Pom.messages target library.parent library.main)
  return library.require path

def addServices (path : String) : Job Library := do
  let library := library.discover path
  if <- isFile (path ++ "/pom.xml") then return library
  printLine ("creating missing grpc pom: " ++ path)
  let target <- Job.ofExcept (library.required.need path)
  let messages <- Job.ofExcept (library.known.need (Text.replace "grpc-" "proto-" path))
  writeInFolder (path ++ "/pom.xml") (Pom.services target library.parent library.main messages)
  return library.require path

def findModules (group : String) : Job (Modules × Bool) := do
  let own <- loadModules "versions.txt" group
  if !own.isEmpty then return (own, false)
  let shared <- loadModules "../versions.txt" group
  return (shared, !shared.isEmpty)

def firstRequired (shared : Bool) : Job Modules :=
  library.known.filterM fun module => do
    if library.excluded.contains module.artifact then return false
    if shared then isDirectory module.artifact else return true

def specialArtifacts : List String :=
  ["grafeas", "google-cloud-dns", "google-cloud-notification", "google-iam-policy"]

def distributionOf (repo : Doc) : Except Failure (String × String) := do
  match <- repo.entry "distribution_name" with
  | .text name =>
    match Text.split ":" name with
    | [group, artifact] => return (group, artifact)
    | _ => .error .badValue
  | _ => .error .noMember

def describeLibrary (repo : Doc) (name : String) (excluded : List String) :
    Job Unit := do
  let artifact := library.main.artifact
  let entry (field : String) : Job String := do return (<- Job.ofExcept (repo.entry field)).display
  let modules := library.modules
  let clientPath := artifact ++ "/pom.xml"
  if <- isFile clientPath then
    printLine "updating modules in cloud pom.xml"
    if !excluded.contains artifact then fail .unsupported
  else if !excluded.contains artifact then
    printLine "creating missing cloud pom.xml"
    writeInFolder clientPath (Pom.client library.main library.parent (<- entry "repo") name
      (<- entry "api_description") (library.requiredWith "proto-") (library.requiredWith "grpc-"))
  let billPath := artifact ++ "-bom/pom.xml"
  if <- isFile billPath then
    printLine "updating modules in bom pom.xml"
    if !excluded.contains (artifact ++ "-bom") then fail .unsupported
  else if !excluded.contains (artifact ++ "-bom") then
    printLine "creating missing bom pom.xml"
    writeInFolder billPath (Pom.bill library.main (<- entry "repo") name modules)
  if <- isFile "pom.xml" then
    printLine "updating modules in parent pom.xml"
    fail .unsupported
  printLine "creating missing parent pom.xml"
  writeInFolder "./pom.xml" (Pom.library library.main (<- entry "repo") name modules)

def addMissing : Job Unit := do
  printLine ("working directory: " ++ (<- workingDirectory).toString)
  let repo <- readJson ".repo-metadata.json"
  let (group, artifact) <- Job.ofExcept (distributionOf repo)
  let name := (<- Job.ofExcept (repo.entry "name_pretty")).display
  let (known, shared) <- findModules group
  printLine ("monorepo? " ++ if shared then "True" else "False")
  let additional := (<- Job.ofExcept (namesIn? repo "extra_versioned_modules")).getD []
  let excluded := (<- Job.ofExcept (namesIn? repo "excluded_dependencies")).getD [""]
  let excludedPoms := (<- Job.ofExcept (namesIn? repo "excluded_poms")).getD [""]
  let main := (known.find? artifact).getD ⟨group, artifact, "0.0.1-SNAPSHOT", "0.0.0"⟩
  if specialArtifacts.contains artifact then
    printLine ("Skipping a special case library " ++ artifact ++ " that do not have  the standard module structure.")
  else
    let known := known.put main
    let parentArtifact := artifact ++ "-parent"
    let parent := (known.find? parentArtifact).getD { main with group, artifact := parentArtifact }
    let library : Library := { group, main, parent, known := known.put parent, excluded }
    let library := { library with required := <- firstRequired library shared }
    let library <- (<- ShellGlob.paths "proto-google-*").foldlM addMessages library
    let library <- (<- ShellGlob.paths "grpc-google-*").foldlM addServices library
    if Modules.isCloudClient (library.known.map (·.artifact)) then
      describeLibrary library repo name excludedPoms
      let path := if shared then "../versions.txt" else "./versions.txt"
      printLine ("updating modules in " ++ path)
      writeInFolder path (versionList (library.versioned additional))
    else printLine "no proto or grpc modules - probably not a cloud client"

end Refinery.Maven
