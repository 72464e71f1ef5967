import Refinery.CommonFiles.Basic
import Refinery.Npm.Description

namespace Refinery.CommonFiles

open Job

open Template (Value Parameters)

/-!
# Common files of each kind of library
-/

variable (parameters : Parameters)

def completeVersion : Except Failure Parameters := do
  match <- parameters.repo with
  | .map pairs =>
    if (Value.lookup (.text "default_version") pairs).isSome then return parameters
    parameters.setRepo "default_version" (.text "")
  | .list _ | .atom (.text _) => .error .wrongKind
  | _ => .error .wrongKind

def versionOf : Except Failure Value := do
  (<- parameters.repo).field "default_version"

variable (files : CommonFiles)

def noteCloud (folder : String) (parameters : Parameters) :
    Job Parameters := do
  if <- exists? (Path.ofString folder) then
    return parameters.set "is_google_cloud_api" (.bool true)
  files.exclude ["docs/summary_overview.md"]
  return parameters

def sharedModules (directory : String) (parameters : Parameters) :
    Job Path := do
  let parameters <- withMetadata parameters (some (Path.ofString directory))
  let parameters <- Job.ofExcept (completeVersion parameters)
  let version <- Job.ofExcept (versionOf parameters)
  if (parameters.lookup "versions").isNone || !version.truthy || version.equal (.text "apiVersion") then
    files.exclude ["docs/index.rst"]
  let parameters <- files.noteCloud (directory ++ "/google/cloud") parameters
  files.renderLibrary "python_mono_repo_library" parameters (some (Path.ofString directory))

def testedVersions : List String :=
  ["3.7", "3.8", "3.9", "3.10", "3.11", "3.12"]

def withTestSettings : Parameters :=
  let parameters := match parameters.lookup "system_test_dependencies" with
    | some value => parameters.set "system_test_local_dependencies" value
    | none => parameters
  let parameters := parameters.setDefault "default_python_version" (.text "3.8")
  let parameters := parameters.setDefault "unit_test_python_versions"
    (.list (testedVersions.map .text))
  let parameters := parameters.setDefault "system_test_python_versions" (.list [.text "3.8"])
  parameters.setDefault "cov_level" .null

def splitSystemTests (result : Path) (versions : Value) : Job Unit := do
  let root := files.root / "py_library_split_systests"
  let folder := ".kokoro/presubmit"
  copyFile (root / folder / "presubmit.cfg") (result / folder / "presubmit.cfg")
  let library := { Template.Library.ofLocation root with keepLast := false }
  let sheet <- library.load ".kokoro/presubmit/system.cfg"
  (<- Job.ofExcept versions.items).forM fun version => do
    let session := "system-" ++ version.display
    let (outcome, text) <- library.render sheet [("nox_session", .text session)]
    Job.ofExcept outcome
    writeText (result / (folder ++ "/" ++ session ++ ".cfg")) text

def modules (parameters : Parameters) : Job Path := do
  let parameters <- withMetadata parameters
  let parameters := withTestSettings (<- Job.ofExcept (completeVersion parameters))
  if (parameters.lookup "samples").isNone then
    files.exclude ["samples/AUTHORING_GUIDE.md", "samples/CONTRIBUTING.md"]
  if (parameters.lookup "versions").isNone || !(<- Job.ofExcept (versionOf parameters)).truthy then
    files.exclude ["docs/index.rst"]
  let upgrades := (<- exists? "docs/UPGRADING.md") || (<- exists? "docs/UPGRADING.rst")
  let parameters := if upgrades then parameters.set "include_uprading_doc" (.bool true)
    else parameters
  let parameters <- files.noteCloud "google/cloud" parameters
  let custom <- exists? ".kokoro/docker/samples/Dockerfile"
  let parameters := parameters.set "custom_samples_dockerfile" (.bool custom)
  let result <- files.renderLibrary "python_library" parameters
  if ((parameters.lookup "split_system_tests").map Value.truthy).getD false then
    files.splitSystemTests result
      (<- Job.ofExcept (parameters.need "system_test_python_versions"))
  return result

def plain (folder : String) (parameters : Parameters) : Job Path :=
  files.renderLibrary folder (parameters.setDefault "metadata" (.map []))

def excludeUndescribed (description : String) : Job Unit := do
  if !(<- exists? description) then
    files.exclude ["README.md"]
    if !(<- files.excludes).contains "samples/README.md" then files.exclude ["samples/README.md"]

def indexedVersions? (parameters : Parameters) :
    Job (Option (List String × String)) := do
  let excluded := (<- files.excludes).any fun pattern =>
    NamePattern.matchesName pattern "src/index.ts"
  match parameters.lookup "versions", parameters.lookup "default_version" with
  | some (.list versions), some (.atom (.text default)) =>
    if excluded then return none
    let names <- versions.mapM fun version => match version with
      | .atom (.text name) => pure name
      | _ => fail .wrongKind
    return some (names, default)
  | some _, some _ => if excluded then return none else fail .wrongKind
  | _, _ => return none

def package (parameters : Parameters) : Job Path := do
  files.excludeUndescribed "./.repo-metadata.json"
  let metadata <- Npm.metadata
  let name <- Job.ofExcept (metadata.entry "name")
  let token <- match name with
    | .text name => pure (Npm.publishToken name)
    | _ => fail .noMember
  let parameters := (parameters.set "metadata" (.ofDoc metadata)).set "publish_token" (.text token)
  match <- files.indexedVersions? parameters with
  | some (versions, default) => Npm.writeIndex .alone .here "2020" versions default
  | none => pure ()
  files.renderLibrary "node_library" parameters

def sharedPackage (directory : String) (modules : Bool)
    (parameters : Parameters) : Job Path := do
  let path := Path.ofString directory
  files.excludeUndescribed (<- resolve (path / ".repo-metadata.json"))
  let metadata <- Npm.sharedMetadata directory
  let parameters := parameters.set "metadata" (.ofDoc metadata)
  match <- files.indexedVersions? parameters with
  | some (versions, default) =>
    let year := toString (<- get).today.year
    Npm.writeIndex (if modules then .modules else .shared) path year versions default
  | none => pure ()
  let folder := if modules then "node_esm_mono_repo_library" else "node_mono_repo_library"
  files.renderLibrary folder parameters (some path)

end Refinery.CommonFiles
