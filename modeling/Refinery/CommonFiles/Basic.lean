import Refinery.Doc.Access
import Refinery.Repository
import Refinery.Template.Render
import Refinery.Workspace.Glob
import Refinery.Yaml.Value

namespace Refinery
namespace Partials

/-!
# Hand-written parts of documents

A repository can keep parts of its documents in YAML files.
-/

def usualFiles : List String :=
  [".readme-partials.yml", ".readme-partials.yaml", ".integration-partials.yaml"]

def pairOf (doc : Doc) : Except Failure (Doc × Doc) := do
  match <- doc.each with
  | [key, value] => if key.isKey then return (key, value) else throw .wrongKind
  | _ => throw .badValue

def update (entries : List (Doc × Doc)) (doc : Doc) : Except Failure (List (Doc × Doc)) := do
  let more <- match doc with
    | .map fields => pure fields
    | _ => (<- doc.each).mapM pairOf
  return more.foldl (fun all (key, value) => Doc.assign key value all) entries

def load (files : List String := []) : Job Doc := do
  let directory <- Job.workingDirectory
  let entries <- (files ++ usualFiles).foldlM (fun entries (file : String) => do
    let path := directory / file
    if <- Job.exists? path then
      let doc <- Job.ofExcept (Yaml.parse (<- Job.readText path))
      Job.ofExcept (update entries doc)
    else return entries) []
  return .map entries

end Partials

namespace RepositoryMetadata

/-! ## Metadata of a repository -/

def usualFile : String := "./.repo-metadata.json"

def load (directory : Option Path := none) (file : String := usualFile) : Job Doc := do
  let path <- match directory with
    | some directory => do pure (<- Job.resolve (directory / file)).toString
    | none => pure file
  if <- Job.exists? path then Job.readJson path else return .map []

def defaultBranch : Job String := do
  match <- Job.chosen? "DEFAULT_BRANCH_PATH" with
  | some path => return Text.trim (<- Job.readText (Path.ofString path))
  | none => return (<- Job.setting? "DEFAULT_BRANCH").getD "master"

def defaultVersion : Job Doc := do
  Job.ofExcept ((<- Job.readJson ".repo-metadata.json").entryOrNull "default_version")

def arrange (default : String) (defaultFirst : Bool) (folders : List String) : List String :=
  let others := folders.filter fun folder => !Text.endsWith folder default
  match folders.find? fun folder => Text.endsWith folder default with
  | some folder => if defaultFirst then folder :: others else others ++ [folder]
  | none => others

def versionPatterns : List String :=
  ["*v[1-9]*", "*/*v[1-9]*", "*/*/*v[1-9]*", "*/*/*/*v[1-9]*"]

def versionFolders (directory : Path) : List String -> Job (List String)
  | [] => pure []
  | pattern :: rest => do
    let found <- (<- Glob.list directory pattern).filterM fun (path : Path) => Job.isDirectory path
    if found.isEmpty then versionFolders directory rest
    else return Text.sorted (found.map Path.name)

def detectVersions (directory : Path) (default : Option String := none)
    (defaultFirst : Bool := false) : Job (List String) := do
  let default <- match default.filter (· ≠ "") with
    | some version => pure (Doc.text version)
    | none => do
      match <- Job.attempt defaultVersion with
      | .ok found => pure found
      | .error (.absent _) => pure Doc.null
      | .error failure => Job.fail failure
  let folders <- versionFolders directory versionPatterns
  if folders.isEmpty || !default.truthy then return folders
  return arrange (<- Job.ofExcept default.needText) defaultFirst folders

end RepositoryMetadata

/-!
## Common files

Libraries share files that are rendered from templates.
-/

open Template (Value Parameters)

namespace Template.Value

def field? (value : Value) (name : String) : Option Value :=
  match value with
  | .map pairs => lookup (.text name) pairs
  | _ => none

def field (value : Value) (name : String) : Except Failure Value :=
  match value with
  | .map pairs =>
    match lookup (.text name) pairs with
    | some found => .ok found
    | none => .error (.noKey (Text.quoted name))
  | _ => .error .wrongKind

def assign (name : String) (value : Value) : List (Value × Value) -> List (Value × Value)
  | [] => [(.text name, value)]
  | (key, old) :: rest =>
    if key.equal (.text name) then (key, value) :: rest else (key, old) :: assign name value rest

def put (target : Value) (name : String) (value : Value) : Except Failure Value :=
  match target with
  | .map pairs => .ok (.map (assign name value pairs))
  | _ => .error .wrongKind

end Template.Value

namespace Template.Parameters

variable (parameters : Parameters)

def need (name : String) : Except Failure Value :=
  match parameters.lookup name with
  | some value => .ok value
  | none => .error (.noKey (Text.quoted name))

def set (name : String) (value : Value) : Parameters :=
  if (parameters.lookup name).isSome then
    parameters.map fun entry => if entry.1 == name then (name, value) else entry
  else parameters ++ [(name, value)]

def setDefault (name : String) (value : Value) : Parameters :=
  if (parameters.lookup name).isSome then parameters else parameters ++ [(name, value)]

def setRepo (name : String) (value : Value) :
    Except Failure Parameters := do
  let metadata <- need parameters "metadata"
  let repo <- (<- metadata.field "repo").put name value
  return set parameters "metadata" (<- metadata.put "repo" repo)

def repo (parameters : Parameters) : Except Failure Value := do
  (<- need parameters "metadata").field "repo"

end Template.Parameters

structure CommonFiles where
  root : Path
  number : Nat
  single : Template.Folder

namespace CommonFiles

def findRoot (given : Option Path) : Job Path := do
  match given with
  | some path => return path
  | none =>
    match <- Job.chosen? "SYNTHTOOL_TEMPLATES" with
    | some path => return Path.ofString path
    | none =>
      let clone <- Repository.clone (<- Repository.cloneAddress "googleapis/synthtool")
      return clone / "synthtool/gcp/templates"

def new (given : Option Path := none) : Job CommonFiles := do
  let root <- findRoot given
  let single <- Template.Folder.new root
  let number := (<- Job.session).exclusions.length
  Job.note fun s => { s with exclusions := s.exclusions ++ [[]] }
  return { root, number, single }

def excludes (files : CommonFiles) : Job (List String) := do
  return ((<- Job.session).exclusions[files.number]?).getD []

def exclude (files : CommonFiles) (names : List String) : Job Unit :=
  Job.note fun s => { s with exclusions := s.exclusions.modify files.number (· ++ names) }

def loadMetadata (metadata : Value) (directory : Option Path := none) : Job Value := do
  let partials <- Partials.load
  let metadata <- Job.ofExcept (metadata.put "partials" (.ofDoc partials))
  if (metadata.field? "repo").isSome then return metadata
  let repo <- RepositoryMetadata.load directory
  Job.ofExcept (metadata.put "repo" (.ofDoc repo))

def withMetadata (parameters : Parameters) (directory : Option Path := none) : Job Parameters := do
  let parameters := parameters.setDefault "metadata" (.map [])
  let metadata <- loadMetadata (<- Job.ofExcept (parameters.need "metadata")) directory
  return parameters.set "metadata" metadata

def helpText (arguments : Template.Arguments Template.Value) : Job Value := do
  match arguments.placed ++ arguments.named.map (·.2) with
  | [file] =>
    let answer <- Job.runChecked ["python", file.display, "--help"]
    return .text (Text.unifyLineEnds answer.output)
  | _ => Job.fail .wrongKind

def insideOf : Option Value -> Except Failure Path
  | none => .ok .here
  | some (.path path) => .ok path
  | some (.atom (.text path)) => .ok (Path.ofString path)
  | some _ => .error .wrongKind

def withDefaultBranch (metadata : Value) : Job Value := do
  match metadata with
  | .map _ =>
    match metadata.field? "repository", metadata.field? "repo" with
    | some _, some repo =>
      let branch <- RepositoryMetadata.defaultBranch
      Job.ofExcept do metadata.put "repo" (<- repo.put "default_branch" (.text branch))
    | _, _ => return metadata
  | _ => Job.fail .wrongKind

def renderLibrary (files : CommonFiles) (folder : String) (parameters : Parameters)
    (directory : Option Path := none) : Job Path := do
  let parameters <- match parameters.lookup "metadata" with
    | none => pure parameters
    | some metadata => do
      let metadata <- loadMetadata metadata directory
      if !(((metadata.field? "samples").map Value.truthy).getD false) then
        files.exclude ["samples/README.md"]
      pure (parameters.set "metadata" metadata)
  let group <- Template.Folder.new (files.root / folder) (<- files.excludes)
  let metadata <- withDefaultBranch (<- Job.ofExcept (parameters.need "metadata"))
  let parameters := parameters.set "metadata" metadata
  let functions := if folder = "python_samples" then [("get_help", helpText)] else []
  let group := { group with library := { group.library with functions } }
  let inside <- Job.ofExcept (insideOf (parameters.lookup "subdir"))
  let result <- group.renderAll inside (parameters.filter (·.1 ≠ "subdir"))
  Roots.add result
  return result

def render (files : CommonFiles) (name : String) (parameters : Parameters) : Job Path := do
  let inside <- Job.ofExcept (insideOf (parameters.lookup "subdir"))
  let result <- files.single.render name inside (parameters.filter (·.1 ≠ "subdir"))
  Roots.add result
  return result

end CommonFiles

namespace CommonFiles

open Template (Value Parameters)

/-!
# Documents of samples

The samples of one folder are documented together.
-/

structure SampleGroups where
  byFolder : List (String × List Value) := []
  others : List Value := []

def SampleGroups.add (groups : SampleGroups) (folder : Option String) (sample : Value) : SampleGroups :=
  match folder with
  | none => { groups with others := groups.others ++ [sample] }
  | some folder =>
    if groups.byFolder.any (·.1 == folder) then
      { groups with byFolder := groups.byFolder.map fun group =>
          if group.1 == folder then (folder, group.2 ++ [sample]) else group }
    else { groups with byFolder := groups.byFolder ++ [(folder, [sample])] }

def sampleText? (sample : Value) (name : String) : Except Failure (Option String) :=
  match sample with
  | .map _ =>
    match sample.field? name with
    | none | some (.atom .null) => .ok none
    | some (.atom (.text text)) => .ok (some text)
    | some _ => .error .wrongKind
  | _ => .error .noMember

def locate (folder : String) (sample : Value) : Job Value := do
  match <- Job.ofExcept (sampleText? sample "file") with
  | none => return sample
  | some file =>
    let path <- Job.resolve (Path.ofString (PathText.join folder file))
    Job.ofExcept (sample.put "abs_path" (.path path))

def groupSamples (project : String) (samples : List Value) : Job SampleGroups :=
  samples.foldlM (fun groups sample => do
    let folder <- Job.ofExcept (sampleText? sample "override_path")
    let base := (folder.map (PathText.join project)).getD project
    return groups.add folder (<- locate base sample)) {}

def projectFolder (repo : Value) : Job String := do
  match <- Job.ofExcept (sampleText? repo "sample_project_dir") with
  | none => return if <- Job.exists? "samples" then "samples" else "."
  | some folder =>
    if <- Job.exists? (Path.ofString folder) then return folder
    Job.complain (.noSampleFolder folder)

def listedIn (repo : Value) : Except Failure (List Value) :=
  match repo.field? "samples" with
  | some (.list items) => .ok items
  | some (.map pairs) => if pairs.isEmpty then .ok [] else .error (.noKey "0")
  | some (.atom (.text text)) => if text.isEmpty then .ok [] else .error .noMember
  | _ => .error .wrongKind

def otherDocuments : List String :=
  ["README.rst", "auth_api_key.tmpl.rst", "auth.tmpl.rst", "install_deps.tmpl.rst", "install_portaudio.tmpl.rst", "noxfile.py.j2"]

def renderSamples (files : CommonFiles) (parameters : Parameters) : Job (List Path) := do
  let parameters <- withMetadata parameters
  files.exclude otherDocuments
  let metadata <- Job.ofExcept (parameters.need "metadata")
  let parameters := parameters.set "metadata"
    (<- Job.ofExcept (metadata.put "samples" (.bool true)))
  let repo <- Job.ofExcept parameters.repo
  let project <- projectFolder repo
  let groups <- groupSamples project (<- Job.ofExcept (listedIn repo))
  let overridden <- groups.byFolder.mapM fun (folder, samples) => do
    let parameters <- Job.ofExcept (parameters.setRepo "sample_project_dir" (.text folder))
    let parameters <- Job.ofExcept (parameters.setRepo "samples" (.list samples))
    let inside := if project = "." then Value.text folder
      else .path (Path.ofString project / folder)
    files.renderLibrary "python_samples" (parameters.set "subdir" inside)
  let parameters <- Job.ofExcept (parameters.setRepo "samples" (.list groups.others))
  let rest <- files.renderLibrary "python_samples" (parameters.set "subdir" (.text project))
  let results := overridden ++ [rest]
  results.forM Roots.add
  return results

end CommonFiles
end Refinery
