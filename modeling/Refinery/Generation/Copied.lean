import Refinery.Repository
import Refinery.Workspace.Glob

namespace Refinery.Generation

open Job

/-!
# Interface definitions

A generator looks for a repository once and then stays with it.
-/

inductive Definitions where
  | published
  | unpublished
  | discovery
  deriving DecidableEq

namespace Definitions

def repository : Definitions -> String
  | published => "googleapis/googleapis"
  | unpublished => "googleapis/googleapis-private"
  | discovery => "googleapis/discovery-artifact-manager"

def setting : Definitions -> String
  | published | unpublished => "SYNTHTOOL_GOOGLEAPIS"
  | discovery => "SYNTHTOOL_DISCOVERY_ARTIFACT_MANAGER"

end Definitions

def newGenerator : Job Nat := do
  let number := (<- session).generators
  note fun s => { s with generators := number + 1 }
  return number

def localOrClone (setting repository : String) : Job Path := do
  match <- chosen? setting with
  | some path => expandHome (Path.ofString path)
  | none => do Repository.clone (<- Repository.cloneAddress repository)

def find (definitions : Definitions) (generator : Nat) : Job Path := do
  let key := (generator, definitions.repository)
  match (<- session).definitions.lookup key with
  | some path => return path
  | none =>
    let path <- localOrClone definitions.setting definitions.repository
    note fun s => { s with definitions := (key, path) :: s.definitions }
    return path

def requirePrograms (programs : List String) : Job Unit := do
  let missing <- programs.filterM fun program => do
    return (<- run ["which", program]).status ≠ 0
  if !missing.isEmpty then complain (.programsMissing missing)

def fromTop (path : Path) : Except Failure Path :=
  if path.isAbsolute then
    match path.relativeTo? .top with
    | some relative => .ok relative
    | none => .error .badValue
  else .ok path

def copyProtos (source folder : Path) : Job Unit := do
  makeDirectories folder
  Glob.fold source "**/*.proto" (fun _ (file : Path) =>
    copyContent file (folder / file.name)) ()

def noteClient (client : ClientDestination) (output : Path) : Job Path := do
  record (·.addDestination (.client client))
  Roots.add output
  return output

/-! ## Code that was generated before -/

def findGenerated : Job Path :=
  localOrClone "SYNTHTOOL_GOOGLEAPIS_GEN" "googleapis/googleapis-gen"

def copyGenerated (root : Path) (part : String) : Job Path := do
  let target := Path.ofString (<- makeTemporary) / "code"
  copyTree (root / part) target
  return target

end Refinery.Generation
