import Refinery.Provenance.Record
import Refinery.Tree

namespace Refinery

/-!
# Workspaces

Everything a job can see or change is one value.  A job is a computation on a workspace that may fail; what it
did before it failed stays done.
-/

inductive Change where
  | put (node : Node)
  | remove
  deriving DecidableEq

abbrev Changes := List (Place × Change)

structure CommandRule where
  start : String
  status : Int := 0
  output : String := ""
  changes : Changes := []
  missing : Bool := false

structure Page where
  status : Nat := 200
  text : String := ""
  deriving DecidableEq

structure Command where
  words : List String
  directory : Option String := none
  stdin : Option (List String) := none
  shell : Bool := false
  deriving DecidableEq

structure ServiceCall where
  service : String
  arguments : List Doc

structure Journal where
  commands : List Command := []
  urls : List String := []
  calls : List ServiceCall := []
  printed : String := ""

structure Cell where
  kind : String
  source : String
  metadata : Doc

inductive NotebookAnswer where
  | cells (cells : List Cell)
  | refused (text : String)

structure Resource where
  name : String
  age : Doc
  refusal : Option String := none

structure BuildAnswer where
  id : String := ""
  logUrl : String := ""
  logsBucket : String := ""
  error : Option String := none
  deriving DecidableEq

structure Services where
  executionChanges : Changes := []
  executionError : Option String := none
  buckets : List (String × String × String) := []
  project : String := "project"
  resources : List (String × List Resource) := []
  notebooks : List (String × NotebookAnswer) := []
  builds : List BuildAnswer := []

structure Session where
  roots : List Path := []
  excluded : List String := []
  record : Record := {}
  removesObsolete : Bool := false
  writesRecord : Bool := true
  preclones : Option Preclones := none
  temporary : List String := []
  temporaryCount : Nat := 0
  generators : Nat := 0
  definitions : List ((Nat × String) × Path) := []
  exclusions : List (List String) := []
  sampleExclusions : List String := []
  scriptArguments : List String := []

structure Workspace where
  tree : Tree
  directory : Place
  settings : List (String × String) := []
  rules : List CommandRule := []
  pages : List (String × Page) := []
  absentPrograms : List String := []
  services : Services := {}
  today : Date := ⟨2023, 5, 17⟩
  script : String := "synth.py"
  session : Session := {}
  journal : Journal := {}
  deriving Inhabited

abbrev Job := ExceptT Failure (StateM Workspace)

namespace Workspace

def setting? (w : Workspace) (name : String) : Option String :=
  w.settings.lookup name

def chosen? (w : Workspace) (name : String) : Option String :=
  match w.setting? name with
  | some "" => none
  | other => other

def enabled (w : Workspace) (name : String) : Bool :=
  match w.setting? name with
  | some text => text ≠ "" && Text.lower text ≠ "false"
  | none => false

def applyChange (tree : Tree) (entry : Place × Change) : Tree :=
  match entry.2 with
  | .remove => tree.prune entry.1
  | .put .directory => tree.ensure [] entry.1
  | .put node => (tree.ensure [] (Tree.above entry.1)).insert entry.1 node

def applyChanges (tree : Tree) (changes : Changes) : Tree :=
  changes.foldl applyChange tree

end Workspace

namespace Job

def execute {α : Type} (job : Job α) (w : Workspace) : Except Failure α × Workspace :=
  StateT.run (ExceptT.run job) w

def fail {α : Type} (failure : Failure) : Job α :=
  throw failure

def complain {α : Type} (reason : Complaint) : Job α :=
  throw (.complaint reason)

def ofExcept {α : Type} : Except Failure α -> Job α
  | .ok value => pure value
  | .error failure => throw failure

def need {α : Type} (failure : Failure) : Option α -> Job α
  | some value => pure value
  | none => throw failure

def session : Job Session := do
  return (<- get).session

def note (change : Session -> Session) : Job Unit :=
  modify fun w => { w with session := change w.session }

def record (change : Record -> Record) : Job Unit :=
  note fun s => { s with record := change s.record }

def onTree (change : Tree -> Tree) : Job Unit :=
  modify fun w => { w with tree := change w.tree }

def print (text : String) : Job Unit :=
  modify fun w => { w with journal := { w.journal with printed := w.journal.printed ++ text } }

def printLine (text : String) : Job Unit :=
  print (text ++ "\n")

def call (service : String) (arguments : List Doc) : Job Unit :=
  modify fun w =>
    { w with journal := { w.journal with calls := w.journal.calls ++ [⟨service, arguments⟩] } }

def attempt {α : Type} (job : Job α) : Job (Except Failure α) :=
  tryCatch (do return .ok (<- job)) fun failure => pure (.error failure)

def setting? (name : String) : Job (Option String) := do
  return (<- get).setting? name

def chosen? (name : String) : Job (Option String) := do
  return (<- get).chosen? name

def workingDirectory : Job Path := do
  return Tree.pathOf (<- get).directory

end Job

end Refinery
