import Refinery.Proofs.Execution
import Refinery.Proofs.Tree.Route

namespace Refinery

open Job

/-!
# Jobs that only look

What the jobs that look at files answer, as functions of the workspace.
-/

namespace Workspace

/-- The place of a path, or why there is none. -/
def placeOf (w : Workspace) (path : String) (follow : Bool) : Except Failure Place :=
  if path = "" then .error (.absent path)
  else (w.tree.locate w.directory (pathOf path) follow).mapError (astray path)

def nodeAt? (w : Workspace) (path : String) : Option Node :=
  if path = "" then none else w.tree.find? w.directory (pathOf path)

/-- Whether a directory is at a path. -/
def isDirectory (w : Workspace) (path : String) : Bool :=
  ((w.nodeAt? path).map Node.isDirectory).getD false

def isLink (w : Workspace) (path : String) : Bool :=
  ((w.tree.findSelf? w.directory (pathOf path)).map Node.isLink).getD false

/-- The file at a path, or why there is none. -/
def fileAt (w : Workspace) (path : String) : Except Failure FileNode :=
  match w.placeOf path true with
  | .error failure => .error failure
  | .ok place =>
    match w.tree.get? place with
    | some (.file file) => .ok file
    | some _ => .error (.isDirectory path)
    | none => .error (.absent path)

def filePlace? (w : Workspace) (path : String) : Option Place :=
  match w.placeOf path true with
  | .error _ => none
  | .ok place =>
    match w.tree.get? place with
    | some (.file _) => some place
    | _ => none

def list (w : Workspace) (path : String) : Except Failure (List String) :=
  match w.placeOf path true with
  | .error failure => .error failure
  | .ok place =>
    match w.tree.get? place with
    | some .directory => .ok (w.tree.list place)
    | some _ => .error (.notDirectory path)
    | none => .error (.absent path)

def textAt (w : Workspace) (place : Place) : Option String :=
  match w.tree.get? place with
  | some (.file file) => String.fromUTF8? file.content
  | _ => none

def sameFile (w : Workspace) (first second : String) : Bool :=
  match w.tree.locate w.directory (pathOf first), w.tree.locate w.directory (pathOf second) with
  | .ok a, .ok b => a = b && (w.tree.get? a).isSome
  | _, _ => false

end Workspace

namespace Job

@[simp] lemma execute_placeOf (path : String) (follow : Bool) (w : Workspace) :
    (placeOf path follow).execute w = (w.placeOf path follow, w) := by
  rw [placeOf, Workspace.placeOf]
  by_cases empty : path = ""
  · simp [empty]
  · cases loc : w.tree.locate w.directory (pathOf path) follow <;>
      simp [empty, loc, Except.mapError]

@[simp] lemma execute_nodeAt? (path : String) (w : Workspace) : (nodeAt? path).execute w = (.ok (w.nodeAt? path), w) := rfl

@[simp] lemma execute_exists? (path : String) (w : Workspace) : (exists? path).execute w = (.ok (w.nodeAt? path).isSome, w) := rfl

@[simp] lemma execute_isFile (path : String) (w : Workspace) :
    (isFile path).execute w = (.ok (((w.nodeAt? path).map Node.isFile).getD false), w) := rfl

@[simp] lemma execute_isDirectory (path : String) (w : Workspace) :
    (isDirectory path).execute w = (.ok (w.isDirectory path), w) := rfl

@[simp] lemma execute_isLink (path : String) (w : Workspace) : (isLink path).execute w = (.ok (w.isLink path), w) := rfl

@[simp] lemma execute_fileAt (path : String) (w : Workspace) : (fileAt path).execute w = (w.fileAt path, w) := by
  rw [fileAt, Workspace.fileAt, execute_bind, execute_placeOf]
  cases w.placeOf path true with
  | error err => rfl
  | ok place =>
    simp only [execute_bind, execute_get]
    cases w.tree.get? place with
    | none => rfl
    | some node => cases node <;> rfl

@[simp] lemma execute_list (path : String) (w : Workspace) : (list path).execute w = (w.list path, w) := by
  rw [list, Workspace.list, execute_bind, execute_placeOf]
  cases w.placeOf path true with
  | error err => rfl
  | ok place =>
    simp only [execute_bind, execute_get]
    cases w.tree.get? place with
    | none => rfl
    | some node => cases node <;> rfl

@[simp] lemma execute_sameFile (first second : String) (w : Workspace) :
    (sameFile first second).execute w = (.ok (w.sameFile first second), w) := by
  simp only [sameFile, Workspace.sameFile, execute_bind, execute_get]
  cases w.tree.locate w.directory (pathOf first) with
  | error reason => rfl
  | ok a => cases w.tree.locate w.directory (pathOf second) <;> rfl

@[simp] lemma execute_depthLimit (w : Workspace) : depthLimit.execute w = (.ok (w.tree.size + 1000), w) := rfl

@[simp] lemma execute_children (path : Path) (w : Workspace) :
    (children path).execute w = ((w.list path.toString).map fun names => names.map path.child, w) := by
  rw [children, execute_bind, execute_list]
  cases w.list path.toString <;> rfl

end Job

namespace Workspace

/-! ## Texts of proper paths -/

variable {w : Workspace} {path : Path} {place : Place}

section

variable (proper : path.Proper)
include proper

lemma nodeAt?_toString : w.nodeAt? path.toString = w.tree.find? w.directory path := by
  rw [nodeAt?, if_neg (Path.toString_ne_empty proper), Path.pathOf_toString proper]

lemma isLink_toString : w.isLink path.toString = ((w.tree.findSelf? w.directory path).map Node.isLink).getD false := by
  rw [isLink, Path.pathOf_toString proper]

lemma placeOf_toString (follow : Bool) : w.placeOf path.toString follow =
      (w.tree.locate w.directory path follow).mapError (astray path.toString) := by
  rw [placeOf, if_neg (Path.toString_ne_empty proper), Path.pathOf_toString proper]

lemma nodeAt?_of_locate (loc : w.tree.locate w.directory path = .ok place) : w.nodeAt? path.toString = w.tree.get? place := by
  rw [nodeAt?_toString proper, Tree.find?, loc]

lemma placeOf_of_locate {follow : Bool} (loc : w.tree.locate w.directory path follow = .ok place) :
    w.placeOf path.toString follow = .ok place := by
  rw [placeOf_toString proper, loc]
  rfl

lemma list_of_locate (loc : w.tree.locate w.directory path = .ok place)
    (dir : w.tree.get? place = some .directory) : w.list path.toString = .ok (w.tree.list place) := by
  simp only [list, placeOf_of_locate proper loc, dir]

end

lemma isDirectory_eq_true_iff {text : String} : w.isDirectory text = true ↔ w.nodeAt? text = some .directory := by
  rw [isDirectory]
  cases w.nodeAt? text with
  | none => simp
  | some node => cases node <;> simp [Node.isDirectory]

end Workspace
end Refinery
