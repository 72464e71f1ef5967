import Refinery.Proofs.Workspace.FileJob

namespace Refinery

open Text Workspace Refinery.Tree

/-!
# Reading what was written

A text that is written goes where its path leads, and is read back as long as reading changes no line end.
-/

variable {w u : Workspace} {path text : String} {file : FileNode} {other : Place}

lemma Tree.insert_insert (tree : Tree) (place : Place) (node new : Node) :
    (tree.insert place node).insert place new = tree.insert place new := by
  by_cases top : place.isEmpty = true
  · simp only [insert, if_pos top]
  · simp [insert, top, erase]

namespace Workspace

section Put

variable {place : Place} {new : FileNode} (receives : w.tree.Receives place (.file new))

include receives

lemma get?_put (other : Place) : (w.put (some (place, .file new))).tree.get? other =
    if other = place then some (.file new) else w.tree.get? other :=
  get?_insert w.tree place other (.file new) receives.named

lemma placeOf_put (loc : w.placeOf path true = .ok other)
    (there : (w.put (some (place, .file new))).tree.get? other = some (.file file)) :
    (w.put (some (place, .file new))).placeOf path true = .ok other := by
  have grows : Grows w.tree (w.put (some (place, .file new))).tree :=
    grows_insert receives.named receives.kin
  rw [placeOf_eq_ok_iff] at loc ⊢
  exact ⟨loc.1, grows.locate_put loc.2 (by rw [there]; simp)⟩

lemma fileAt_put (loc : w.placeOf path true = .ok place) : (w.put (some (place, .file new))).fileAt path = .ok new := by
  have there := (get?_put receives place).trans (if_pos rfl)
  exact fileAt_eq_ok_iff.mpr ⟨place, placeOf_put receives loc there, there⟩

lemma placeOf_put_other (loc : w.placeOf path true = .ok other)
    (found : w.tree.get? other = some (.file file)) (apart : other ≠ place) :
    (w.put (some (place, .file new))).placeOf path true = .ok other /\
      (w.put (some (place, .file new))).tree.get? other = some (.file file) := by
  have there : (w.put (some (place, .file new))).tree.get? other = some (.file file) := by
    rw [get?_put receives, if_neg apart, found]
  exact ⟨placeOf_put receives loc there, there⟩

end Put

lemma isDirectory_of_grows (grows : Grows w.tree u.tree) (same : u.directory = w.directory)
    (dir : w.isDirectory path = true) : u.isDirectory path = true := by
  rw [isDirectory_eq_true_iff, nodeAt?_eq_some_iff] at dir ⊢
  rcases dir with ⟨place, loc, standing⟩
  rw [placeOf_eq_ok_iff] at loc
  refine ⟨place, placeOf_eq_ok_iff.mpr ⟨loc.1, ?_⟩, grows.directory standing⟩
  rw [same]
  exact grows.locate loc.2 (by simp [standing])

end Workspace

namespace Job

lemma execute_writeText (enc : encodable text = true) (path : String) (w : Workspace) :
    (writeText path text).execute w = ((w.writing path text.toUTF8).1, w.put (w.writing path text.toUTF8).2) := by
  rw [writeText, if_pos enc, execute_writeBytes]

lemma writeText_outcome (enc : encodable text = true) (path : String) (w : Workspace) :
    ((writeText path text).execute w).1 = ((writeText path "").execute w).1 := by
  rw [execute_writeText enc, execute_writeText (by decide)]
  simp only [writing]
  split
  · rfl
  · split <;> rfl

lemma encodable_of_written (wrote : (writeText path text).execute w = (.ok (), u)) : encodable text = true := by
  by_contra broken
  rw [writeText, if_neg broken] at wrote
  rcases of_bind_ok wrote with ⟨_, _, _, failed⟩
  cases failed

lemma writeText_ok (sound : w.Sound) (wrote : (writeText path text).execute w = (.ok (), u)) :
    ∃ place file, w.placeOf path true = .ok place /\ (file.content = text.toUTF8 /\ file.age = 0) /\
      w.tree.Receives place (.file file) /\ u = w.put (some (place, .file file)) := by
  rw [execute_writeText (encodable_of_written wrote), writing] at wrote
  split at wrote
  · cases wrote
  next place reached =>
    have isOpen := sound.isOpen reached
    split at wrote <;> cases wrote
    next file found => exact ⟨place, _, reached, ⟨rfl, rfl⟩, isOpen.receives_file found, rfl⟩
    next found => exact ⟨place, _, reached, ⟨rfl, rfl⟩, isOpen.receives_new found, rfl⟩

section Written

variable (sound : w.Sound) (wrote : (writeText path text).execute w = (.ok (), u))

include sound wrote

lemma fileAt_written : ∃ file, u.fileAt path = .ok file /\ file.content = text.toUTF8 := by
  rcases writeText_ok sound wrote with ⟨place, file, loc, ⟨content, -⟩, receives, rfl⟩
  exact ⟨file, fileAt_put receives loc, content⟩

lemma readText_written (free : '\r' ∉ text.toList) : (readText path).execute u = (.ok text, u) := by
  rcases fileAt_written sound wrote with ⟨file, there, content⟩
  have bytes : (readBytes path).execute u = (.ok text.toUTF8, u) := by
    rw [readBytes, execute_bind, execute_fileAt, there, <- content]
    rfl
  rw [readText, bind_ok bytes, decode, fromUTF8?_toUTF8]
  change (Except.ok (unifyLineEnds text), u) = _
  rw [unifyLineEnds_of_free free]

lemma writeText_again : (writeText path text).execute u = (.ok (), u) := by
  rcases writeText_ok sound wrote with ⟨place, file, loc, ⟨content, age⟩, receives, rfl⟩
  have there := (get?_put receives place).trans (if_pos rfl)
  have reached := placeOf_put receives loc there
  have same : FileNode.mk text.toUTF8 file.mode 0 = file := by
    rw [<- content, <- age]
  rw [execute_writeText (encodable_of_written wrote), writing, reached]
  simp only [there, same]
  simp only [put, insert_insert]

end Written

end Job
end Refinery
