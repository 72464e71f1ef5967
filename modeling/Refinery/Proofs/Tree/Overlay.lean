import Refinery.Proofs.Tree.View

namespace Refinery.Tree

open List

/-!
# Files laid over a tree

For each copied file, directories are put on the way where nothing is, and then the file is put.
-/

variable {before between after : Tree} {node : Node} {goal : Place} {name : String}

/-! ## Directories on the way to a place -/

def Made (before : Tree) (goal : Place) (after : Tree) : Prop :=
  ∀ place, after.get? place = if before.get? place = none /\ place <+: goal then some .directory else before.get? place

lemma Sound.present_of_prefix (sound : before.Sound) {place : Place}
    (found : before.get? goal = some node) (start : place <+: goal) : before.get? place ≠ none := by
  rcases start with ⟨more, rfl⟩
  by_cases whole : more = []
  · simp_all
  · simp [sound.way more whole found]

lemma Sound.made_self (sound : before.Sound) (found : before.get? goal = some node) : Made before goal before := by
  intro place
  rw [if_neg]
  rintro ⟨absent, start⟩
  exact sound.present_of_prefix found start absent

lemma Sound.made_insert (sound : before.Sound) {place : Place}
    (standing : before.get? place = some .directory) (absent : before.get? (place ++ [name]) = none) :
    Made before (place ++ [name]) (before.insert (place ++ [name]) .directory) := by
  intro other
  rw [get?_insert _ _ _ _ (by simp)]
  split
  next same => rw [if_pos ⟨same ▸ absent, by rw [same]⟩]
  next same =>
    rw [if_neg]
    rintro ⟨missing, start⟩
    rcases prefix_concat_iff.mp start with equal | shorter
    · exact same equal
    · exact sound.present_of_prefix standing shorter missing

lemma Made.trans {more : Place} (first : Made before goal between)
    (second : Made between (goal ++ more) after) : Made before (goal ++ more) after := by
  intro place
  rw [second place, first place]
  by_cases absent : before.get? place = none
  · by_cases early : place <+: goal
    · simp [absent, early, early.trans (prefix_append goal more)]
    · simp [absent, early]
  · simp [absent]

lemma Made.of_present {place : Place} (made : Made before goal after)
    (present : before.get? place ≠ none) : after.get? place = before.get? place := by
  rw [made place, if_neg fun both => present both.1]

lemma Made.of_not_prefix {place : Place} (made : Made before goal after)
    (aside : ¬ place <+: goal) : after.get? place = before.get? place := by
  rw [made place, if_neg fun both => aside both.2]

lemma Made.standing (made : Made before goal after)
    (free : before.get? goal = none \/ before.get? goal = some .directory) : after.get? goal = some .directory := by
  rcases free with absent | standing
  · rw [made goal, if_pos ⟨absent, prefix_refl goal⟩]
  · rw [made.of_present (by rw [standing]; simp), standing]

/-- A file was put at a place, and nothing else changed. -/
def PutAt (before : Tree) (place : Place) (file : FileNode) (after : Tree) : Prop :=
  ∀ other, after.get? other = if other = place then some (.file file) else before.get? other

lemma PutAt.again {place : Place} {file next : FileNode} (first : PutAt before place file between)
    (second : PutAt between place next after) : PutAt before place next after := by
  intro other
  rw [second, first]
  split <;> rfl

/-! ## Files copied from below one place to below another -/

variable {src dest : Place} {done : List String -> Prop} {rest other : List String}
  {file : FileNode}

/-- The file by these names may be copied to below the destination: its new place is not below the source,
unless the destination is a new directory right in it; only directories are on the way; and where it comes to,
there is nothing or a file. -/
structure Fits (before : Tree) (source destination : Place) (rest : List String) : Prop where
  apart : ¬ source <+: destination ++ rest \/ ∃ name, destination = source ++ [name] /\ before.get? destination = none
  way : ∀ start, start <+: rest -> start ≠ rest -> before.get? (destination ++ start) = none \/
      before.get? (destination ++ start) = some .directory
  clear : before.get? (destination ++ rest) = none \/ ∃ old, before.get? (destination ++ rest) = some (.file old)

/-- What has changed when the files by the names that are `done` were copied. -/
structure Copied (before : Tree) (source destination : Place) (done : List String -> Prop)
    (after : Tree) : Prop where
  written : ∀ rest, done rest -> after.get? (destination ++ rest) = before.get? (source ++ rest)
  made : ∀ place rest, done rest -> place <+: destination ++ rest ->
    place ≠ destination ++ rest -> before.get? place = none -> after.get? place = some .directory
  kept : ∀ place, (∀ rest, done rest ->
      ¬ (place <+: destination ++ rest /\ (place = destination ++ rest \/ before.get? place = none))) ->
    after.get? place = before.get? place

lemma Copied.congr {others : List String -> Prop} (copied : Copied before src dest done after)
    (same : ∀ rest, done rest ↔ others rest) : Copied before src dest others after :=
  (funext fun rest => propext (same rest) : done = others) ▸ copied

lemma Sound.eq_of_file_prefix (sound : before.Sound) (found : before.get? (src ++ rest) = some (.file file))
    (below : before.get? (src ++ other) = some node) (start : rest <+: other) : rest = other := by
  rcases start with ⟨more, rfl⟩
  by_cases whole : more = []
  · rw [whole, append_nil]
  · rw [<- append_assoc] at below
    rw [sound.way more whole below] at found
    cases found

lemma Copied.unwritten (copied : Copied before src dest done after) (sound : before.Sound)
    (files : ∀ rest, done rest -> ∃ file, before.get? (src ++ rest) = some (.file file))
    (found : before.get? (src ++ rest) = some (.file file)) (left : ¬ done rest) :
    after.get? (dest ++ rest) = before.get? (dest ++ rest) := by
  apply copied.kept
  rintro other isDone ⟨start, _⟩
  rcases files other isDone with ⟨old, there⟩
  have same := sound.eq_of_file_prefix found there ((prefix_append_right_inj dest).mp start)
  exact left (same ▸ isDone)

/-! ## The files of a tree -/

section Files

variable {tree : Tree} {place : Place}

/-- The file at a place. -/
def file? (tree : Tree) (place : Place) : Option FileNode :=
  match tree.get? place with
  | some (.file file) => some file
  | _ => none

lemma file?_eq_some_iff : tree.file? place = some file ↔ tree.get? place = some (.file file) := by
  rw [file?]
  cases tree.get? place with
  | none => simp
  | some node => cases node <;> simp

lemma file?_congr {other : Tree} {elsewhere : Place} (same : tree.get? place = other.get? elsewhere) :
    tree.file? place = other.file? elsewhere := by
  rw [file?, file?, same]

lemma file?_eq_none (clear : tree.get? place = none \/ tree.get? place = some .directory) : tree.file? place = none := by
  rcases clear with absent | standing
  · rw [file?, absent]
  · rw [file?, standing]

variable (copied : Copied before src dest done after)
include copied

lemma Copied.file?_done (isDone : done rest) : after.file? (dest ++ rest) = before.file? (src ++ rest) :=
  file?_congr (copied.written rest isDone)

lemma Copied.file?_left (left : ¬ done rest) : after.file? (dest ++ rest) = before.file? (dest ++ rest) := by
  by_cases ancestor : ∃ other, done other /\ dest ++ rest <+: dest ++ other /\ before.get? (dest ++ rest) = none
  · rcases ancestor with ⟨other, isDone, start, absent⟩
    have short : dest ++ rest ≠ dest ++ other := fun same => left (append_cancel_left same ▸ isDone)
    rw [file?_eq_none (.inl absent), file?_eq_none (.inr (copied.made _ other isDone start short absent))]
  · refine file?_congr (copied.kept _ ?_)
    rintro other isDone ⟨start, here | absent⟩
    · exact left (append_cancel_left here ▸ isDone)
    · exact ancestor ⟨other, isDone, start, absent⟩

lemma Copied.get?_or (sound : before.Sound) (files : ∀ rest, done rest -> ∃ file, before.get? (src ++ rest) = some (.file file))
    {start : List String} (found : after.get? (dest ++ start) = some node) :
    before.get? (dest ++ start) = some node \/ before.get? (src ++ start) = some node := by
  by_cases isDone : done start
  · rw [copied.written start isDone] at found
    exact .inr found
  · by_cases ancestor : ∃ other, done other /\ dest ++ start <+: dest ++ other /\ before.get? (dest ++ start) = none
    · rcases ancestor with ⟨other, otherDone, early, absent⟩
      rcases (prefix_append_right_inj dest).mp early with ⟨more, rfl⟩
      have further : more ≠ [] := by
        rintro rfl
        exact isDone (append_nil start ▸ otherDone)
      rw [copied.made _ _ otherDone early (by simpa using further) absent] at found
      rcases files _ otherDone with ⟨file, there⟩
      rw [<- append_assoc] at there
      exact .inr ((sound.way more further there).trans found)
    · refine .inl (Eq.trans (Eq.symm ?_) found)
      apply copied.kept
      rintro other otherDone ⟨early, here | absent⟩
      · exact isDone (append_cancel_left here ▸ otherDone)
      · exact ancestor ⟨other, otherDone, early, absent⟩

end Files

end Refinery.Tree
