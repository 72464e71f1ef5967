import Refinery.Component.Copy
import Refinery.Proofs.Transfer.Itinerary

namespace Refinery

open List Job Transfer Workspace Refinery.Tree

/-!
# The search for a version

In each directory the first name counts that is the version or a directory, and the search never comes back.
So a version beside that way is not found.
-/

namespace Component

def isNamed (version name : String) : Bool :=
  Text.lower (Path.splitName name).1 = version

def counts (tree : Tree) (version : String) (place : Place) (name : String) : Bool :=
  isNamed version name || isDirectoryAt tree (place ++ [name])

def first? (tree : Tree) (version : String) (place : Place) : Option String :=
  (tree.list place).find? (counts tree version place)

def Holds (tree : Tree) (version : String) (place : Place) : Prop :=
  ∃ name ∈ tree.list place, isNamed version name = true

def OneWay (tree : Tree) (version : String) (base : Place) : Prop :=
  ∀ rest, ∀ one ∈ tree.list (base ++ rest), ∀ other ∈ tree.list (base ++ rest),
    counts tree version (base ++ rest) one = true -> counts tree version (base ++ rest) other = true ->
    one = other

variable {w : Workspace} {version name : String} {base : Place} {folder : Path} {tree : Tree} {way : List String}

lemma OneWay.first?_eq (oneWay : OneWay tree version base) (listed : name ∈ tree.list base)
    (has : counts tree version base name = true) : first? tree version base = some name := by
  have sole := oneWay []
  rw [append_nil] at sole
  cases found : first? tree version base with
  | none => exact absurd has (by simpa using find?_eq_none.mp found name listed)
  | some other => rw [sole name listed other (mem_of_find?_eq_some found) has (find?_some found)]

lemma Holds.cases (sound : tree.Sound) (holds : Holds tree version (base ++ way)) :
    ∃ name ∈ tree.list base, counts tree version base name = true /\
      (isNamed version name = true \/ ∃ more, Holds tree version (base ++ [name] ++ more)) := by
  cases way with
  | nil =>
    rw [append_nil] at holds
    rcases holds with ⟨name, listed, named⟩
    exact ⟨name, listed, by rw [counts, named, Bool.true_or], .inl named⟩
  | cons name way =>
    rw [append_cons] at holds
    have standing : tree.get? (base ++ [name]) = some .directory := by
      rcases holds with ⟨inner, listed, _⟩
      rcases Option.isSome_iff_exists.mp (sound.mem_list.mp listed) with ⟨node, found⟩
      rw [append_assoc] at found
      exact sound.way (way ++ [inner]) (by simp) found
    refine ⟨name, sound.mem_list.mpr (by rw [standing]; rfl), ?_, .inr ⟨way, holds⟩⟩
    rw [counts, isDirectoryAt_eq_true_iff.mpr standing, Bool.or_true]

section Entries

variable (sound : w.Sound) (leads : LeadsTo w folder base)
  (noLinks : ∀ rest target, w.tree.get? (base ++ rest) ≠ some (.link target))

include sound leads noLinks

lemma located_child (listed : name ∈ w.tree.list base) : (folder.child name).Proper /\
    w.tree.locate w.directory (folder.child name) = .ok (base ++ [name]) := by
  rcases Option.isSome_iff_exists.mp (sound.tree.mem_list.mp listed) with ⟨node, found⟩
  have plain := sound.tree.isPlain found name (mem_append_right base mem_cons_self)
  exact ⟨leads.proper.child plain.1, leads.locate_child sound plain true (noLinks [name])⟩

lemma execute_resolve_child (listed : name ∈ w.tree.list base) :
    (resolve (folder.child name)).execute w = (.ok (pathOf (base ++ [name])), w) := by
  rcases located_child sound leads noLinks listed with ⟨proper, located⟩
  exact execute_resolve sound proper located

lemma execute_isVersion_child (listed : name ∈ w.tree.list base) :
    (isVersion version (folder.child name)).execute w = (.ok (isNamed version name), w) := by
  rw [isVersion, bind_ok (execute_resolve_child sound leads noLinks listed)]
  simp [Path.stem, Path.name, Tree.pathOf, isNamed]

lemma execute_first : (((w.tree.list base).map folder.child).findM? fun entry => do
      if <- isVersion version entry then return true
      isDirectory entry).execute w = (.ok ((first? w.tree version base).map folder.child), w) := by
  have judged (name : String) (listed : name ∈ w.tree.list base) : (do
      if <- isVersion version (folder.child name) then return true
      isDirectory (folder.child name)).execute w = (.ok (counts w.tree version base name), w) := by
    rw [bind_ok (execute_isVersion_child sound leads noLinks listed), counts]
    cases isNamed version name with
    | true => rfl
    | false =>
      rcases located_child sound leads noLinks listed with ⟨proper, located⟩
      refine (execute_isDirectory _ w).trans ?_
      rw [Workspace.isDirectory, nodeAt?_of_locate proper located]
      rfl
  rw [first?]
  generalize w.tree.list base = names at judged
  induction names with
  | nil => rfl
  | cons name names ih =>
    rw [map_cons, findM?, bind_ok (judged name mem_cons_self), find?_cons]
    cases counts w.tree version base name with
    | true => rfl
    | false => exact ih fun other mem => judged other (mem_cons_of_mem name mem)

end Entries

/-- What the search is to answer. -/
structure Answers (w : Workspace) (version : String) (base : Place) (answer : Option Path) : Prop where
  sound : ∀ found, answer = some found -> ∃ goal, base <+: goal /\ LeadsTo w found goal /\ Holds w.tree version goal
  complete : OneWay w.tree version base -> answer = none -> ∀ way, ¬ Holds w.tree version (base ++ way)

lemma execute_findVersion (sound : w.Sound) (leads : LeadsTo w folder base)
    (noLinks : ∀ rest target, w.tree.get? (base ++ rest) ≠ some (.link target)) {depth : Nat}
    (enough : w.tree.size < depth + base.length) :
    ∃ answer, (findVersion depth folder version).execute w = (.ok answer, w) /\ Answers w version base answer := by
  induction depth generalizing folder base with
  | zero =>
    have long := sound.tree.length_le_size leads.standing
    omega
  | succ depth ih =>
    have listed : (children folder).execute w = (.ok ((w.tree.list base).map folder.child), w) := by
      rw [execute_children, list_of_locate leads.proper leads.located leads.standing]
      rfl
    rw [findVersion, bind_ok listed, bind_ok (execute_first sound leads noLinks)]
    cases first : first? w.tree version base with
    | none =>
      refine ⟨none, rfl, nofun, fun _ _ way holds => ?_⟩
      rcases holds.cases sound.tree with ⟨name, known, has, -⟩
      exact find?_eq_none.mp first name known has
    | some name =>
      have known := mem_of_find?_eq_some first
      have has := find?_some first
      change ∃ answer, (isVersion version (folder.child name) >>= _).execute w = _ /\ _
      rw [bind_ok (execute_isVersion_child sound leads noLinks known)]
      cases named : isNamed version name with
      | true =>
        refine ⟨folder, rfl, fun _ same => ?_, nofun⟩
        cases same
        exact ⟨base, prefix_refl base, leads, name, known, named⟩
      | false =>
        have standing : w.tree.get? (base ++ [name]) = some .directory := by
          rw [counts, named, Bool.false_or] at has
          exact isDirectoryAt_eq_true_iff.mp has
        have top : LeadsTo w (pathOf []) [] := ⟨nofun, rfl, rfl⟩
        have further : LeadsTo w (pathOf (base ++ [name])) (base ++ [name]) := top.below sound standing
        have short : w.tree.size < depth + (base ++ [name]).length := by
          rw [length_append, length_singleton]
          omega
        rcases ih further (fun rest => by rw [append_assoc]; exact noLinks _) short with ⟨answer, ran, answers⟩
        refine ⟨answer, ?_, fun found same => ?_, fun oneWay none way holds => ?_⟩
        · change (resolve (folder.child name) >>= _).execute w = _
          rw [bind_ok (execute_resolve_child sound leads noLinks known)]
          exact ran
        · rcases answers.sound found same with ⟨goal, below, ends⟩
          exact ⟨goal, (prefix_append _ _).trans below, ends⟩
        · rcases holds.cases sound.tree with ⟨other, also, counted, leadsOn⟩
          cases first.symm.trans (oneWay.first?_eq also counted)
          rcases leadsOn with right | ⟨more, inner⟩
          · rw [right] at named
            cases named
          · exact answers.complete (fun rest => by rw [append_assoc]; exact oneWay _) none more inner

/-- **The search for a version is sound, and complete where there is but one way.** -/
theorem findVersionIn_answers (sound : w.Sound) (leads : LeadsTo w folder base)
    (noLinks : ∀ rest target, w.tree.get? (base ++ rest) ≠ some (.link target)) (version : String) :
    ∃ answer, (findVersionIn folder version).execute w = (.ok answer, w) /\ Answers w version base answer := by
  rw [findVersionIn, bind_ok (execute_depthLimit w)]
  have enough : w.tree.size < w.tree.size + 1000 + base.length := by omega
  exact execute_findVersion sound leads noLinks enough

def branching : Workspace where
  tree := ⟨[(["w"], .directory), (["w", "s"], .directory), (["w", "s", "a"], .directory),
    (["w", "s", "b"], .directory), (["w", "s", "b", "V1.x"], .file { content := .empty })]⟩
  directory := ["w"]

/-- The search answers for both directories together. -/
theorem branching_answers : LeadsTo branching ⟨.relative, ["s"]⟩ ["w", "s"] /\
    ∃ answer, (findVersionIn ⟨.relative, ["s"]⟩ "v1").execute branching = (.ok answer, branching) /\
      Answers branching "v1" ["w", "s"] answer := by
  have leads : LeadsTo branching ⟨.relative, ["s"]⟩ ["w", "s"] := ⟨by decide, by decide, by decide⟩
  refine ⟨leads, findVersionIn_answers (by decide) leads (fun rest target found => ?_) "v1"⟩
  have mem := mem_entries_of_get? (by simp) found
  simp [branching] at mem

/-- A version that is there is not found. -/
theorem branching_missed : isNamed "v1" "V1.x" = true /\ "V1.x" ∈ branching.tree.list ["w", "s", "b"] /\
    ((findVersionIn ⟨.relative, ["s"]⟩ "v1").execute branching).1.toOption = some none := by
  decide +kernel

end Component
end Refinery
