import Refinery.Proofs.Workspace.Copying

namespace Refinery

open List Workspace

/-!
# Removing directories

A job that removes a directory if it can removes the one that plain names lead to, with everything in it,
unless they pass over a link.
-/

namespace Tree

variable {tree : Tree} {place : Place}

lemma get?_prune (named : place ≠ []) (other : Place) :
    (tree.prune place).get? other = if place <+: other then none else tree.get? other := by
  by_cases atTop : other = []
  · subst atTop
    rw [if_neg (by simpa using named)]
    rfl
  · rw [get?_of_ne_nil atTop, get?_of_ne_nil atTop]
    refine (lookup_filter (fun key => !place.isPrefixOf key) tree.entries other).trans ?_
    by_cases below : place <+: other <;> simp [below]

lemma Sound.prune (sound : tree.Sound) (named : place ≠ []) : (tree.prune place).Sound := by
  refine ⟨List.Nodup.sublist (filter_sublist.map Prod.fst) sound.distinct, ?_, ?_⟩
  · exact fun entry mem => sound.plain entry (mem_filter.mp mem).1
  · intro entry mem
    rcases mem_filter.mp mem with ⟨inside, kept⟩
    have held := sound.held entry inside
    refine ⟨held.1, ?_⟩
    rw [get?_prune named, if_neg, held.2]
    intro below
    rw [List.isPrefixOf_iff_prefix.mpr (below.trans (List.dropLast_prefix entry.1))] at kept
    cases kept

def discarded (tree : Tree) (place : Place) : Tree :=
  if tree.get? place = some .directory then tree.prune place else tree

lemma get?_discarded (named : place ≠ []) (other : Place) : (tree.discarded place).get? other =
      if tree.get? place = some .directory /\ place <+: other then none else tree.get? other := by
  rw [discarded]
  by_cases standing : tree.get? place = some .directory <;> simp [standing, get?_prune named]

lemma Sound.discarded (sound : tree.Sound) (named : place ≠ []) : (tree.discarded place).Sound := by
  rw [Tree.discarded]
  split
  · exact sound.prune named
  · exact sound

end Tree

namespace Job

variable {w : Workspace} {path : String} {place : Place}

lemma LeadsTo.here (sound : w.Sound) : LeadsTo w Path.here w.directory :=
  ⟨by decide, rfl, sound.standing⟩

lemma execute_removeTree (placed : w.placeOf path false = .ok place) (standing : w.tree.get? place = some .directory) :
    (removeTree path).execute w = (.ok (), { w with tree := w.tree.prune place }) := by
  have found : (placeOf path false).execute w = (.ok place, w) := by
    rw [execute_placeOf, placed]
  rw [removeTree, bind_ok found, bind_ok (execute_get w), standing]
  rfl

lemma execute_removeTree_error (placed : w.placeOf path false = .ok place) (clear : w.tree.get? place ≠ some .directory) :
    ∃ err, (removeTree path).execute w = (.error err, w) := by
  have found : (placeOf path false).execute w = (.ok place, w) := by
    rw [execute_placeOf, placed]
  rw [removeTree, bind_ok found, bind_ok (execute_get w)]
  split
  next standing => exact absurd standing clear
  all_goals exact ⟨_, rfl⟩

lemma execute_discardTree (sound : w.Sound) {names : List String} (named : names ≠ [])
    (plain : ∀ name ∈ names, IsPlain name) (noLink : ∀ early, early <+: names -> early ≠ names ->
      ∀ target, w.tree.get? (w.directory ++ early) ≠ some (.link target)) : (discardTree (Path.mk .relative names)).execute w =
      (.ok (), { w with tree := w.tree.discarded (w.directory ++ names) }) := by
  have proper : (Path.mk .relative names).Proper := fun name mem => (plain name mem).1
  have attempted : ∀ {outcome : Except Failure Unit} {after : Workspace},
      (removeTree (Path.mk .relative names)).execute w = (outcome, after) ->
      (discardTree (Path.mk .relative names)).execute w = (.ok (), after) := by
    intro outcome after ran
    rw [discardTree, execute_bind, execute_attempt, ran]
    cases outcome <;> rfl
  rw [Tree.discarded]
  split
  next standing =>
    have loc : w.tree.locate w.directory ⟨.relative, names⟩ false = .ok (w.directory ++ names) :=
      Tree.locate_below sound.tree sound.standing (LeadsTo.here sound).located sound.standing named
        (sound.tree.isOpen standing) nofun
    exact attempted (execute_removeTree (placeOf_of_locate proper loc) standing)
  next clear =>
    have placed := placeOf_toString (w := w) proper false
    cases loc : w.tree.locate w.directory ⟨.relative, names⟩ false with
    | error reason =>
      have failed := execute_placeOf (Path.mk .relative names).toString false w
      rw [placed, loc] at failed
      exact attempted (bind_error failed)
    | ok place =>
      have straight : place = w.directory ++ names := Tree.locate_straight plain
        (fun early inside passed => noLink early inside (passed.resolve_left Bool.false_ne_true)) loc
      rw [loc, straight] at placed
      rcases execute_removeTree_error placed clear with ⟨err, ran⟩
      exact attempted ran

end Job
end Refinery
