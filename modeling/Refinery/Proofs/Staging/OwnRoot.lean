import Refinery.Proofs.Transfer.Exclusion

namespace Refinery

open List Job

/-!
# A folder as its own root

A tracked folder that is at least two names deep is seen from itself, and if nothing strictly below it is
tracked, so is everything below it.
-/

namespace Path

lemma length_toString_child {path : Path} (named : path.names ≠ []) (name : String) :
    path.toString.length < (path.child name).toString.length := by
  have grown : (path.child name).toString = path.toString ++ "/" ++ name := by
    rw [toString_of_ne_nil named, toString_of_ne_nil (by simp [child])]
    simp only [child, Text.join_concat named, String.append_assoc]
  rw [grown]
  simp only [String.length_append]
  have slash : "/".length = 1 := rfl
  omega

lemma length_toString_append (anchor : Anchor) {names : List String} (named : names ≠ [])
    {more : List String} (further : more ≠ []) :
    (Path.mk anchor names).toString.length < (Path.mk anchor (names ++ more)).toString.length := by
  induction more generalizing names with
  | nil => exact absurd rfl further
  | cons name rest ih =>
    have first : (Path.mk anchor names).toString.length < (Path.mk anchor (names ++ [name])).toString.length :=
      length_toString_child named name
    by_cases last : rest = []
    · rw [last]
      exact first
    · have onward := ih (append_ne_nil_of_left_ne_nil named [name]) last
      rw [append_assoc] at onward
      exact first.trans onward

lemma length_pos {name : String} (isName : IsName name) : 0 < name.length := by
  rw [<- String.length_toList]
  exact length_pos_iff.mpr isName.toList_ne_nil

lemma length_toString_two (anchor : Anchor) {first : String} (isName : IsName first)
    (second : String) (rest : List String) : (Path.mk anchor []).toString.length <
      (Path.mk anchor (first :: second :: rest)).toString.length := by
  have named : (Path.mk anchor [first]).names ≠ [] := cons_ne_nil first []
  have one : (Path.mk anchor []).toString.length <= (Path.mk anchor [first]).toString.length := by
    have long := length_pos isName
    rw [toString_of_ne_nil named]
    cases anchor with
    | relative =>
      change 1 <= ("" ++ first).length
      rwa [String.empty_append]
    | slash | doubleSlash =>
      simp only [Anchor.text, Text.join, String.length_append]
      exact Nat.le_add_right _ _
  exact one.trans_lt (length_toString_append anchor named (cons_ne_nil second rest))

lemma length_toString_above {path base : Path} (proper : path.Proper) (deep : 2 <= path.names.length)
    (below : path.isBelow base = true) (ne : base ≠ path) : base.toString.length < path.toString.length := by
  rcases Option.isSome_iff_exists.mp below with ⟨relative, seen⟩
  rcases relativeTo?_eq_some_iff.mp seen with ⟨anchors, more, parts, _⟩
  rcases base with ⟨anchor, above⟩
  rcases path with ⟨_, names⟩
  have sameAnchor : _ = anchor := anchors
  have sameNames : names = above ++ more := parts
  subst sameAnchor sameNames
  by_cases named : above = []
  · subst named
    rcases more with _ | ⟨first, _ | ⟨second, rest⟩⟩
    · exact absurd deep (by simp)
    · exact absurd deep (by simp)
    · exact length_toString_two _ (proper first mem_cons_self) second rest
  · refine length_toString_append _ named ?_
    rintro rfl
    exact ne (by rw [append_nil])

end Path

namespace Roots

def InOrder (roots : List Path) : Prop :=
  roots.Pairwise fun first second => second.toString.length <= first.toString.length

lemma inOrder_insert (roots : List Path) (path : Path) : InOrder (insert roots path) := by
  have byLength (a b : Path) : decide (b.toString.length <= a.toString.length) = true ↔
      OrderDual.toDual a.toString.length <= OrderDual.toDual b.toString.length := decide_eq_true_iff
  exact Sorting.ordered_pairwise byLength (roots ++ [path])

variable {roots : List Path} {src : Path}

lemma mem_insert {path root : Path} : root ∈ insert roots path ↔ root ∈ roots \/ root = path := by
  rw [insert, byLength, Sorting.mem_ordered, mem_append, mem_singleton]

lemma execute_add (path : Path) (w : Workspace) : (add path).execute w =
      (.ok (), { w with session := { w.session with roots := insert w.session.roots path } }) :=
  execute_note _ w

lemma execute_addAll (paths : List Path) (w : Workspace) : ∃ roots, (paths.forM add).execute w =
        (.ok (), { w with session := { w.session with roots := roots } }) /\
      (paths ≠ [] \/ InOrder w.session.roots -> InOrder roots) /\
      ∀ root, root ∈ roots ↔ root ∈ w.session.roots \/ root ∈ paths := by
  induction paths generalizing w with
  | nil => exact ⟨w.session.roots, rfl, fun either => either.resolve_left (absurd rfl), by simp⟩
  | cons path rest ih =>
    rcases ih { w with session := { w.session with roots := insert w.session.roots path } } with ⟨roots, ran, inOrder, mem_roots⟩
    refine ⟨roots, (bind_ok (execute_add path w)).trans ran, ?_, fun root => ?_⟩
    · exact fun _ => inOrder (.inr (inOrder_insert w.session.roots path))
    · rw [mem_roots, mem_insert, mem_cons, or_assoc]

lemma relativize?_self (inOrder : InOrder roots) (tracked : src ∈ roots) (proper : src.Proper) (deep : 2 <= src.names.length) :
    relativize? roots src = some Path.here := by
  induction roots with
  | nil => cases tracked
  | cons root rest ih =>
    rcases pairwise_cons.mp inOrder with ⟨longest, restInOrder⟩
    rw [relativize?, List.findSome?_cons]
    by_cases same : root = src
    · rw [same, show src.relativeTo? src = some Path.here from Path.relativeTo?_append rfl (append_nil src.names).symm]
    · have later : src ∈ rest := (mem_cons.mp tracked).resolve_left (Ne.symm same)
      cases seen : src.relativeTo? root with
      | none => exact ih restInOrder later
      | some relative =>
        have shorter := Path.length_toString_above proper deep (by rw [Path.isBelow, seen]; rfl) same
        exact absurd (longest src later) (Nat.not_le.mpr shorter)

lemma relativize?_below (inOrder : InOrder roots) (tracked : src ∈ roots) (proper : src.Proper) (deep : 2 <= src.names.length)
    (noneBelow : ∀ root ∈ roots, root.isBelow src = true -> root = src) (more : List String) :
    relativize? roots ⟨src.anchor, src.names ++ more⟩ = some ⟨.relative, more⟩ := by
  have itself : src.isBelow src = true :=
    Path.isBelow_append rfl (append_nil src.names).symm
  have rooted : Rooted roots src := ⟨⟨src, tracked, itself⟩, noneBelow⟩
  rcases rooted.relativize? with ⟨lead, sees⟩
  have general := sees []
  rw [append_nil, append_nil, relativize?_self inOrder tracked proper deep] at general
  have nothing : [] = lead := congrArg Path.names (Option.some.inj general)
  rw [sees more, <- nothing, nil_append]

end Roots
end Refinery
