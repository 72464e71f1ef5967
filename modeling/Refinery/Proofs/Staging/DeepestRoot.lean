import Refinery.Proofs.Staging.OwnRoot

namespace Refinery.Roots

open List

/-!
# The deepest root

A path is seen from the first tracked root above it, and roots are kept by falling length.  Of two roots above
one path, the deeper has the longer text; only the working directory, with a text of one character, spoils
this.
-/

variable {path root other relative : Path} {roots : List Path}

/-- A tracked root that the components of a path begin with, and the one with the most components. -/
structure Deepest (roots : List Path) (path root : Path) : Prop where
  tracked : root ∈ roots
  above : root.parts <+: path.parts
  deepest : ∀ other ∈ roots, other.parts <+: path.parts -> other.parts.length <= root.parts.length

/-! ## Components -/

lemma parts_append {anchor : Anchor} (names more : List String) :
    (Path.mk anchor (names ++ more)).parts = (Path.mk anchor names).parts ++ more := by
  cases anchor <;> rfl

lemma parts_of_relativeTo? (seen : path.relativeTo? root = some relative) :
    path.parts = root.parts ++ relative.parts /\ relative.isAbsolute = false := by
  obtain ⟨anchors, more, names, rfl⟩ := Path.relativeTo?_eq_some_iff.mp seen
  refine ⟨?_, rfl⟩
  obtain ⟨anchor, _⟩ := path
  cases anchors
  cases names
  exact parts_append root.names more

lemma anchor_of_head (proper : path.Proper) {first : String} (head : path.parts.head? = some first) :
    path.anchor = if IsName first then .relative else if first = "/" then .slash else .doubleSlash := by
  rcases path with ⟨_ | _ | _, names⟩
  · rw [if_pos (proper first (mem_of_mem_head? head))]
  · obtain rfl : "/" = first := Option.some.inj head
    change Anchor.slash = _
    decide
  · obtain rfl : "//" = first := Option.some.inj head
    change Anchor.doubleSlash = _
    decide

lemma relativeTo?_of_parts (proper : path.Proper) (rootProper : root.Proper) (named : root ≠ Path.here)
    (isRelative : relative.isAbsolute = false) (parts : path.parts = root.parts ++ relative.parts) :
    path.relativeTo? root = some relative := by
  have anchors : path.anchor = root.anchor := by
    cases components : root.parts with
    | nil =>
      refine absurd ?_ named
      rcases root with ⟨_ | _ | _, names⟩
      · exact congrArg _ (show names = [] from components)
      · cases components
      · cases components
    | cons first rest =>
      have head : root.parts.head? = some first := by rw [components]; rfl
      have same : path.parts.head? = some first := by rw [parts, components]; rfl
      rw [anchor_of_head proper same, anchor_of_head rootProper head]
  obtain ⟨anchor, names⟩ := path
  rcases relative with ⟨_ | _ | _, more⟩
  · cases anchors
    refine Path.relativeTo?_eq_some_iff.mpr ⟨rfl, more, ?_, rfl⟩
    rcases root with ⟨_ | _ | _, rootNames⟩
    · exact parts
    · exact (List.cons.inj parts).2
    · exact (List.cons.inj parts).2
  · cases isRelative
  · cases isRelative

lemma above_iff (proper : path.Proper) (rootProper : root.Proper) (named : root ≠ Path.here) :
    root.parts <+: path.parts ↔ path.isBelow root = true := by
  rw [Path.isBelow, Option.isSome_iff_exists]
  constructor
  · rintro ⟨more, parts⟩
    exact ⟨⟨.relative, more⟩, relativeTo?_of_parts proper rootProper named rfl parts.symm⟩
  · rintro ⟨relative, seen⟩
    exact ⟨relative.parts, (parts_of_relativeTo? seen).1.symm⟩

/-! ## Length and depth -/

lemma length_lt_of_deeper (otherProper : other.Proper) (named : root ≠ Path.here)
    (below : other.isBelow root = true) (deeper : root.parts.length < other.parts.length) :
    root.toString.length < other.toString.length := by
  obtain ⟨relative, seen⟩ := Option.isSome_iff_exists.mp below
  have whole := (parts_of_relativeTo? seen).1
  obtain ⟨anchors, more, names, rfl⟩ := Path.relativeTo?_eq_some_iff.mp seen
  have further : more ≠ [] := by
    rintro rfl
    rw [whole] at deeper
    simp [Path.parts, Path.isAbsolute] at deeper
  obtain ⟨anchor, above⟩ := root
  obtain ⟨_, _⟩ := other
  cases anchors
  cases names
  by_cases empty : above = []
  · subst empty
    obtain ⟨name, rest, rfl⟩ := exists_cons_of_ne_nil further
    have long := Path.length_pos (otherProper name mem_cons_self)
    have first : (Path.mk anchor []).toString.length < (Path.mk anchor [name]).toString.length := by
      cases anchor with
      | relative => exact absurd rfl named
      | slash =>
        change 1 < ("/" ++ name).length
        rw [String.length_append]
        exact Nat.lt_add_of_pos_right long
      | doubleSlash =>
        change 2 < ("//" ++ name).length
        rw [String.length_append]
        exact Nat.lt_add_of_pos_right long
    by_cases last : rest = []
    · subst last
      exact first
    · exact first.trans (Path.length_toString_append anchor (cons_ne_nil name []) last)
  · exact Path.length_toString_append anchor empty further

lemma isBelow_of_shorter (rootProper : root.Proper) (named : root ≠ Path.here)
    (otherProper : other.Proper) (above : root.parts <+: path.parts) (alsoAbove : other.parts <+: path.parts)
    (deeper : root.parts.length < other.parts.length) : other.isBelow root = true :=
  (above_iff otherProper rootProper named).mp (prefix_of_prefix_length_le above alsoAbove deeper.le)

/-! ## What a path is seen from -/

def Measured (roots : List Path) : Prop :=
  ∀ root ∈ roots, root.Proper /\ root ≠ Path.here

lemma relativize?_eq_none_iff (measured : Measured roots) (proper : path.Proper) :
    relativize? roots path = none ↔ ∀ root ∈ roots, ¬ root.parts <+: path.parts := by
  rw [relativize?, List.findSome?_eq_none_iff]
  refine forall₂_congr fun root mem => ?_
  rw [above_iff proper (measured root mem).1 (measured root mem).2, Path.isBelow, Option.not_isSome_iff_eq_none]

lemma relativize?_eq_some_iff (inOrder : InOrder roots) (measured : Measured roots) (proper : path.Proper) :
    relativize? roots path = some relative ↔ ∃ root, Deepest roots path root /\
      path.parts = root.parts ++ relative.parts /\ relative.isAbsolute = false := by
  have sound {found : Path} (sees : relativize? roots path = some found) : ∃ root,
      Deepest roots path root /\ path.parts = root.parts ++ found.parts /\ found.isAbsolute = false := by
    obtain ⟨before, root, after, rfl, seen, notBefore⟩ := List.findSome?_eq_some_iff.mp sees
    have parts := parts_of_relativeTo? seen
    have mem : root ∈ before ++ root :: after := by simp
    have above : root.parts <+: path.parts := ⟨found.parts, parts.1.symm⟩
    refine ⟨root, ⟨mem, above, fun other tracked alsoAbove => ?_⟩, parts⟩
    rcases mem_append.mp tracked with early | late
    · have below := (above_iff proper (measured other tracked).1 (measured other tracked).2).mp alsoAbove
      rw [Path.isBelow, notBefore other early] at below
      cases below
    · rcases mem_cons.mp late with rfl | later
      · exact Nat.le_refl _
      · by_contra deeper
        have shorter := length_lt_of_deeper (measured other tracked).1 (measured root mem).2
          (isBelow_of_shorter (measured root mem).1 (measured root mem).2
            (measured other tracked).1 above alsoAbove (Nat.lt_of_not_le deeper))
          (Nat.lt_of_not_le deeper)
        have longest := (pairwise_cons.mp (pairwise_append.mp inOrder).2.1).1 other later
        exact absurd longest (Nat.not_le.mpr shorter)
  refine ⟨sound, ?_⟩
  rintro ⟨root, isDeepest, parts, isRelative⟩
  cases sees : relativize? roots path with
  | none =>
    exact absurd isDeepest.above ((relativize?_eq_none_iff measured proper).mp sees root isDeepest.tracked)
  | some found =>
    obtain ⟨first, firstDeepest, firstParts, foundRelative⟩ := sound sees
    have depth : first.parts.length = root.parts.length :=
      Nat.le_antisymm (isDeepest.deepest first firstDeepest.tracked firstDeepest.above)
        (firstDeepest.deepest root isDeepest.tracked isDeepest.above)
    have rest := (append_inj (firstParts.symm.trans parts) depth).2
    rcases found with ⟨_ | _ | _, foundNames⟩ <;> rcases relative with ⟨_ | _ | _, names⟩ <;>
      simp_all [Path.parts, Path.isAbsolute]

/-- Track the paths of texts. -/
def addTexts (texts : List String) : Job Unit :=
  (texts.map Path.ofString).forM add

lemma execute_addTexts {w : Workspace} {texts : List String} (fresh : w.session.roots = [])
    (named : ∀ text ∈ texts, Path.ofString text ≠ Path.here) :
    ∃ roots v, (addTexts texts).execute w = (.ok (), v) /\ v.session.roots = roots /\
      InOrder roots /\ Measured roots /\ ∀ root, root ∈ roots ↔ root ∈ texts.map Path.ofString := by
  obtain ⟨roots, ran, inOrder, members⟩ := execute_addAll (texts.map Path.ofString) w
  rw [fresh] at inOrder members
  have members : ∀ root, root ∈ roots ↔ root ∈ texts.map Path.ofString := by simpa using members
  refine ⟨roots, _, ran, rfl, inOrder (.inr List.Pairwise.nil), fun root mem => ?_, members⟩
  obtain ⟨text, inside, rfl⟩ := mem_map.mp ((members root).mp mem)
  exact ⟨Path.proper_ofString text, named text inside⟩

lemma Deepest.congr {others : List Path} (same : ∀ root, root ∈ roots ↔ root ∈ others)
    (isDeepest : Deepest roots path root) : Deepest others path root :=
  ⟨(same root).mp isDeepest.tracked, isDeepest.above, fun other mem => isDeepest.deepest other ((same other).mpr mem)⟩

/-- **A path is seen from the deepest root above it.**  The answer is the rest of the path behind the tracked
root with the most components of those that it begins with, and there is none exactly if it begins with none.
So neither the order nor the repetition of roots matters. -/
theorem relativize_deepest (w : Workspace) (texts : List String) (fresh : w.session.roots = [])
    (named : ∀ text, text ∈ texts -> Path.ofString text ≠ Path.here) :
    ∃ v, (addTexts texts).execute w = (.ok (), v) /\
      (∀ text relative, (relativize (Path.ofString text)).execute v = (.ok relative, v) ↔
        ∃ root, Deepest (texts.map Path.ofString) (Path.ofString text) root /\
          (Path.ofString text).parts = root.parts ++ relative.parts /\ relative.isAbsolute = false) /\
      (∀ text, (relativize (Path.ofString text)).execute v =
          (.error (.complaint (.untracked (Path.ofString text))), v) ↔
        ∀ root, root ∈ texts.map Path.ofString -> ¬ root.parts <+: (Path.ofString text).parts) /\
      ∀ others : List String, (∀ text, text ∈ others ↔ text ∈ texts) ->
        ∃ u, (addTexts others).execute w = (.ok (), u) /\ ∀ text, ((relativize (Path.ofString text)).execute u).1 =
            ((relativize (Path.ofString text)).execute v).1 := by
  rcases execute_addTexts fresh named with ⟨roots, v, ran, here, inOrder, measured, members⟩
  have deepest (path root : Path) : Deepest roots path root ↔ Deepest (texts.map Path.ofString) path root :=
    ⟨.congr members, .congr fun root => (members root).symm⟩
  refine ⟨v, ran, fun text relative => ?_, fun text => ?_, fun others same => ?_⟩
  · simp only [<- deepest]
    rw [<- relativize?_eq_some_iff inOrder measured (Path.proper_ofString text), execute_relativize_eq, here]
    cases relativize? roots (Path.ofString text) <;> simp
  · have none := relativize?_eq_none_iff measured (Path.proper_ofString text)
    simp only [members] at none
    rw [<- none, execute_relativize_eq, here]
    cases relativize? roots (Path.ofString text) <;> simp
  · rcases execute_addTexts fresh fun text member => named text ((same text).mp member) with
      ⟨again, u, ranAgain, there, againInOrder, againMeasured, both⟩
    have sameRoots (root : Path) : root ∈ again ↔ root ∈ roots := by
      simp only [both, members, List.mem_map, same]
    refine ⟨u, ranAgain, fun text => ?_⟩
    have sameAnswer : relativize? again (Path.ofString text) = relativize? roots (Path.ofString text) := by
      apply Option.ext
      intro relative
      rw [relativize?_eq_some_iff againInOrder againMeasured (Path.proper_ofString text),
        relativize?_eq_some_iff inOrder measured (Path.proper_ofString text)]
      exact exists_congr fun root => and_congr_left fun _ =>
        ⟨.congr sameRoots, .congr fun root => (sameRoots root).symm⟩
    rw [execute_relativize_eq, execute_relativize_eq, here, there, sameAnswer]

def similarRoots : List String :=
  ["out", "out/v10/library", "/", "out/v1", "out"]

set_option maxRecDepth 10000 in
/-- A longer root beside the path does not hide the one above it. -/
theorem similarRoots_deepest : (∀ text ∈ similarRoots, Path.ofString text ≠ Path.here) /\
      ∃ v, (addTexts similarRoots).execute default = (.ok (), v) /\
        (relativize (Path.ofString "out/v1/a.txt")).execute v = (.ok (Path.ofString "a.txt"), v) /\
        (relativize (Path.ofString "out/v11")).execute v = (.ok (Path.ofString "v11"), v) /\
        (relativize (Path.ofString "v1/a.txt")).execute v = (.error (.complaint (.untracked (Path.ofString "v1/a.txt"))), v) := by
  have named : ∀ text ∈ similarRoots, Path.ofString text ≠ Path.here := by decide
  rcases relativize_deepest default similarRoots rfl named with ⟨v, ran, sees, refuses, -⟩
  refine ⟨named, v, ran, (sees _ _).mpr ⟨Path.ofString "out/v1", ⟨?_, ?_, ?_⟩, ?_⟩,
    (sees _ _).mpr ⟨Path.ofString "out", ⟨?_, ?_, ?_⟩, ?_⟩, (refuses _).mpr ?_⟩ <;> decide

end Refinery.Roots
