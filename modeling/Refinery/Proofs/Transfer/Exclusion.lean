import Refinery.Proofs.Transfer.Moving
import Refinery.Proofs.Workspace.Rewriting

namespace Refinery

open List Job Roots

/-!
# Exclusions below a rooted source

Where a source has a root above it and none strictly below, all paths below it are seen from that root.  So a
file is left out exactly if it, or its directory, is selected by the patterns.
-/

namespace Path

lemma relativeTo?_eq_some_iff {path base relative : Path} : path.relativeTo? base = some relative ↔
      path.anchor = base.anchor /\ ∃ more, path.names = base.names ++ more /\ relative = ⟨.relative, more⟩ := by
  rw [relativeTo?]
  constructor
  · intro seen
    split at seen
    next below =>
      obtain ⟨anchors, start⟩ := Bool.and_eq_true_iff.mp below
      obtain ⟨more, parts⟩ := isPrefixOf_iff_prefix.mp start
      refine ⟨of_decide_eq_true anchors, more, parts.symm, ?_⟩
      cases seen
      rw [<- parts, drop_left]
    · cases seen
  · rintro ⟨anchors, more, parts, rfl⟩
    rw [if_pos]
    · rw [parts, drop_left]
    · rw [parts]
      simp [anchors]

lemma relativeTo?_append {path base : Path} {more : List String} (anchors : path.anchor = base.anchor)
    (parts : path.names = base.names ++ more) : path.relativeTo? base = some ⟨.relative, more⟩ :=
  relativeTo?_eq_some_iff.mpr ⟨anchors, more, parts, rfl⟩

lemma isBelow_append {path base : Path} {more : List String} (anchors : path.anchor = base.anchor)
    (parts : path.names = base.names ++ more) : path.isBelow base = true := by
  rw [isBelow, relativeTo?_append anchors parts]
  rfl

end Path

namespace Roots

/-- A source at or below a root, with no root strictly below it. -/
structure Rooted (roots : List Path) (source : Path) : Prop where
  above : ∃ root, root ∈ roots /\ source.isBelow root = true
  noneBelow : ∀ root ∈ roots, root.isBelow source = true -> root = source

instance (roots : List Path) (source : Path) : Decidable (Rooted roots source) :=
  decidable_of_iff ((∃ root ∈ roots, source.isBelow root = true) /\ ∀ root ∈ roots, root.isBelow source = true → root = source)
    ⟨fun facts => ⟨facts.1, facts.2⟩, fun rooted => ⟨rooted.above, rooted.noneBelow⟩⟩

private lemma relativeTo?_eq_none {root src : Path} (more : List String)
    (noneBelow : root.isBelow src = true -> root = src) (apart : src.isBelow root = false) :
    (Path.mk src.anchor (src.names ++ more)).relativeTo? root = none := by
  cases seen : (Path.mk src.anchor (src.names ++ more)).relativeTo? root with
  | none => rfl
  | some relative =>
    obtain ⟨anchors, rest, parts, _⟩ := Path.relativeTo?_eq_some_iff.mp seen
    have impossible : src.isBelow root = true := by
      rcases append_eq_append_iff.mp parts with ⟨extra, rootParts, _⟩ | ⟨extra, sourceParts, _⟩
      · rw [noneBelow (Path.isBelow_append anchors.symm rootParts)]
        exact Path.isBelow_append rfl (append_nil src.names).symm
      · exact Path.isBelow_append anchors sourceParts
    rw [apart] at impossible
    cases impossible

lemma Rooted.relativize? {roots : List Path} {src : Path} (rooted : Rooted roots src) : ∃ lead, ∀ more,
      relativize? roots ⟨src.anchor, src.names ++ more⟩ = some ⟨.relative, lead ++ more⟩ := by
  induction roots with
  | nil =>
    obtain ⟨root, mem, _⟩ := rooted.above
    cases mem
  | cons root rest ih =>
    cases seen : src.relativeTo? root with
    | some relative =>
      obtain ⟨anchors, lead, parts, _⟩ := Path.relativeTo?_eq_some_iff.mp seen
      refine ⟨lead, fun more => ?_⟩
      have further : (Path.mk src.anchor (src.names ++ more)).relativeTo? root =
          some ⟨.relative, lead ++ more⟩ := Path.relativeTo?_append anchors (by simp [parts])
      rw [Roots.relativize?, List.findSome?_cons, further]
    | none =>
      have apart : src.isBelow root = false := by
        rw [Path.isBelow, seen]
        rfl
      have onward : Rooted rest src := by
        refine ⟨?_, fun other mem => rooted.noneBelow other (mem_cons_of_mem root mem)⟩
        obtain ⟨other, mem, below⟩ := rooted.above
        rcases mem_cons.mp mem with rfl | later
        · rw [apart] at below
          cases below
        · exact ⟨other, later, below⟩
      obtain ⟨lead, sees⟩ := ih onward
      refine ⟨lead, fun more => ?_⟩
      rw [Roots.relativize?, List.findSome?_cons, relativeTo?_eq_none more (rooted.noneBelow root mem_cons_self) apart]
      exact sees more

lemma execute_relativize {w : Workspace} {path relative : Path}
    (seen : relativize? w.session.roots path = some relative) : (relativize path).execute w = (.ok relative, w) := by
  rw [execute_relativize_eq, seen]
  rfl

end Roots

namespace Transfer

variable {w : Workspace} {src : Path} {lead : List String} {choices : List Choice} {found : List Path}

/-- A path below a source as it is seen from the root, where the source is seen by `lead`. -/
def fromRoot (source : Path) (lead : List String) (path : Path) : Path :=
  ⟨.relative, lead ++ path.names.drop source.names.length⟩

lemma fromRoot_append (src : Path) (lead more : List String) :
    fromRoot src lead ⟨src.anchor, src.names ++ more⟩ = ⟨.relative, lead ++ more⟩ := by
  rw [fromRoot, drop_left]

lemma mem_map_fromRoot (below : ∀ path ∈ found, src.Under path) (more : List String) :
    (Path.mk .relative (lead ++ more)) ∈ found.map (fromRoot src lead) ↔ Path.mk src.anchor (src.names ++ more) ∈ found := by
  constructor
  · intro mem
    obtain ⟨path, inside, seen⟩ := mem_map.mp mem
    obtain ⟨names, _, rfl⟩ := below path inside
    rw [fromRoot_append] at seen
    have same : names = more := append_cancel_left (congrArg Path.names seen)
    rwa [<- same]
  · intro mem
    rw [<- fromRoot_append src lead more]
    exact mem_map_of_mem mem

lemma execute_isExcluded (skips : List Path) {dir file seenDirectory seenFile : Path}
    (directorySeen : relativize? w.session.roots dir = some seenDirectory)
    (fileSeen : relativize? w.session.roots file = some seenFile) : (isExcluded skips dir file).execute w =
      (.ok (decide (seenDirectory ∈ skips \/ seenFile ∈ skips)), w) := by
  let answer (found : Bool) (exclude : Path) : Bool :=
    if exclude = seenDirectory then true else if exclude = seenFile then true else found
  have folded : ∀ (skips : List Path) (found : Bool), skips.foldl answer found =
      (found || decide (seenDirectory ∈ skips \/ seenFile ∈ skips)) := by
    intro skips
    induction skips with
    | nil => simp
    | cons exclude rest ih =>
      intro found
      rw [foldl_cons, ih]
      by_cases isDirectory : exclude = seenDirectory
      · simp [answer, isDirectory]
      · by_cases isFile : exclude = seenFile
        · simp [answer, isFile]
        · simp [answer, isDirectory, isFile, Ne.symm isDirectory, Ne.symm isFile]
  rw [isExcluded, execute_foldlM _ answer w skips false, folded, Bool.false_or]
  intro found exclude _
  rw [bind_ok (execute_relativize directorySeen)]
  by_cases isDirectory : exclude = seenDirectory
  · simp [answer, isDirectory]
  · rw [if_neg isDirectory, bind_ok (execute_relativize fileSeen)]
    by_cases isFile : exclude = seenFile
    · simp [answer, isFile]
    · simp [answer, isDirectory, isFile]

lemma exclusions_of_yields (sound : w.Sound)
    (yields : Yields w (fun visit state => (Selection.many choices).fold src visit state) found none)
    (below : ∀ path ∈ found, src.Under path) (sees : ∀ more, relativize? w.session.roots ⟨src.anchor, src.names ++ more⟩ =
      some ⟨.relative, lead ++ more⟩) : ((Selection.many choices).paths src).execute w = (.ok found, w) /\
      (exclusionsAt (.many choices) src).execute w = (.ok (found.map (fromRoot src lead)), w) := by
  refine ⟨Selection.execute_paths sound yields, ?_⟩
  have looks : Keeps w (fun (known : List Path) path => do return (<- relativize path) :: known) := by
    intro known path v rewritten
    rwa [((FileJob.relativize path).bind fun _ => .pure _).idle rfl v]
  have visited := yields.runs looks [] (.refl sound)
  rw [bind_ok (execute_foldlM _ (fun known path => fromRoot src lead path :: known) w found [] fun known path mem => ?_)] at visited
  · rw [exclusionsAt]
    cases nothing : selectsNothing (.many choices) with
    | true =>
      have none : choices = [] := List.isEmpty_iff.mp nothing
      subst none
      have empty := Selection.execute_paths sound yields
      cases empty
      rfl
    | false =>
      rw [if_neg Bool.false_ne_true, bind_ok visited, foldl_flip_cons_eq_append]
      simp
  · rcases below path mem with ⟨names, _, rfl⟩
    rw [bind_ok (execute_relativize (sees names)), fromRoot_append]
    rfl

lemma exists_exclusions (sound : w.Sound) (proper : src.Proper) (dir : w.isDirectory src = true) (tame : TameChoices choices)
    (sees : ∀ more, relativize? w.session.roots ⟨src.anchor, src.names ++ more⟩ =
      some ⟨.relative, lead ++ more⟩) : ∃ found, (∀ path ∈ found, src.Under path) /\
      ((Selection.many choices).paths src).execute w = (.ok found, w) /\
      (exclusionsAt (.many choices) src).execute w = (.ok (found.map (fromRoot src lead)), w) := by
  obtain ⟨found, err, yields, holds⟩ := Selection.fold_ordered w src choices
  rcases holds ⟨⟨sound, proper, .refl src, dir⟩, tame⟩ with ⟨rfl, below⟩
  exact ⟨found, below, exclusions_of_yields sound yields below sees⟩

lemma execute_move_rooted (sound : w.Sound) (given : Given w src) {target : Path}
    (seen : relativize? w.session.roots src = some target) {skips : Selection}
    {patterns : List String} (noted : notedPatterns skips = .ok patterns) (merge : Option Merge) :
    (move (.many [.path src]) none skips merge).execute w = (move (.many [.path src]) (some target) skips merge).execute w := by
  have all : ∀ each ∈ [src], Given w each := by
    intro each mem
    rwa [mem_singleton.mp mem]
  have toward := fun dest => execute_move_noted sound dest noted merge [src] all
  simp only [map_singleton] at toward
  have seenNoted : relativize? (w.noting patterns).session.roots src = some target := seen
  have step : (moveOne none merge (false, skips) src).execute (w.noting patterns) =
      (moveOne (some target) merge (false, skips) src).execute (w.noting patterns) :=
    bind_ok (execute_relativize seenNoted)
  rw [toward none, toward (some target), execute_moveFrom_cons, execute_moveFrom_cons, step]
  rfl

/-! ## Files that are selected themselves -/

section File

variable {σ : Type} {v : Workspace}

lemma fold_below_file (file : w.isDirectory src = false) {pattern : String} {visit : σ -> Path -> Job σ} {state result : σ}
    (ran : (Glob.fold src pattern visit state).execute w = (.ok result, v)) : result = state /\ v = w := by
  obtain ⟨glob, u, read, onward⟩ := of_bind_ok ran
  rw [execute_ofExcept, Prod.mk.injEq] at read
  obtain ⟨_, rfl⟩ := read
  rw [bind_ok (execute_isDirectory _ w), file] at onward
  cases onward
  exact ⟨rfl, rfl⟩

lemma foldSelection_below_file (file : w.isDirectory src = false)
    (relative : ∀ path, .path path ∈ choices -> path.isAbsolute = false) {visit : σ -> Path -> Job σ} {state result : σ}
    (ran : ((Selection.many choices).fold src visit state).execute w = (.ok result, v)) : result = state := by
  induction choices generalizing state with
  | nil =>
    cases ran
    rfl
  | cons choice rest ih =>
    rw [Selection.fold, Selection.choices, foldlM_cons] at ran
    obtain ⟨next, u, first, later⟩ := of_bind_ok ran
    have passed : next = state /\ u = w := by
      cases choice with
      | text pattern => exact fold_below_file file first
      | path path =>
        rw [Choice.fold, relative path mem_cons_self, if_neg Bool.false_ne_true] at first
        exact fold_below_file file first
    obtain ⟨rfl, rfl⟩ := passed
    exact ih (fun path mem => relative path (mem_cons_of_mem choice mem)) later

end File

/-- Patterns are looked up below the file that was selected itself, where nothing is: it is left out only by
an absolute pattern that finds a path which is seen as the file was given. -/
theorem file_exclusions {choices : List Choice} {found : List Path} (sound : w.Sound)
    (given : Given w source) (file : w.isDirectory source = false)
    (looked : (exclusionsAt (.many choices) source).execute w = (.ok found, w)) (destination : Path)
    (merge : Option Merge) :
    (move (.many [.path source]) (some destination) (.many choices) merge).execute w =
        (if source ∈ found then pure false else do placeFile source destination merge; return true :
          Job Bool).execute (w.noting (choices.map Choice.text')) /\
      (∀ copied, (moveOne (some destination) merge (copied, .many choices) source).execute w =
        (if source ∈ found then pure (copied, .ofPaths found)
          else do placeFile source destination merge; return (true, .ofPaths found) :
          Job (Bool × Selection)).execute w) /\
      ((∀ path, .path path ∈ choices -> path.isAbsolute = false) -> found = []) := by
  refine ⟨?_, fun copied => ?_, fun relative => ?_⟩
  · have noted : (w.noting (choices.map Choice.text')).isDirectory source = false := file
    rw [execute_move_one sound given destination rfl looked merge]
    exact execute_copyOne_file noted destination merge false found
  · rw [execute_moveOne, looked]
    dsimp only
    rw [execute_copyOne_file file]
    by_cases leftOut : source ∈ found
    · rw [if_pos leftOut, if_pos leftOut]
      rfl
    · rw [if_neg leftOut, if_neg leftOut, execute_bind, execute_bind]
      rcases (placeFile source destination merge).execute w with ⟨outcome, after⟩
      cases outcome <;> rfl
  · rw [exclusionsAt] at looked
    cases nothing : selectsNothing (.many choices) with
    | true =>
      rw [nothing, if_pos rfl] at looked
      cases looked
      rfl
    | false =>
      rw [nothing, if_neg Bool.false_ne_true] at looked
      rcases of_bind_ok looked with ⟨known, v, folded, reversed⟩
      cases foldSelection_below_file file relative folded
      cases reversed
      rfl

def trackedFile : Workspace where
  tree := ⟨[(["w"], .directory), (["w", "t"], .directory), (["w", "t", "a"], .file { content := "1".toUTF8 })]⟩
  directory := ["w"]
  session := { roots := [⟨.relative, ["t"]⟩] }

theorem trackedFile_exclusions : trackedFile.Sound /\ Given trackedFile ⟨.relative, ["t", "a"]⟩ /\
      trackedFile.isDirectory (Path.mk .relative ["t", "a"]) = false /\
      (exclusionsAt (.many [.text "a"]) ⟨.relative, ["t", "a"]⟩).execute trackedFile = (.ok [], trackedFile) /\
      (move (.many [.path ⟨.relative, ["t", "a"]⟩]) (some ⟨.relative, ["out"]⟩) (.many [.text "a"])).execute trackedFile =
        (do placeFile ⟨.relative, ["t", "a"]⟩ ⟨.relative, ["out"]⟩ none; return true :
          Job Bool).execute (trackedFile.noting ["a"]) := by
  have sound : trackedFile.Sound := by decide
  have given : Given trackedFile ⟨.relative, ["t", "a"]⟩ := by decide
  have file : trackedFile.isDirectory (Path.mk .relative ["t", "a"]) = false := by decide
  have looked : (exclusionsAt (.many [.text "a"]) ⟨.relative, ["t", "a"]⟩).execute trackedFile = (.ok [], trackedFile) := rfl
  have moved := (file_exclusions sound given file looked ⟨.relative, ["out"]⟩ none).1
  rw [if_neg List.not_mem_nil] at moved
  exact ⟨sound, given, file, looked, moved⟩

set_option maxRecDepth 100000 in
/-- A file is copied although its path is excluded, whether it was given itself or found by a pattern. -/
theorem trackedFile_copied : relativize? trackedFile.session.roots ⟨.relative, ["t", "a"]⟩ = some ⟨.relative, ["a"]⟩ /\
      ∀ source, source ∈ [Choice.path ⟨.relative, ["t", "a"]⟩, .path ⟨.relative, ["t", "*"]⟩] ->
        let moved := (move (.many [source]) (some ⟨.relative, ["out"]⟩) (.many [.text "a"])).execute trackedFile
        moved.1.toOption = some true /\ moved.2.textAt ["w", "out"] = some "1" := by
  decide +kernel

end Transfer
end Refinery
