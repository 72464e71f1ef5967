import Refinery.Distribution.Postprocess
import Refinery.Proofs.Staging.Loops

namespace Refinery

open List Job Workspace Transfer Refinery.Tree Refinery.Distribution
namespace Staging

/-!
# The default version wins

Both ways of finishing a repository copy the staged versions over it and remove the staging directory.
-/

variable {w now : Workspace} {skips : List Path} {previous : List String -> Option FileNode}

/-- What the repository has once the staging directory is gone: of every file that is not excluded
the one of the default version, else that of the last version in order, else the previous one. -/
structure Overlaid (w : Workspace) (default : String) (excludes : List Path)
    (previous : List String -> Option FileNode) (after : Workspace) : Prop where
  files : ∀ rest, rest.head? ≠ some "owl-bot-staging" -> after.tree.file? (w.directory ++ rest) =
      if Path.mk .relative rest ∈ excludes then previous rest
      else (w.tree.file? (home w default ++ rest)).or
        (((others w default).reverse.findSome? fun version => w.tree.file? (home w version ++ rest)).or (previous rest))
  gone : ∀ rest, after.tree.get? (base w ++ rest) = none

lemma Laid.overlaid {default : String} (laid : Laid w skips previous (others w default ++ [default]) now) :
    Overlaid w default skips previous { now with tree := now.tree.prune (base w) } where
  files rest head := by
    have aside : ¬ base w <+: w.directory ++ rest := by
      rw [base, prefix_append_right_inj]
      rintro ⟨more, rfl⟩
      exact head rfl
    have kept : (now.tree.prune (base w)).get? (w.directory ++ rest) = now.tree.get? (w.directory ++ rest) := by
      rw [get?_prune (by simp [base]), if_neg aside]
    rw [file?_congr kept, laid.files rest head, topmost]
    simp only [reverse_append, reverse_singleton, singleton_append, List.findSome?_cons]
    cases w.tree.file? (home w default ++ rest) <;> simp
  gone rest := by
    rw [get?_prune (by simp [base]), if_pos (prefix_append _ rest)]

/-! ## Discarded samples -/

/-- Where samples were generated before. -/
def samples (w : Workspace) : Place :=
  w.directory ++ ["samples", "generated_samples"]

/-- The files of the repository once the generated samples are discarded. -/
def unsampled (w : Workspace) (rest : List String) : Option FileNode :=
  if w.tree.get? (samples w) = some .directory /\ ["samples", "generated_samples"] <+: rest then none
  else w.tree.file? (w.directory ++ rest)

lemma get?_discarded_samples (w : Workspace) (rest : List String) : (w.tree.discarded (samples w)).get? (w.directory ++ rest) =
      if w.tree.get? (samples w) = some .directory /\ ["samples", "generated_samples"] <+: rest then none
      else w.tree.get? (w.directory ++ rest) := by
  have below : samples w <+: w.directory ++ rest ↔ ["samples", "generated_samples"] <+: rest :=
    prefix_append_right_inj w.directory
  rw [get?_discarded (by simp [samples])]
  simp only [below]

lemma execute_discardSamples (sound : now.Sound)
    (noLink : ∀ target, now.tree.get? (now.directory ++ ["samples"]) ≠ some (.link target)) :
    (discardTree "samples/generated_samples").execute now =
      (.ok (), { now with tree := now.tree.discarded (samples now) }) := by
  have text : (Path.mk .relative ["samples", "generated_samples"]).toString = "samples/generated_samples" := by decide
  have named : ["samples", "generated_samples"] ≠ [] := by simp
  have plain : ∀ name ∈ ["samples", "generated_samples"], IsPlain name := by decide
  have noLinks : ∀ early, early <+: ["samples", "generated_samples"] -> early ≠ ["samples", "generated_samples"] ->
        ∀ target, now.tree.get? (now.directory ++ early) ≠ some (.link target) := by
    intro early inside short target linked
    rcases early with _ | ⟨first, _ | ⟨second, more⟩⟩
    · rw [append_nil, sound.standing] at linked
      cases linked
    · rw [(cons_prefix_cons.mp inside).1] at linked
      exact noLink target linked
    · exact short (inside.eq_of_length_le (by simp))
  have ran := execute_discardTree sound named plain noLinks
  exact ran

lemma sound_discarded (sound : w.Sound) (session : Session) :
    { w with session := session, tree := w.tree.discarded (samples w) : Workspace }.Sound := by
  have standing := get?_discarded_samples w []
  rw [append_nil, if_neg (by simp), sound.standing] at standing
  exact ⟨sound.tree.discarded (by simp [samples]), standing⟩

lemma get?_discarded_staging (w : Workspace) (rest : List String) :
    (w.tree.discarded (samples w)).get? (base w ++ rest) = w.tree.get? (base w ++ rest) := by
  have view := get?_discarded_samples w ("owl-bot-staging" :: rest)
  rw [if_neg fun dropped => absurd (cons_prefix_cons.mp dropped.2).1 (by decide)] at view
  rwa [base, append_assoc]

lemma Staged.laid_discarded (staged : Staged w skips) (session : Session) : Laid w skips (unsampled w) []
      { w with session := session, tree := w.tree.discarded (samples w) } where
  sound := sound_discarded staged.sound session
  directory := rfl
  script := rfl
  staged := get?_discarded_staging w
  layers rest node found := by
    have view := get?_discarded_samples w rest
    rw [found] at view
    split at view
    · cases view
    · exact ⟨w.directory, .inl rfl, view.symm⟩
  files rest _ := by
    have view := get?_discarded_samples w rest
    rw [topmost, reverse_nil, List.findSome?_nil, Option.none_or, ite_self, unsampled]
    by_cases dropped : w.tree.get? (samples w) = some .directory /\ ["samples", "generated_samples"] <+: rest
    · rw [if_pos dropped] at view ⊢
      exact file?_eq_none (.inl view)
    · rw [if_neg dropped] at view ⊢
      exact file?_congr view

end Staging

namespace Distribution

/-- What is staged is copied, and the staging directory is removed. -/
def collectStaged (version : String) (excludes : List String) : Job Unit := do
  let folders <- Staging.versions (some version)
  copyStaged folders (!folders.isEmpty) "samples/generated_samples" none excludes
  Staging.remove

end Distribution

namespace Staging

lemma Staged.execute_collectStaged (staged : Staged w skips) {default : String} (isVersion : Version w default)
    (noLink : ∀ target, w.tree.get? (w.directory ++ ["samples"]) ≠ some (.link target)) :
    ∃ after, (collectStaged default (skips.map Path.toString)).execute w =
      (.ok (), after) /\ Overlaid w default skips (unsampled w) after := by
  obtain ⟨roots, found, inOrder, mem_roots⟩ := staged.execute_versions isVersion.plain.1
  let session : Session := { w.session with roots := roots }
  have laid := staged.laid_discarded session
  have tracks : Tracks w { w with session := session, tree := w.tree.discarded (samples w) } := by
    intro root mem
    rcases (mem_roots root).mp mem with before | new
    · exact .inl before
    · rcases mem_map.mp new with ⟨ver, _, rfl⟩
      exact .inr ⟨ver, rfl⟩
  have each := staged.all_versions isVersion
  rcases laid.execute_moveEach staged tracks inOrder (fun ver mem => (mem_roots _).mpr (.inr (mem_map_of_mem mem))) each with
    ⟨next, moved, laidNext⟩
  have discarded := execute_discardSamples (staged.laid.session session).sound noLink
  have same : Selection.many ((skips.map Path.toString).map .text) = patterns skips := by
    rw [map_map]
    rfl
  have copied : (copyStaged ((others w default ++ [default]).map folder)
      (!((others w default ++ [default]).map folder).isEmpty) "samples/generated_samples" none
        (skips.map Path.toString)).execute { w with session := session } = (.ok (), next) := by
    have brings : (!((others w default ++ [default]).map folder).isEmpty) = true := by simp
    rw [copyStaged, brings, same]
    exact (bind_ok discarded).trans moved
  have removed : Staging.remove.execute next = (.ok (), { next with tree := next.tree.prune (base w) }) := by
    rw [Staging.remove, bind_ok (execute_isDirectory _ next), (laidNext.leads_base staged).isDirectory]
    exact laidNext.execute_removeTree staged
  refine ⟨_, ?_, laidNext.overlaid⟩
  rw [collectStaged, bind_ok found, bind_ok copied, removed]

def sampled : Workspace where
  tree := ⟨[(["w"], .directory), (["w", "a"], .file { content := "0".toUTF8 }), (["w", "owl-bot-staging"], .directory),
    (["w", "owl-bot-staging", "v1"], .directory),
    (["w", "owl-bot-staging", "v1", "a"], .file { content := "1".toUTF8 }),
    (["w", "owl-bot-staging", "v2"], .directory),
    (["w", "owl-bot-staging", "v2", "a"], .file { content := "2".toUTF8 }),
    (["w", "owl-bot-staging", "v2", "b"], .file { content := "2".toUTF8 }),
    (["w", "samples"], .directory), (["w", "samples", "generated_samples"], .directory),
    (["w", "samples", "generated_samples", "old"], .file { content := "0".toUTF8 })]⟩
  directory := ["w"]

def bracketed : Workspace where
  tree := ⟨[(["w"], .directory), (["w", "owl-bot-staging"], .directory), (["w", "owl-bot-staging", "v[1]"], .directory),
    (["w", "owl-bot-staging", "v[1]", "a"], .file { content := "1".toUTF8 })]⟩
  directory := ["w"]

/-- A repository without a staged version: the staging directory has no directory, nothing goes by the name of
the default version, and no link is on the way there or above the samples. -/
structure Unstaged (w : Workspace) (default : String) : Prop where
  sound : w.Sound
  plain : IsPlain default
  tame : NamePattern.isWild default = false
  empty : ∀ name ∈ w.tree.list (base w), w.isDirectory (usual.child name) = false
  absent : w.tree.get? (home w default) = none
  noLink : ∀ name ∈ ["owl-bot-staging", "samples"], ∀ target, w.tree.get? (w.directory ++ [name]) ≠ some (.link target)

namespace Unstaged

variable {default : String}

lemma isDirectory_usual (unstaged : Unstaged w default) :
    w.isDirectory usual = decide (w.tree.get? (base w) = some .directory) := by
  have loc := locate_usual unstaged.sound true (unstaged.noLink _ (by simp))
  rw [Bool.eq_iff_iff, isDirectory_eq_true_iff, decide_eq_true_iff, Workspace.nodeAt?_of_locate (by rw [usual_eq]; decide) loc]

lemma execute_versions (unstaged : Unstaged w default) (standing : w.tree.get? (base w) = some .directory) :
    ∃ roots, (Staging.versions (some default)).execute w =
      (.ok [folder default], { w with session := { w.session with roots := roots } }) := by
  have leads := leads_usual unstaged.sound standing
  have dir : (isDirectory usual).execute w = (.ok true, w) := by
    rw [execute_isDirectory, leads.isDirectory]
  have listed : (list usual).execute w = (.ok (w.tree.list (base w)), w) := by
    rw [execute_list, list_of_locate leads.proper leads.located standing]
  have tested : ((w.tree.list (base w)).filterM fun name => isDirectory (usual.child name)).execute w = (.ok [], w) := by
    rw [execute_filterM _ (fun _ => false) w]
    · simp
    · intro name mem
      rw [execute_isDirectory, unstaged.empty name mem]
  have only : ((order [] (some default)).map fun name : String => (usual / name : Path)) = [folder default] := by
    rw [<- div_eq_folder unstaged.plain.1]
    rfl
  obtain ⟨roots, ran, _⟩ := Roots.execute_addAll [folder default] w
  refine ⟨roots, ?_⟩
  rw [Staging.versions, bind_ok dir]
  refine (bind_ok listed).trans ((bind_ok tested).trans ?_)
  rw [only, bind_ok ran]
  rfl

lemma execute_collectStaged (unstaged : Unstaged w default) (skips : List String) :
    ∃ session, (collectStaged default skips).execute w = (.ok (), { w with
        session := session
        tree := if w.tree.get? (base w) = some .directory then (w.tree.discarded (samples w)).prune (base w) else w.tree }) := by
  by_cases standing : w.tree.get? (base w) = some .directory
  · rcases unstaged.execute_versions standing with ⟨roots, found⟩
    let now : Workspace := { w with session := { w.session with roots := roots } }
    let after : Workspace := { now with tree := w.tree.discarded (samples w) }
    have sound : now.Sound := ⟨unstaged.sound.tree, unstaged.sound.standing⟩
    have discarded : (discardTree "samples/generated_samples").execute now = (.ok (), after) :=
      execute_discardSamples sound (unstaged.noLink _ (by simp))
    have soundAfter : after.Sound := sound_discarded unstaged.sound _
    have standingAfter : after.tree.get? (base after) = some .directory := by
      have same := get?_discarded_staging w []
      rwa [append_nil, standing] at same
    have nowhere : after.tree.find? after.directory (folder default) = none := by
      have gone : after.tree.get? (base after ++ [default]) = none :=
        (get?_discarded_staging w [default]).trans (home_eq w default ▸ unstaged.absent)
      have loc : after.tree.locate after.directory (folder default) = .ok (base after ++ [default]) :=
        (leads_usual soundAfter standingAfter).locate_child soundAfter unstaged.plain true (by rw [gone]; simp)
      rwa [Tree.find?, loc]
    let last : Workspace := after.noting ((skips.map Choice.text).map Choice.text')
    have soundLast : last.Sound := (soundAfter.noting _).otherSound
    have moved : (move (.ofPaths [folder default]) none (.many (skips.map .text))).execute after = (.ok false, last) :=
      execute_move_absent soundAfter (literal_folder unstaged.plain unstaged.tame) nowhere none rfl none
    have copied : (copyStaged [folder default] true "samples/generated_samples" none
        skips).execute now = (.ok (), last) := by
      have one : (do
          let _ <- move (.ofPaths [folder default]) none (.many (skips.map .text))
          return ()).execute after = (.ok (), last) := bind_ok moved
      rw [copyStaged, if_pos rfl, bind_ok discarded]
      exact bind_ok one
    have removed : Staging.remove.execute last = (.ok (), { last with tree := last.tree.prune (base last) }) := by
      rw [Staging.remove, bind_ok (execute_isDirectory _ last), (leads_usual soundLast standingAfter).isDirectory]
      exact execute_removeUsual soundLast standingAfter
    refine ⟨last.session, ?_⟩
    rw [if_pos standing, collectStaged, bind_ok found]
    exact (bind_ok copied).trans removed
  · have dir : (isDirectory usual).execute w = (.ok false, w) := by
      rw [execute_isDirectory, unstaged.isDirectory_usual, decide_eq_false standing]
    have nothing : (Staging.versions (some default)).execute w = (.ok [], w) := by
      rw [Staging.versions, bind_ok dir]
      rfl
    refine ⟨w.session, ?_⟩
    rw [if_neg standing, collectStaged, bind_ok nothing, Staging.remove]
    exact (bind_ok rfl).trans (bind_ok dir)

end Unstaged

/-- **Samples are discarded for nothing.**  Without a staged version the first part of finishing ends well and
keeps the generated samples exactly if there is no staging directory or there were none. -/
theorem samples_kept_iff (w : Workspace) (default : String) (excludes : List String)
    (unstaged : Unstaged w default) :
    ∃ after, (collectStaged default excludes).execute w = (.ok (), after) /\
      ((∀ rest file, rest ≠ [] -> w.tree.get? (samples w ++ rest) = some (.file file) ->
          after.tree.get? (samples w ++ rest) = some (.file file)) ↔
        w.tree.get? (base w) ≠ some .directory \/
          ∀ rest file, rest ≠ [] -> w.tree.get? (samples w ++ rest) ≠ some (.file file)) := by
  rcases unstaged.execute_collectStaged excludes with ⟨session, ran⟩
  refine ⟨_, ran, ?_⟩
  by_cases standing : w.tree.get? (base w) = some .directory
  · simp only [if_pos standing]
    constructor
    · intro kept
      refine .inr fun rest file further found => ?_
      have sampled := unstaged.sound.tree.way rest further found
      have lost : ((w.tree.discarded (samples w)).prune (base w)).get? (samples w ++ rest) = none := by
        rw [get?_prune (by simp [base]), get?_discarded (by simp [samples]),
          if_pos (And.intro sampled (List.prefix_append _ rest)), ite_self]
      rw [kept rest file further found] at lost
      cases lost
    · rintro (missing | none)
      · exact absurd standing missing
      · exact fun rest file further found => absurd found (none rest file further)
  · simp only [if_neg standing]
    exact ⟨fun _ => .inl standing, fun _ _ _ _ found => found⟩

def emptied : Workspace where
  tree := ⟨[(["w"], .directory), (["w", "owl-bot-staging"], .directory), (["w", "samples"], .directory),
    (["w", "samples", "generated_samples"], .directory),
    (["w", "samples", "generated_samples", "a"], .file { content := "1".toUTF8 })]⟩
  directory := ["w"]

lemma unstaged_emptied : Unstaged emptied "v1" where
  sound := by decide
  plain := by decide
  tame := by decide
  empty := by decide
  absent := by decide
  noLink name mem target := by
    have standing : ∀ name ∈ ["owl-bot-staging", "samples"],
        emptied.tree.get? (emptied.directory ++ [name]) = some .directory := by decide
    simp [standing name mem]

theorem emptied_samples_kept_iff : Unstaged emptied "v1" /\
      ∃ after, (collectStaged "v1" ["setup.py"]).execute emptied = (.ok (), after) /\
        ((∀ rest file, rest ≠ [] -> emptied.tree.get? (samples emptied ++ rest) = some (.file file) ->
            after.tree.get? (samples emptied ++ rest) = some (.file file)) ↔
          emptied.tree.get? (base emptied) ≠ some .directory \/ ∀ rest file, rest ≠ [] ->
              emptied.tree.get? (samples emptied ++ rest) ≠ some (.file file)) :=
  ⟨unstaged_emptied, samples_kept_iff emptied "v1" ["setup.py"] unstaged_emptied⟩

set_option maxRecDepth 100000 in
/-- A sample is lost although no version is staged. -/
theorem emptied_sample_lost : emptied.tree.list (base emptied) = [] /\
      emptied.textAt ["w", "samples", "generated_samples", "a"] = some "1" /\
      ((collectStaged "v1" ["setup.py", "README.rst", "docs/index.rst"]).execute
        emptied).2.textAt ["w", "samples", "generated_samples", "a"] = none := by
  decide +kernel

end Staging
end Refinery
