import Refinery.Proofs.Workspace.Copying
import Refinery.Proofs.Workspace.Search

namespace Refinery

open List Job

/-!
# Moving literal paths

A move notes its patterns and goes through the selected paths.
-/

/-- The workspace after patterns were noted as left out. -/
def Workspace.noting (w : Workspace) (patterns : List String) : Workspace :=
  { w with session := { w.session with excluded := w.session.excluded ++ patterns } }

lemma Workspace.Sound.noting {w : Workspace} (sound : w.Sound) (patterns : List String) : w.Alike (w.noting patterns) :=
  ⟨sound, ⟨sound.tree, sound.standing⟩, Tree.Same.refl w.tree, rfl, rfl, rfl⟩

lemma Workspace.noting_nil (w : Workspace) : w.noting [] = w := by
  simp [noting]

lemma FileJob.present {α : Type} {writes : Bool} {job : Job α} {w : Workspace} {path : Path}
    (file : FileJob writes job) (sound : w.Sound) (present : (w.tree.find? w.directory path).isSome) :
    ((job.execute w).2.tree.find? (job.execute w).2.directory path).isSome := by
  have dir : (job.execute w).2.directory = w.directory := by rw [file.frame w]
  rw [Tree.find?] at present
  cases loc : w.tree.locate w.directory path with
  | error reason =>
    rw [loc] at present
    cases present
  | ok place =>
    rw [loc] at present
    rcases Option.isSome_iff_exists.mp present with ⟨node, found⟩
    rcases file.grows sound place node found with ⟨other, kept, _⟩
    rw [dir, Tree.find?, (file.grows sound).locate loc present]
    exact Option.isSome_iff_exists.mpr ⟨other, kept⟩

namespace Transfer

variable {σ : Type} {w : Workspace} {src : Path} {patterns : List String} {skips : Selection}
  {found : List Path} {home : Place}

/-- A source that a move can be given: a literal path that leads to a node. -/
structure Given (w : Workspace) (source : Path) : Prop where
  literal : source.Literal
  present : (w.tree.find? w.directory source).isSome

instance (w : Workspace) (source : Path) : Decidable (Given w source) :=
  decidable_of_iff (source.Literal /\ (w.tree.find? w.directory source).isSome)
    ⟨fun facts => ⟨facts.1, facts.2⟩, fun given => ⟨given.literal, given.present⟩⟩

lemma Given.of_leads (literal : src.Literal) (leads : LeadsTo w src home) : Given w src := by
  refine ⟨literal, ?_⟩
  simp only [Tree.find?, leads.located, leads.standing, Option.isSome_some]

lemma execute_noting (patterns : List String) (w : Workspace) : (patterns.forM fun pattern =>
        note fun s => { s with excluded := s.excluded ++ [pattern] }).execute w = (.ok (), w.noting patterns) := by
  induction patterns generalizing w with
  | nil => simp [Workspace.noting]
  | cons pattern rest ih =>
    change (note _ >>= fun _ => rest.forM _).execute w = _
    rw [bind_ok (execute_note _ w), ih]
    simp [Workspace.noting]

lemma execute_fold_given (sound : w.Sound) {visit : σ -> Path -> Job σ}
    (each : ∀ state path, FileJob true (visit state path)) (srcs : List Path) (state : σ)
    (given : ∀ src ∈ srcs, Given w src) : ((Selection.many (srcs.map .path)).fold Path.here visit state).execute w =
      (srcs.foldlM visit state).execute w := by
  induction srcs generalizing state w with
  | nil => rfl
  | cons src rest ih =>
    have first := given src mem_cons_self
    have step := Choice.execute_fold_literal sound first.literal visit state
    rw [if_pos first.present] at step
    have onward : ∀ next : σ, ((Selection.many (rest.map .path)).fold Path.here visit next).execute
            ((visit state src).execute w).2 =
          (rest.foldlM visit next).execute ((visit state src).execute w).2 := by
      intro next
      apply ih ((each state src).keeps sound)
      intro other mem
      have later := given other (mem_cons_of_mem src mem)
      exact ⟨later.literal, (each state src).present sound later.present⟩
    rw [map_cons, Selection.fold, Selection.choices, foldlM_cons, foldlM_cons]
    rw [execute_bind, execute_bind, step]
    rcases ran : (visit state src).execute w with ⟨outcome, after⟩
    rw [ran] at onward
    cases outcome with
    | error err => rfl
    | ok next => exact onward next

lemma execute_exclusionsAt (skips : Selection) (src : Path) (w : Workspace) :
    (exclusionsAt skips src).execute w = (((exclusionsAt skips src).execute w).1, w) := by
  have looks : FileJob false (exclusionsAt skips src) := FileJob.exclusionsAt skips src
  exact Prod.ext rfl (looks.idle rfl w)

lemma execute_moveOne (dest : Path) (merge : Option Merge) (copied : Bool)
    (left : Selection) (src : Path) (w : Workspace) :
    (moveOne (some dest) merge (copied, left) src).execute w = match ((exclusionsAt left src).execute w).1 with
      | .error err => (.error err, w)
      | .ok found =>
        (((copyOne dest merge copied found src).execute w).1.map fun done => (done, Selection.ofPaths found),
          ((copyOne dest merge copied found src).execute w).2) := by
  change (exclusionsAt left src >>= fun found => _).execute w = _
  rw [execute_bind, execute_exclusionsAt]
  cases ((exclusionsAt left src).execute w).1 with
  | error err => rfl
  | ok found =>
    simp only [execute_bind]
    rcases (copyOne dest merge copied found src).execute w with ⟨outcome, after⟩
    cases outcome <;> rfl

def moveFrom (destination : Option Path) (merge : Option Merge) (state : Bool × Selection)
    (sources : List Path) : Job Bool := do
  return (<- sources.foldlM (moveOne destination merge) state).1

lemma execute_move_noted (sound : w.Sound) (dest : Option Path)
    (noted : notedPatterns skips = .ok patterns) (merge : Option Merge) (srcs : List Path)
    (given : ∀ src ∈ srcs, Given w src) : (move (.many (srcs.map .path)) dest skips merge).execute w =
      (moveFrom dest merge (false, skips) srcs).execute (w.noting patterns) := by
  have alike := sound.noting patterns
  have visited := execute_fold_given alike.otherSound (fun state path => FileJob.moveOne dest merge state path) srcs (false, skips)
    fun src mem => ⟨(given src mem).literal, (given src mem).present⟩
  rw [move, noted, bind_ok (execute_ofExcept _ w), bind_ok (execute_noting _ w), execute_bind, visited, moveFrom, execute_bind]
  rcases (srcs.foldlM (moveOne dest merge) (false, skips)).execute (w.noting patterns) with ⟨outcome, after⟩
  cases outcome <;> rfl

lemma execute_move_given (sound : w.Sound) (dest : Option Path) (skips : List Choice)
    (merge : Option Merge) (srcs : List Path) (given : ∀ src ∈ srcs, Given w src) :
    (move (.many (srcs.map .path)) dest (.many skips) merge).execute w =
      (moveFrom dest merge (false, .many skips) srcs).execute (w.noting (skips.map Choice.text')) :=
  execute_move_noted sound dest rfl merge srcs given

lemma execute_move_absent (sound : w.Sound) (literal : src.Literal) (absent : w.tree.find? w.directory src = none)
    (dest : Option Path) (noted : notedPatterns skips = .ok patterns) (merge : Option Merge) :
    (move (.many [.path src]) dest skips merge).execute w = (.ok false, w.noting patterns) := by
  have nothing : ((Selection.many [.path src]).fold Path.here (moveOne dest merge)
      (false, skips)).execute (w.noting patterns) = (.ok (false, skips), w.noting patterns) := by
    have gone : ((w.noting patterns).tree.find? w.directory src).isSome = false := by
      rw [Option.isSome_eq_false_iff, Option.isNone_iff_eq_none]
      exact absent
    have passed := Choice.execute_fold_literal (sound.noting patterns).otherSound literal (moveOne dest merge) (false, skips)
    rw [show (w.noting patterns).directory = w.directory from rfl, gone] at passed
    rw [Selection.fold, Selection.choices, foldlM_cons, bind_ok passed]
    rfl
  rw [move, noted, bind_ok (execute_ofExcept _ w), bind_ok (execute_noting _ w), bind_ok nothing]
  rfl

lemma execute_moveFrom_cons (dest : Option Path) (merge : Option Merge)
    (state : Bool × Selection) (src : Path) (rest : List Path) (w : Workspace) :
    (moveFrom dest merge state (src :: rest)).execute w = match (moveOne dest merge state src).execute w with
      | (.ok next, after) => (moveFrom dest merge next rest).execute after
      | (.error err, after) => (.error err, after) := by
  rw [moveFrom, execute_bind, foldlM_cons, execute_bind]
  rcases (moveOne dest merge state src).execute w with ⟨outcome, after⟩
  cases outcome with
  | error err => rfl
  | ok next => simp only [moveFrom, execute_bind]

lemma execute_move_one (sound : w.Sound) (given : Given w src) (dest : Path) (noted : notedPatterns skips = .ok patterns)
    (looked : (exclusionsAt skips src).execute w = (.ok found, w)) (merge : Option Merge) :
    (move (.many [.path src]) (some dest) skips merge).execute w =
      (copyOne dest merge false found src).execute (w.noting patterns) := by
  have all : ∀ each ∈ [src], Given w each := by
    intro each mem
    rw [mem_singleton.mp mem]
    exact given
  have sameAnswer : ((exclusionsAt skips src).execute (w.noting patterns)).1 = .ok found := by
    have looks : FileJob false (exclusionsAt skips src) := FileJob.exclusionsAt _ _
    rw [<- looks.answer (sound.noting patterns), looked]
  have moved := execute_move_noted sound (some dest) noted merge [src] all
  rw [map_singleton] at moved
  rw [moved, execute_moveFrom_cons, execute_moveOne, sameAnswer]
  dsimp only
  rcases (copyOne dest merge false found src).execute (w.noting patterns) with ⟨outcome, after⟩
  cases outcome <;> rfl

lemma execute_copyOne_directory (dir : w.isDirectory src = true)
    (dest : Path) (merge : Option Merge) (found : List Path) : (copyOne dest merge false found src).execute w =
      (copyDirectory src dest found merge).execute w := by
  rw [copyOne, bind_ok (execute_isDirectory _ _), dir]
  rfl

lemma execute_copyOne_file (file : w.isDirectory src = false) (dest : Path)
    (merge : Option Merge) (copied : Bool) (found : List Path) :
    (copyOne dest merge copied found src).execute w =
      (if src ∈ found then pure copied else do placeFile src dest merge; return true :
        Job Bool).execute w := by
  rw [copyOne, bind_ok (execute_isDirectory _ w), file]
  simp

lemma execute_move_leads (sound : w.Sound) (literal : src.Literal)
    (leads : LeadsTo w src home) (dest : Path) (noted : notedPatterns skips = .ok patterns)
    (looked : (exclusionsAt skips src).execute w = (.ok found, w)) (merge : Option Merge) :
    (move (.many [.path src]) (some dest) skips merge).execute w =
      (copyDirectory src dest found merge).execute (w.noting patterns) := by
  have dir : (w.noting patterns).isDirectory src = true := leads.isDirectory
  rw [execute_move_one sound (.of_leads literal leads) dest noted looked merge]
  exact execute_copyOne_directory dir dest merge found

end Transfer
end Refinery
