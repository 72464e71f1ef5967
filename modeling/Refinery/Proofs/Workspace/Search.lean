import Refinery.Proofs.Workspace.Copying
import Refinery.Proofs.Workspace.Judgement

namespace Refinery

open List Job Workspace Glob

/-!
# What a search visits

A path without special characters stands for itself: if it leads to a node, it is the one path that a search
for it visits.
-/

variable {σ : Type} {w : Workspace} {path base : Path} {names : List String} {pattern name : String}
  {glob : Glob}

namespace Glob

lemma execute_foldSteps_exact (sound : w.Sound) (visit : σ -> Path -> Job σ) (state : σ) (named : names ≠ [])
    (path : Path) (proper : (Path.mk path.anchor (path.names ++ names)).Proper) :
    (foldSteps false (names.map .exact) visit state path).execute w =
      (if (w.tree.find? w.directory ⟨path.anchor, path.names ++ names⟩).isSome then
        visit state ⟨path.anchor, path.names ++ names⟩ else pure state : Job σ).execute w := by
  induction names generalizing path with
  | nil => exact absurd rfl named
  | cons name rest ih =>
    have parts : path.names ++ name :: rest = (path.child name).names ++ rest := by
      simp [Path.child]
    have childProper : (path.child name).Proper := by
      intro each mem
      exact proper each (by rw [parts]; exact mem_append_left rest mem)
    rw [parts] at proper ⊢
    rw [map_cons, foldSteps]
    by_cases last : rest = []
    · subst last
      rw [if_pos (by simp), bind_ok (execute_exists? _ w), nodeAt?_toString childProper, append_nil]
      rfl
    · rw [if_neg (by simp [last]), bind_ok (execute_isDirectory _ w)]
      cases dir : w.isDirectory (path.child name).toString with
      | true => exact ih last (path.child name) proper
      | false =>
        cases loc : w.tree.locate w.directory ⟨path.anchor, (path.child name).names ++ rest⟩ with
        | error reason =>
          rw [Tree.find?, loc]
          rfl
        | ok place =>
          have first : ∃ middle, w.tree.locate w.directory (path.child name) = .ok middle /\ w.tree.get? middle = some .directory :=
            Tree.locate_append_ok sound.tree sound.standing last loc
          rcases first with ⟨middle, reached, standing⟩
          rw [LeadsTo.isDirectory ⟨childProper, reached, standing⟩] at dir
          cases dir

lemma execute_fold_exact (sound : w.Sound) (literal : path.Literal) (top : Path) (proper : top.Proper)
    (dir : w.isDirectory top.toString = true) (visit : σ -> Path -> Job σ) (state : σ) :
    (fold top (Path.mk .relative path.names).toString visit state).execute w =
      (if (w.tree.find? w.directory ⟨top.anchor, top.names ++ path.names⟩).isSome then
        visit state ⟨top.anchor, top.names ++ path.names⟩ else pure state : Job σ).execute w := by
  rw [fold, bind_ok (by rw [literal.parse]; exact execute_ofExcept _ w), bind_ok (execute_isDirectory _ w), dir, if_pos rfl]
  refine execute_foldSteps_exact sound visit state literal.named top fun each mem => ?_
  exact (mem_append.mp mem).elim (proper each) (literal.proper each)

end Glob

lemma Choice.execute_fold_literal (sound : w.Sound) (literal : path.Literal) (visit : σ -> Path -> Job σ)
    (state : σ) : ((Choice.path path).fold Path.here visit state).execute w =
      (if (w.tree.find? w.directory path).isSome then visit state path else pure state : Job σ).execute w := by
  have top : w.isDirectory (Path.mk path.anchor []).toString = true := by
    have located : w.tree.locate w.directory ⟨path.anchor, []⟩ = .ok (Tree.origin w.directory path) := rfl
    exact LeadsTo.isDirectory ⟨nofun, located, Tree.get?_origin sound.standing path⟩
  have searched : (Glob.fold ⟨path.anchor, []⟩ (Path.mk .relative path.names).toString visit state).execute w =
      (if (w.tree.find? w.directory path).isSome then visit state path else pure state : Job σ).execute w :=
    execute_fold_exact sound literal ⟨path.anchor, []⟩ nofun top visit state
  rw [Choice.fold]
  cases kind : path.anchor with
  | relative =>
    have same : Path.mk .relative path.names = path := by rw [<- kind]
    rw [kind, same] at searched
    rw [if_neg (by simp [Path.isAbsolute, kind])]
    exact searched
  | slash | doubleSlash =>
    rw [if_pos (by simp [Path.isAbsolute, kind]), <- kind]
    exact searched

/-! ## Searches below a directory -/

def firsts (seen : List Path) : List Path -> List Path
  | [] => []
  | path :: rest =>
    if seen.contains path then firsts seen rest else path :: firsts (path :: seen) rest

lemma mem_firsts {seen paths : List Path} : path ∈ firsts seen paths ↔ path ∈ paths /\ path ∉ seen := by
  induction paths generalizing seen with
  | nil => simp [firsts]
  | cons first rest ih =>
    rw [firsts]
    split
    next known =>
      rw [ih, mem_cons]
      rw [contains_iff_mem] at known
      grind
    next known =>
      rw [mem_cons, ih, mem_cons, mem_cons]
      rw [contains_iff_mem] at known
      grind

lemma foldl_reverse_append {α β : Type} (parts : α -> List β) (items : List α) (start : List β) :
    items.foldl (fun found item => (parts item).reverse ++ found) start = (items.flatMap parts).reverse ++ start := by
  induction items generalizing start with
  | nil => rfl
  | cons item rest ih => simp [ih]

namespace Path

def Under (base path : Path) : Prop :=
  ∃ names, (∀ name ∈ names, IsPlain name) /\ path = ⟨base.anchor, base.names ++ names⟩

lemma Under.refl (base : Path) : Under base base :=
  ⟨[], nofun, by rw [append_nil]⟩

lemma Under.child (under : Under base path) (plain : IsPlain name) : Under base (path.child name) := by
  rcases under with ⟨names, all, rfl⟩
  refine ⟨names ++ [name], ?_, by rw [Path.child, append_assoc]⟩
  intro each mem
  rcases mem_append.mp mem with inside | last
  · exact all each inside
  · rw [mem_singleton.mp last]
    exact plain

lemma Under.proper (under : Under base path) (proper : base.Proper) : path.Proper := by
  rcases under with ⟨names, all, rfl⟩
  intro each mem
  rcases mem_append.mp mem with inside | later
  · exact proper each inside
  · exact (all each later).1

end Path

lemma Workspace.Sound.list (sound : w.Sound) (proper : path.Proper) (dir : w.isDirectory path = true) :
    ∃ names, w.list path = .ok names /\ ∀ name ∈ names, IsPlain name := by
  rcases LeadsTo.of_isDirectory proper dir with ⟨place, leads⟩
  refine ⟨w.tree.list place, list_of_locate proper leads.located leads.standing, ?_⟩
  intro name mem
  rcases Option.isSome_iff_exists.mp (sound.tree.mem_list.mp mem) with ⟨node, found⟩
  exact sound.tree.isPlain found name (by simp)

namespace Glob

def StepPlain : GlobStep -> Prop
  | .exact name => IsPlain name
  | _ => True

structure Tame (pattern : String) : Prop where
  reads : ∃ glob, parse pattern = .ok glob
  stays : ¬ ".." ∈ (Path.ofString pattern).names

private lemma stepOf_plain {step : GlobStep} (plain : IsPlain name) (read : stepOf name = .ok step) : StepPlain step := by
  rw [stepOf] at read
  split at read
  · cases read
    trivial
  · split at read
    · cases read
    · split at read
      · cases read
        trivial
      · cases read
        exact plain

private lemma mapM_stepOf_plain {steps : List GlobStep}
    (plain : ∀ name ∈ names, IsPlain name) (read : names.mapM stepOf = .ok steps) : ∀ step ∈ steps, StepPlain step := by
  induction names generalizing steps with
  | nil =>
    cases read
    exact nofun
  | cons name rest ih =>
    rw [mapM_cons] at read
    rcases bind_eq_ok.mp read with ⟨step, first, read⟩
    rcases bind_eq_ok.mp read with ⟨more, others, whole⟩
    cases whole
    intro each mem
    rcases mem_cons.mp mem with rfl | later
    · exact stepOf_plain (plain name mem_cons_self) first
    · exact ih (fun other inside => plain other (mem_cons_of_mem name inside)) others each later

lemma parse_ok (read : parse pattern = .ok glob) : (Path.ofString pattern).isAbsolute = false /\
      (Path.ofString pattern).names.mapM stepOf = .ok glob.steps := by
  rw [parse_eq] at read
  split_ifs at read with empty absolute unnamed
  refine ⟨Bool.eq_false_iff.mpr absolute, ?_⟩
  cases steps : (Path.ofString pattern).names.mapM stepOf <;> rw [steps] at read
  · cases read
  · cases read
    rfl

lemma Tame.steps (tame : Tame pattern) (read : parse pattern = .ok glob) : ∀ step ∈ glob.steps, StepPlain step := by
  have plain : ∀ name ∈ (Path.ofString pattern).names, IsPlain name := by
    intro name mem
    refine ⟨Path.proper_ofString pattern name mem, ?_⟩
    rintro rfl
    exact tame.stays mem
  exact mapM_stepOf_plain plain (parse_ok read).2

end Glob

/-- The patterns of a list can be read, are relative and have no double dots. -/
def TameChoices (choices : List Choice) : Prop :=
  ∀ choice ∈ choices, Tame choice.text'

end Refinery
