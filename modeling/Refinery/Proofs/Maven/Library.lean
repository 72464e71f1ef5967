import Refinery.Maven.MissingPoms
import Refinery.Proofs.Maven.Modules

namespace Refinery.Maven.Library

open List Text

/-!
# What is known of a library after folders were noted

A library has a table of the modules with a version and one of those that others depend on.  `Noted` says
where the tables stand after any number of folders.
-/

variable {lib start now : Library} {art : String} {noted desc : List String}

/-! ## One folder -/

@[simp] lemma artifact_sibling (lib : Library) (art : String) : (lib.sibling art).artifact = art := rfl

lemma known_require (lib : Library) (path : String) : (lib.require path).known = lib.known := by
  rw [require]
  cases lib.mayRequire path <;> rfl

lemma frame_require (lib : Library) (path : String) :
    lib.require path = { lib with required := (lib.require path).required } := by
  rw [require]
  cases lib.mayRequire path <;> rfl

lemma find?_required_require (lib : Library) (path art : String) : (lib.require path).required.find? art =
      if art = path /\ lib.mayRequire art = true then some (lib.sibling art) else lib.required.find? art := by
  rw [require]
  by_cases here : art = path
  · subst here
    split
    next may =>
      rw [if_pos ⟨rfl, may⟩]
      exact (Modules.find?_put _ _ _).trans (if_pos rfl)
    next may => rw [if_neg fun both => may both.2]
  · have elsewhere : ¬ (art = path /\ lib.mayRequire art = true) := fun both => here both.1
    rw [if_neg elsewhere]
    split
    · exact (Modules.find?_put _ _ _).trans (if_neg here)
    · rfl

lemma distinct_require (distinct : lib.required.Distinct) (path : String) : (lib.require path).required.Distinct := by
  rw [Library.require]
  cases lib.mayRequire path with
  | true => exact distinct.put _
  | false => exact distinct

lemma has_eq_false_iff : lib.known.has art = false ↔ lib.known.find? art = none := by
  rw [Modules.has, Option.isSome_eq_false_iff, Option.isNone_iff_eq_none]

lemma discover_known (known : lib.known.has art = true) : lib.discover art = lib := by
  rw [discover, if_pos known]

lemma discover_new (new : lib.known.has art = false) : lib.discover art =
      { lib with known := lib.known.put (lib.sibling art) }.require art := by
  rw [discover, new, if_neg Bool.false_ne_true]

lemma frame_discover (lib : Library) (path : String) : lib.discover path = { lib with
      known := (lib.discover path).known, required := (lib.discover path).required } := by
  cases known : lib.known.has path with
  | true => rw [discover_known known]
  | false =>
    rw [discover_new known, require]
    cases mayRequire _ path <;> rfl

lemma find?_known_discover (lib : Library) (path art : String) : (lib.discover path).known.find? art =
      (lib.known.find? art).or (if art = path then some (lib.sibling art) else none) := by
  cases known : lib.known.has path with
  | true =>
    rw [discover_known known]
    by_cases here : art = path
    · subst here
      rcases Option.isSome_iff_exists.mp known with ⟨mod, found⟩
      rw [found, Option.some_or]
    · rw [if_neg here, Option.or_none]
  | false =>
    rw [discover_new known, known_require, Modules.find?_put, artifact_sibling]
    by_cases here : art = path
    · subst here
      rw [if_pos rfl, if_pos rfl, has_eq_false_iff.mp known, Option.none_or]
    · rw [if_neg here, if_neg here, Option.or_none]

lemma find?_known_discover_of_some {mod : Module} (found : lib.known.find? art = some mod)
    (path : String) : (lib.discover path).known.find? art = some mod := by
  rw [find?_known_discover, found, Option.some_or]

lemma find?_required_discover (lib : Library) (path art : String) : (lib.discover path).required.find? art =
      if art = path /\ lib.mayRequire art = true /\ lib.known.find? art = none then some (lib.sibling art)
      else lib.required.find? art := by
  cases known : lib.known.has path with
  | true =>
    rw [discover_known known, if_neg]
    rintro ⟨rfl, -, absent⟩
    rw [has_eq_false_iff.mpr absent] at known
    cases known
  | false =>
    rw [discover_new known, find?_required_require]
    apply if_congr _ rfl rfl
    constructor
    · rintro ⟨rfl, may⟩
      exact ⟨rfl, may, has_eq_false_iff.mp known⟩
    · rintro ⟨rfl, may, -⟩
      exact ⟨rfl, may⟩

/-! ## Any number of folders -/

structure Noted (start : Library) (noted described : List String) (now : Library) : Prop where
  frame : now = { start with known := now.known, required := now.required }
  known : ∀ artifact, now.known.find? artifact = (start.known.find? artifact).or
      (if artifact ∈ noted then some (start.sibling artifact) else none)
  required : ∀ artifact, now.required.find? artifact = if start.mayRequire artifact = true /\
        (artifact ∈ described \/ artifact ∈ noted /\ start.known.find? artifact = none) then
      some (start.sibling artifact)
    else start.required.find? artifact
  distinctKnown : now.known.Distinct
  distinctRequired : now.required.Distinct

namespace Noted

lemma nothing (known : start.known.Distinct) (required : start.required.Distinct) : Noted start [] [] start :=
  ⟨rfl, fun art => by simp, fun art => by simp, known, required⟩

variable (so : Noted start noted desc now)
include so

lemma sibling (art : String) : now.sibling art = start.sibling art := by
  rw [so.frame]
  rfl

lemma mayRequire (art : String) : now.mayRequire art = start.mayRequire art := by
  rw [so.frame]
  rfl

lemma main : now.main = start.main := by
  rw [so.frame]

lemma parent : now.parent = start.parent := by
  rw [so.frame]

lemma reframe (known required : Modules) : { now with known := known, required := required } =
      { start with known := known, required := required } := by
  rw [so.frame]

lemma discover (path : String) : Noted start (noted ++ [path]) desc (now.discover path) := by
  refine ⟨?_, ?_, ?_, ?_, ?_⟩
  · exact (frame_discover now path).trans (so.reframe _ _)
  · intro art
    rw [find?_known_discover, so.known, so.sibling, Option.or_assoc]
    congr 1
    by_cases before : art ∈ noted
    · simp [before]
    · by_cases here : art = path
      · subst here
        simp [before]
      · simp [before, here]
  · intro art
    rw [find?_required_discover, so.mayRequire, so.sibling, so.required]
    by_cases here : art = path
    · subst here
      cases known : start.known.find? art with
      | some mod => simp [so.known, known]
      | none =>
        by_cases may : start.mayRequire art = true
        · by_cases before : art ∈ noted <;> simp [so.known, known, may, before]
        · simp [may]
    · simp [here]
  · cases known : now.known.has path with
    | true =>
      rw [discover_known known]
      exact so.distinctKnown
    | false =>
      rw [discover_new known, known_require]
      exact so.distinctKnown.put _
  · cases known : now.known.has path with
    | true =>
      rw [discover_known known]
      exact so.distinctRequired
    | false =>
      rw [discover_new known]
      apply distinct_require
      exact so.distinctRequired

lemma require (path : String) : Noted start noted (desc ++ [path]) (now.require path) := by
  refine ⟨?_, ?_, ?_, ?_, distinct_require so.distinctRequired path⟩
  · rw [known_require]
    exact (frame_require now path).trans (so.reframe _ _)
  · intro art
    rw [known_require]
    exact so.known art
  · intro art
    rw [find?_required_require, so.mayRequire, so.sibling, so.required]
    by_cases here : art = path
    · subst here
      by_cases may : start.mayRequire art = true <;> simp [may]
    · simp [here]
  · rw [known_require]
    exact so.distinctKnown

end Noted

/-! ## Lists made from the tables -/

def withVersion (library : Library) (modules : Modules) (artifact : String) : Modules :=
  if modules.has artifact then modules else modules.put (library.sibling artifact)

lemma find?_withVersion (lib : Library) (modules : Modules) (added art : String) : (lib.withVersion modules added).find? art =
      (modules.find? art).or (if art = added then some (lib.sibling art) else none) := by
  rw [withVersion]
  cases known : modules.has added with
  | true =>
    rw [if_pos rfl]
    by_cases here : art = added
    · subst here
      rcases Option.isSome_iff_exists.mp known with ⟨mod, found⟩
      rw [found, Option.some_or]
    · rw [if_neg here, Option.or_none]
  | false =>
    rw [if_neg Bool.false_ne_true, Modules.find?_put, artifact_sibling]
    by_cases here : art = added
    · subst here
      rw [Modules.has, Option.isSome_eq_false_iff, Option.isNone_iff_eq_none] at known
      rw [if_pos rfl, if_pos rfl, known, Option.none_or]
    · rw [if_neg here, if_neg here, Option.or_none]

lemma find?_foldl_withVersion (lib : Library) (additional : List String) (modules : Modules) (art : String) :
    Modules.find? (additional.foldl lib.withVersion modules) art = (modules.find? art).or
        (if art ∈ additional then some (lib.sibling art) else none) := by
  induction additional generalizing modules with
  | nil => simp
  | cons first rest ih =>
    rw [foldl_cons, ih, find?_withVersion, Option.or_assoc]
    congr 1
    by_cases here : art = first
    · simp [here]
    · simp [here]

lemma find?_versioned (lib : Library) (additional : List String) (art : String) :
    (lib.versioned additional).find? art = (if art = lib.parent.artifact then none else lib.known.find? art).or
        (if art ∈ additional then some (lib.sibling art) else none) := by
  refine (find?_foldl_withVersion lib additional _ art).trans ?_
  rw [Modules.find?_filter lib.known (fun name => decide (name ≠ lib.parent.artifact))]
  congr 1
  by_cases here : art = lib.parent.artifact <;> simp [here]

lemma distinct_versioned (distinct : lib.known.Distinct) (additional : List String) : (lib.versioned additional).Distinct := by
  have each : ∀ (additional : List String) (modules : Modules), modules.Distinct ->
      Modules.Distinct (additional.foldl lib.withVersion modules) := by
    intro additional
    induction additional with
    | nil => exact fun modules so => so
    | cons first rest ih =>
      intro modules so
      apply ih
      rw [withVersion]
      cases modules.has first with
      | true => exact so
      | false => exact so.put _
  exact each additional _ (distinct.filter _)

lemma modules_eq (part : contains lib.parent.artifact lib.main.artifact = true) :
    lib.modules = lib.main :: lib.requiredWith "grpc-" ++ lib.requiredWith "proto-" := by
  have absent (start : String) : (lib.requiredWith start).contains lib.main = false := by
    rw [Bool.eq_false_iff]
    intro inside
    have kept := (mem_filter.mp (contains_iff_mem.mp inside)).2
    rw [part, Bool.not_true, Bool.and_false] at kept
    cases kept
  rw [modules, absent, absent]
  rfl

lemma mem_requiredWith {start : String} : art ∈ (lib.requiredWith start).map Module.artifact ↔
    startsWith art start = true /\ contains lib.parent.artifact art = false /\ (lib.required.find? art).isSome := by
  rw [<- Modules.has_eq_true_iff, Modules.has, requiredWith, Modules.find?_filter lib.required
    (fun name => startsWith name start && !contains lib.parent.artifact name)]
  cases startsWith art start <;> cases contains lib.parent.artifact art <;> simp

end Refinery.Maven.Library
