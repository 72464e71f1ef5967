import Mathlib
import Refinery.Maven.Pom

namespace Refinery.Maven

open List

namespace Modules

/-!
# Modules by artifact

Each artifact has at most one module in a list, the one that `find?` gives.
-/

variable {mods : Modules} {mod new : Module} {art : String}

/-- No artifact has two modules. -/
def Distinct (modules : Modules) : Prop :=
  (modules.map Module.artifact).Nodup

lemma artifact_of_find? (found : mods.find? art = some mod) : mod.artifact = art := by
  have equal := List.find?_some found
  simpa using equal

lemma mem_of_find? (found : mods.find? art = some mod) : mod ∈ mods :=
  List.mem_of_find?_eq_some found

lemma find?_eq_none_iff : mods.find? art = none ↔ art ∉ mods.map Module.artifact := by
  rw [find?, List.find?_eq_none]
  simp

lemma has_eq_true_iff : mods.has art = true ↔ art ∈ mods.map Module.artifact := by
  rw [has, Option.isSome_iff_ne_none, ne_eq, find?_eq_none_iff, not_not]

lemma need_eq_ok_iff : mods.need art = .ok mod ↔ mods.find? art = some mod := by
  rw [need]
  cases mods.find? art <;> simp

lemma Distinct.mem_iff (distinct : mods.Distinct) : mod ∈ mods ↔ mods.find? mod.artifact = some mod := by
  constructor
  · intro mem
    cases found : mods.find? mod.artifact with
    | none => exact absurd (mem_map_of_mem mem) (find?_eq_none_iff.mp found)
    | some other =>
      have same := artifact_of_find? found
      rw [inj_on_of_nodup_map distinct (mem_of_find? found) mem same]
  · exact mem_of_find?

lemma find?_concat (mods : Modules) (last : Module) (art : String) : find? (mods ++ [last]) art =
      (mods.find? art).or (if art = last.artifact then some last else none) := by
  rw [find?, List.find?_append, <- find?]
  by_cases here : art = last.artifact
  · simp [here]
  · simp [here, Ne.symm here]

/-! ## Putting a module -/

lemma artifacts_put (mods : Modules) (new : Module) : (mods.put new).map Module.artifact =
      if new.artifact ∈ mods.map Module.artifact then mods.map Module.artifact else mods.map Module.artifact ++ [new.artifact] := by
  rw [put]
  split
  next known =>
    rw [if_pos (has_eq_true_iff.mp known), map_map]
    apply map_congr_left
    intro old _
    by_cases same : old.artifact = new.artifact <;> simp [same]
  next known =>
    rw [if_neg fun mem => known (has_eq_true_iff.mpr mem), map_append]
    rfl

lemma Distinct.put (distinct : mods.Distinct) (new : Module) : (mods.put new).Distinct := by
  rw [Distinct, artifacts_put]
  split
  · exact distinct
  next known =>
    rw [nodup_append]
    refine ⟨distinct, nodup_singleton _, ?_⟩
    intro one mem other last
    rw [mem_singleton.mp last]
    rintro rfl
    exact known mem

lemma find?_put (mods : Modules) (new : Module) (art : String) : (mods.put new).find? art =
      if art = new.artifact then some new else mods.find? art := by
  rw [put]
  by_cases known : mods.has new.artifact = true
  · let replace (old : Module) : Module := if old.artifact = new.artifact then new else old
    have kept (old : Module) : (replace old).artifact = old.artifact := by
      by_cases same : old.artifact = new.artifact <;> simp [replace, same]
    have mapped : find? (mods.map replace) art = (mods.find? art).map replace := by
      rw [find?, List.find?_map]
      congr 2
      funext old
      simp [kept]
    rw [if_pos known]
    refine mapped.trans ?_
    cases found : mods.find? art with
    | none =>
      have ne : art ≠ new.artifact := by
        rintro rfl
        exact find?_eq_none_iff.mp found (has_eq_true_iff.mp known)
      rw [if_neg ne]
      rfl
    | some old =>
      have same := artifact_of_find? found
      subst same
      by_cases here : old.artifact = new.artifact <;> simp [replace, here]
  · rw [if_neg known, find?_concat]
    by_cases here : art = new.artifact
    · have absent : mods.find? art = none := by
        rw [find?_eq_none_iff, here]
        exact fun mem => known (has_eq_true_iff.mpr mem)
      rw [if_pos here, if_pos here, absent, Option.none_or]
    · rw [if_neg here, if_neg here, Option.or_none]

/-! ## Choosing modules by artifact -/

lemma find?_filter (mods : Modules) (keep : String -> Bool) (art : String) :
    find? (mods.filter fun mod => keep mod.artifact) art = if keep art then mods.find? art else none := by
  rw [find?, List.find?_filter]
  split
  next kept =>
    apply List.find?_congr
    intro mod _
    by_cases same : mod.artifact = art <;> simp [same, kept]
  next kept =>
    rw [List.find?_eq_none]
    intro mod _ chosen
    simp only [decide_eq_true_eq] at chosen
    rw [chosen.2] at chosen
    exact kept chosen.1

lemma Distinct.filter (distinct : mods.Distinct) (keep : Module -> Bool) : Distinct (mods.filter keep) :=
  distinct.sublist (filter_sublist.map _)

/-! ## Lists of versions -/

lemma find?_foldl_put (items mods : Modules) (art : String) : find? (items.foldl put mods) art =
      (find? items.reverse art).or (mods.find? art) := by
  induction items generalizing mods with
  | nil => rfl
  | cons first rest ih =>
    rw [foldl_cons, ih, find?_put, reverse_cons, find?_concat, Option.or_assoc]
    by_cases here : art = first.artifact
    · rw [if_pos here, if_pos here, Option.some_or]
    · rw [if_neg here, if_neg here, Option.none_or]

lemma Distinct.foldl_put (distinct : mods.Distinct) (items : Modules) : Distinct (items.foldl Modules.put mods) := by
  induction items generalizing mods with
  | nil => exact distinct
  | cons first rest ih => exact ih (distinct.put first)

end Modules

def LastGiven (group text : String) (module : Module) : Prop :=
  ∃ before after, (Text.lines text).filterMap (moduleOfLine? group) = before ++ module :: after /\
    module.artifact ∉ after.map Module.artifact

lemma distinct_modulesOfText (group text : String) : (modulesOfText group text).Distinct := by
  have nothing : Modules.Distinct [] := nodup_nil
  exact nothing.foldl_put _

lemma mem_modulesOfText {group text : String} {mod : Module} : mod ∈ modulesOfText group text ↔ LastGiven group text mod := by
  rw [(distinct_modulesOfText group text).mem_iff, modulesOfText, Modules.find?_foldl_put,
    show Modules.find? [] mod.artifact = none from rfl, Option.or_none, Modules.find?,
    List.find?_eq_some_iff_append]
  constructor
  · rintro ⟨-, later, earlier, whole, others⟩
    refine ⟨earlier.reverse, later.reverse, ?_, ?_⟩
    · rw [<- reverse_reverse (List.filterMap _ _), whole]
      simp
    · intro repeated
      rcases mem_map.mp repeated with ⟨other, mem, same⟩
      have apart := others other (mem_reverse.mp mem)
      simp [same] at apart
  · rintro ⟨before, after, whole, last⟩
    refine ⟨by simp, after.reverse, before.reverse, by simp [whole], ?_⟩
    intro other mem
    have apart : other.artifact ≠ mod.artifact := by
      intro same
      exact last (mem_map.mpr ⟨other, mem_reverse.mp mem, same⟩)
    simp [apart]

end Refinery.Maven
