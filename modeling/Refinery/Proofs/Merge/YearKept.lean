import Refinery.Proofs.Merge.Settling

namespace Refinery.Merge

open List

/-!
# Only the year is kept

The year that is put in makes no earlier line, so the first line of the merged text has it.
-/

/-- The merged text is the source, but for the year of its first line. -/
def KeepsYear (anchored : Bool) (words source destination merged : String) : Prop :=
  match firstLine? anchored words.toList [] source.toList,
    firstLine? anchored words.toList [] destination.toList with
  | some (gap, old, rest), some (_, year, _) =>
    source.toList = gap ++ (words.toList ++ (old ++ (company ++ rest))) /\
    merged.toList = gap ++ (words.toList ++ (year ++ (company ++ rest))) /\
    old.length = 4 /\ year.length = 4 /\
    firstLine? anchored words.toList [] merged.toList = some (gap, year, rest)
  | _, _ => merged = source

lemma keepsYear_keepYear {anchored : Bool} {words : String}
    (plain : ∀ c ∈ words.toList, isYearDigit c = false) (source destination : String) :
    KeepsYear anchored words source destination (keepYear (line anchored words) words source destination) := by
  have merged := toList_keepYear anchored words source destination
  rw [keepLine] at merged
  rw [KeepsYear]
  cases own : firstLine? anchored words.toList [] source.toList with
  | none =>
    rw [own] at merged
    refine String.toList_inj.mp (merged.trans ?_)
    cases firstLine? anchored words.toList [] destination.toList <;> rfl
  | some found =>
    rcases found with ⟨gap, old, rest⟩
    cases kept : firstLine? anchored words.toList [] destination.toList with
    | none =>
      rw [kept] at merged
      exact String.toList_inj.mp merged
    | some found =>
      rcases found with ⟨front, year, back⟩
      rcases firstLine?_eq_some own with ⟨tail, parts, ownLine⟩
      rcases firstLine?_eq_some kept with ⟨_, _, line⟩
      rw [ownLine.parts] at parts
      rw [own, kept] at merged
      rw [parts] at own
      refine ⟨parts, merged, ownLine.four, line.four, ?_⟩
      rw [merged]
      exact firstLine?_other_year plain line.four line.digits own

/-- **Merges keep the year and nothing else.**  This holds for all texts, and for a gem in the files that
keep their year. -/
theorem merges_keep_year (source destination : String) (path : Path) :
    (∃ merged, year source destination path = .ok merged /\
      KeepsYear false "Copyright " source destination merged) /\
    ((path.name = "Rakefile" \/ Text.endsWith path.name ".rb" = true) ->
      ¬ (path.name = "version.rb" /\ versionSetter.occursIn destination = true) ->
      ∃ merged, gem source destination path = .ok merged /\
        KeepsYear true "# Copyright " source destination merged) := by
  refine ⟨⟨_, year_eq source destination path, keepsYear_keepYear copyright_plain _ _⟩, fun named unset => ?_⟩
  refine ⟨_, ?_, keepsYear_keepYear comment_plain _ _⟩
  have other : path.name ≠ "CHANGELOG.md" := by
    intro same
    rw [same] at named
    revert named
    decide
  have kept : (Text.endsWith path.name ".rb" || path.name = "Rakefile") = true := by
    simpa [or_comm] using named
  have goesOn : ¬ (path.name = "version.rb" && versionSetter.occursIn destination) = true := by
    simpa using unset
  simp only [gem, if_neg other, if_neg goesOn, if_pos kept]
  rfl

end Refinery.Merge
