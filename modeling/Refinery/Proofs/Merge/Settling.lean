import Refinery.Proofs.Merge.CopyrightYear
import Refinery.Proofs.Text.Laws

namespace Refinery.Merge

open Text

/-!
# Merges that settle

Merging the result once more gives the result, and merging a file with itself the file.
-/

def Unified (text : String) : Prop :=
  '\r' ∉ text.toList

structure Settles (merge : Merge) : Prop where
  again : ∀ {source destination merged : String} {path : Path},
    merge source destination path = .ok merged -> merge source merged path = .ok merged
  same : ∀ {source merged : String} {path : Path}, merge source source path = .ok merged -> merged = source
  unified : ∀ {source destination merged : String} {path : Path}, Unified source ->
    Unified destination -> merge source destination path = .ok merged -> Unified merged

/-! ## The merges in use -/

variable {source destination : String}

lemma keepMatching_cases {patterns : List String} {merged : String} {path : Path}
    (merges : keepMatching patterns source destination path = .ok merged) :
    merged = source /\ (∀ other, keepMatching patterns source other path = .ok source) \/
      merged = destination /\ ∀ other, keepMatching patterns source other path = .ok other := by
  induction patterns with
  | nil =>
    cases merges
    exact .inl ⟨rfl, fun _ => rfl⟩
  | cons pattern rest ih =>
    simp only [keepMatching] at merges ⊢
    cases matched : path.matches? pattern with
    | none => simp [matched] at merges
    | some hit =>
      rw [matched] at merges
      cases hit with
      | true =>
        cases merges
        exact .inr ⟨rfl, fun _ => rfl⟩
      | false => exact ih merges

lemma settles_keepMatching (patterns : List String) : Settles (keepMatching patterns) where
  again merges := by
    rcases keepMatching_cases merges with ⟨rfl, keeps⟩ | ⟨rfl, _⟩
    · exact keeps _
    · exact merges
  same merges := by
    rcases keepMatching_cases merges with ⟨rfl, _⟩ | ⟨rfl, _⟩ <;> rfl
  unified source destination merges := by
    rcases keepMatching_cases merges with ⟨rfl, _⟩ | ⟨rfl, _⟩
    · exact source
    · exact destination

section Year

variable {anchored : Bool} {words : String}

lemma keepYear_self (source : String) : keepYear (line anchored words) words source source = source := by
  rw [<- String.toList_inj, toList_keepYear, keepLine_self]

lemma keepYear_keepYear (plain : ∀ c ∈ words.toList, isYearDigit c = false) (source destination : String) :
    keepYear (line anchored words) words source (keepYear (line anchored words) words source destination) =
      keepYear (line anchored words) words source destination := by
  rw [<- String.toList_inj]
  simp only [toList_keepYear, keepLine_keepLine anchored plain]

lemma unified_keepYear (clean : '\r' ∉ words.toList) (unified : Unified source)
    (destination : String) : Unified (keepYear (line anchored words) words source destination) := by
  intro mem
  rw [toList_keepYear] at mem
  rcases mem_keepLine mem with inside | inside | inside | digit
  · exact unified inside
  · exact clean inside
  · exact absurd inside (by decide)
  · exact absurd digit (by decide)

end Year

lemma plain_of_all {words : List Char} (all : words.all (fun c => !isYearDigit c) = true) : ∀ c ∈ words, isYearDigit c = false := by
  simpa using all

lemma copyright_plain : ∀ c ∈ "Copyright ".toList, isYearDigit c = false :=
  plain_of_all rfl

lemma comment_plain : ∀ c ∈ "# Copyright ".toList, isYearDigit c = false :=
  plain_of_all rfl

lemma year_eq (source destination : String) (path : Path) : year source destination path =
    .ok (keepYear (line false "Copyright ") "Copyright " source destination) := rfl

lemma settles_year : Settles year where
  again merges := by
    rw [year_eq] at merges ⊢
    rw [<- Except.ok.inj merges, keepYear_keepYear copyright_plain]
  same merges := by
    rw [year_eq, keepYear_self] at merges
    exact (Except.ok.inj merges).symm
  unified source _ merges := by
    rw [year_eq] at merges
    rw [<- Except.ok.inj merges]
    exact unified_keepYear (by decide) source _

lemma gem_cases (path : Path) : (∀ source destination, gem source destination path = .ok destination) \/
      (∀ source destination, gem source destination path = .ok source) \/
      ∃ stays : String -> Bool, ∀ source destination, gem source destination path = .ok (if stays destination then destination
          else keepYear (line true "# Copyright ") "# Copyright " source destination) := by
  by_cases changelog : path.name = "CHANGELOG.md"
  · exact .inl fun source destination => by simp only [gem, changelog, if_true]
  · by_cases ruby : (endsWith path.name ".rb" || path.name = "Rakefile") = true
    · refine .inr (.inr ⟨fun text => path.name = "version.rb" && versionSetter.occursIn text, ?_⟩)
      intro source destination
      simp only [gem, if_neg changelog, if_pos ruby]
      rfl
    · have other : path.name ≠ "version.rb" := by
        intro same
        rw [same] at ruby
        exact ruby rfl
      refine .inr (.inl fun source destination => ?_)
      simp [gem, changelog, ruby, other]

lemma settles_gem : Settles gem where
  again {source destination merged path} merges := by
    rcases gem_cases path with stays | replaced | ⟨stays, either⟩
    · rw [stays]
    · rw [replaced] at merges ⊢
      exact merges
    · rw [either] at merges ⊢
      rw [<- Except.ok.inj merges]
      split
      · rfl
      · rw [keepYear_keepYear comment_plain, ite_self]
  same {source merged path} merges := by
    rcases gem_cases path with stays | replaced | ⟨stays, either⟩
    · exact (Except.ok.inj ((stays _ _).symm.trans merges)).symm
    · exact (Except.ok.inj ((replaced _ _).symm.trans merges)).symm
    · rw [either, keepYear_self, ite_self] at merges
      exact (Except.ok.inj merges).symm
  unified {source destination merged path} fromSource fromDestination merges := by
    rcases gem_cases path with stays | replaced | ⟨stays, either⟩
    · exact Except.ok.inj ((stays _ _).symm.trans merges) ▸ fromDestination
    · exact Except.ok.inj ((replaced _ _).symm.trans merges) ▸ fromSource
    · rw [either] at merges
      rw [<- Except.ok.inj merges]
      split
      · exact fromDestination
      · exact unified_keepYear (by decide) fromSource _

/-! ## From texts to bytes -/

lemma unified_unifyLineEnds (text : String) : Unified (unifyLineEnds text) :=
  free_unifyLineEnds text

variable {text : String} {bytes : ByteArray}

lemma unifyLineEnds_of_unified (unified : Unified text) : unifyLineEnds text = text :=
  unifyLineEnds_of_free unified

/-- The text that bytes are read as, if they can be read. -/
def decoded? (bytes : ByteArray) : Option String :=
  (String.fromUTF8? bytes).map unifyLineEnds

lemma unified_of_decoded? (read : decoded? bytes = some text) : Unified text := by
  rcases Option.map_eq_some_iff.mp read with ⟨raw, _, rfl⟩
  exact unified_unifyLineEnds raw

lemma decoded?_toUTF8 (unified : Unified text) : decoded? text.toUTF8 = some text := by
  rw [decoded?, fromUTF8?_toUTF8, Option.map_some, unifyLineEnds_of_unified unified]

def mergedBytes? (merge : Merge) (path : Path) (new old : ByteArray) : Option ByteArray := do
  let source <- decoded? new
  let destination <- decoded? old
  match merge source destination path with
  | .error _ => none
  | .ok merged =>
    if merged = destination then some old
    else if encodable merged then some merged.toUTF8
    else none

/-- The bytes at the end: a file is copied where its merge gives up. -/
def outcome (merge : Merge) (path : Path) (new old : ByteArray) : ByteArray :=
  (mergedBytes? merge path new old).getD new

variable {merge : Merge} {path : Path} {new old : ByteArray}

lemma mergedBytes?_eq_some (given : mergedBytes? merge path new old = some bytes) :
    ∃ source destination merged, decoded? new = some source /\ decoded? old = some destination /\
      merge source destination path = .ok merged /\ (merged = destination /\ bytes = old \/
        encodable merged = true /\ bytes = merged.toUTF8) := by
  rcases Option.bind_eq_some_iff.mp given with ⟨source, readNew, given⟩
  rcases Option.bind_eq_some_iff.mp given with ⟨destination, readOld, given⟩
  split at given
  · cases given
  next merged merges =>
    refine ⟨source, destination, merged, readNew, readOld, merges, ?_⟩
    split at given
    next same =>
      cases given
      exact .inl ⟨same, rfl⟩
    · rw [Option.ite_none_right_eq_some] at given
      rcases given with ⟨enc, written⟩
      cases written
      exact .inr ⟨enc, rfl⟩

lemma outcome_cases (merge : Merge) (path : Path) (new old : ByteArray) : outcome merge path new old = new \/
      ∃ source destination merged, decoded? new = some source /\ decoded? old = some destination /\
        merge source destination path = .ok merged /\ (merged = destination /\ outcome merge path new old = old \/
          outcome merge path new old = merged.toUTF8) := by
  rw [outcome]
  cases given : mergedBytes? merge path new old with
  | none => exact .inl rfl
  | some bytes =>
    rcases mergedBytes?_eq_some given with ⟨source, destination, merged, readNew, readOld, merges, kept | written⟩
    · exact .inr ⟨source, destination, merged, readNew, readOld, merges, .inl kept⟩
    · exact .inr ⟨source, destination, merged, readNew, readOld, merges, .inr written.2⟩

lemma outcome_of_merged (readNew : decoded? new = some source) (readOld : decoded? old = some destination)
    (merges : merge source destination path = .ok destination) : outcome merge path new old = old := by
  simp [outcome, mergedBytes?, readNew, readOld, merges]

lemma Settles.outcome_self (settles : Settles merge) : outcome merge path new new = new := by
  rcases outcome_cases merge path new new with copied | ⟨source, _, merged, readNew, readOld, merges, _⟩
  · exact copied
  · rw [readNew] at readOld
    cases readOld
    have same := settles.same merges
    rw [same] at merges
    exact outcome_of_merged readNew readNew merges

lemma Settles.outcome_outcome (settles : Settles merge) :
    outcome merge path new (outcome merge path new old) = outcome merge path new old := by
  rcases outcome_cases merge path new old with copied | ⟨source, destination, merged, readNew, readOld, merges, ⟨_, kept⟩ | written⟩
  · rw [copied, settles.outcome_self]
  · rw [kept, kept]
  · have unified := settles.unified (unified_of_decoded? readNew) (unified_of_decoded? readOld) merges
    rw [written]
    exact outcome_of_merged readNew (decoded?_toUTF8 unified) (settles.again merges)

end Refinery.Merge
