import Mathlib
import Refinery.Sample.Snippet

namespace Refinery.Snippet

open List Text

/-!
# Indentation that lines share

The lines with text lose as many spaces as the least indented of them has, so differences of indentation stay.
-/

variable {line rest : String} {lines : List String} {count : Nat}

/-- How far the lines with text are indented. -/
def indentations (lines : List String) : Set Nat :=
  {number | ∃ line ∈ lines, allBlank line = false /\ indentation line = number}

/-- What becomes of a line when lines with text lose a number of spaces. -/
inductive Unindented (count : Nat) : (line rest : String) -> Prop where
  | blank {line : String} (blank : allBlank line = true) : Unindented count line "\n"
  | shown {line rest : String} (shown : allBlank line = false) (parts : line = String.ofList (replicate count ' ') ++ rest)
    (remains : allBlank rest = false) (less : indentation line = count + indentation rest) : Unindented count line rest

lemma commonIndentation?_eq_some_iff : commonIndentation? lines = some count ↔ IsLeast (indentations lines) count := by
  rw [commonIndentation?, min?_eq_some_iff, IsLeast, mem_lowerBounds]
  simp [indentations, and_assoc]

lemma indentation_eq_zero_iff : indentation line = 0 ↔ line.toList.head? ≠ some ' ' := by
  rw [indentation]
  cases line.toList with
  | nil => simp
  | cons c rest => by_cases space : c = ' ' <;> simp [space]

lemma indentation_append (count : Nat) (rest : String) :
    indentation (String.ofList (replicate count ' ') ++ rest) = count + indentation rest := by
  rw [indentation, indentation, String.toList_append, String.toList_ofList, takeWhile_append_of_pos (by simp)]
  simp

lemma allBlank_append (count : Nat) (rest : String) :
    allBlank (String.ofList (replicate count ' ') ++ rest) = allBlank rest := by
  have blank : isBlank ' ' = true := by decide
  simp [allBlank, blank]

lemma eq_append_drop (enough : count <= indentation line) :
    line = String.ofList (replicate count ' ') ++ Text.drop count line := by
  have begins : line.toList.takeWhile (· == ' ') <+: line.toList := takeWhile_prefix _
  have spaces : ∀ c ∈ line.toList.take count, c = ' ' := by
    intro c mem
    have starts : line.toList.take count <+: line.toList.take (indentation line) := take_prefix_take_left enough
    rw [indentation, <- prefix_iff_eq_take.mp begins] at starts
    simpa using mem_takeWhile_imp (starts.subset mem)
  have length : (line.toList.take count).length = count := length_take_of_le (enough.trans begins.length_le)
  have same := eq_replicate_of_mem spaces
  rw [length] at same
  rw [<- String.toList_inj, String.toList_append, Text.drop, String.toList_ofList, String.toList_ofList, <- same, take_append_drop]

namespace Unindented

lemma of_le (shown : allBlank line = false) (enough : count <= indentation line) :
    Unindented count line (drop count line) := by
  have parts := eq_append_drop enough
  refine .shown shown parts ?_ ?_
  · rw [<- allBlank_append count, <- parts, shown]
  · rw [<- indentation_append, <- parts]

lemma of_lowerBound (bound : count ∈ lowerBounds (indentations lines)) (mem : line ∈ lines) :
    Unindented count line (if allBlank line then "\n" else drop count line) := by
  cases shown : allBlank line with
  | true => exact .blank shown
  | false => exact of_le shown (bound ⟨line, mem, shown, rfl⟩)

lemma again (unindented : Unindented count line rest) : (if allBlank rest then "\n" else drop 0 rest) = rest := by
  cases unindented with
  | blank _ => rfl
  | shown _ _ remains _ => simp [remains, Text.drop]

end Unindented

/-- The lines with text lose the spaces that all of them begin with, the others become empty, and trimming again
changes nothing. -/
theorem trimIndentation_exact (lines : List String) (text : ∃ line ∈ lines, allBlank line = false) :
    ∃ count trimmed, trimIndentation lines = .ok trimmed /\ Forall₂ (Unindented count) lines trimmed /\
      IsLeast (indentations lines) count /\ (∃ rest ∈ trimmed, allBlank rest = false /\ rest.toList.head? ≠ some ' ') /\
      trimIndentation trimmed = .ok trimmed := by
  have least : IsLeast (indentations lines) (sInf (indentations lines)) := by
    rcases text with ⟨line, mem, shown⟩
    exact ⟨Nat.sInf_mem ⟨_, line, mem, shown, rfl⟩, fun _ => Nat.sInf_le⟩
  generalize sInf (indentations lines) = count at least
  rcases least.1 with ⟨first, mem, shown, reached⟩
  have kept : drop count first ∈ lines.map fun line => if allBlank line then "\n" else drop count line :=
    mem_map.mpr ⟨first, mem, if_neg (by simp [shown])⟩
  have flush : allBlank (drop count first) = false /\ indentation (drop count first) = 0 := by
    have parts := eq_append_drop reached.ge
    refine ⟨by rw [<- allBlank_append count, <- parts, shown], ?_⟩
    have whole := indentation_append count (drop count first)
    rw [<- parts, reached] at whole
    exact Nat.left_eq_add.mp whole
  refine ⟨count, _, by rw [trimIndentation, commonIndentation?_eq_some_iff.mpr least], ?_, least,
    ⟨_, kept, flush.1, indentation_eq_zero_iff.mp flush.2⟩, ?_⟩
  · exact forall₂_map_right_iff.mpr (forall₂_same.mpr fun _ mem => .of_lowerBound least.2 mem)
  · rw [trimIndentation, commonIndentation?_eq_some_iff.mpr ⟨⟨_, kept, flush⟩, fun _ _ => Nat.zero_le _⟩]
    simp only [map_map]
    exact congrArg Except.ok (map_congr_left fun line mem => (Unindented.of_lowerBound least.2 mem).again)

def unevenLines : List String :=
  ["   a\n", " \t ", "  \tb\n", "    c"]

/-- A tab is not part of the indentation, and a line without a line feed gets one if it is blank. -/
theorem unevenLines_trimmed : trimIndentation unevenLines = .ok [" a\n", "\n", "\tb\n", "  c"] /\
    ∃ count trimmed, trimIndentation unevenLines = .ok trimmed /\ Forall₂ (Unindented count) unevenLines trimmed /\
      IsLeast (indentations unevenLines) count /\
      (∃ rest ∈ trimmed, allBlank rest = false /\ rest.toList.head? ≠ some ' ') /\ trimIndentation trimmed = .ok trimmed :=
  ⟨by rfl, trimIndentation_exact unevenLines ⟨"   a\n", by decide, by decide⟩⟩

end Refinery.Snippet
