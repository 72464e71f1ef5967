import Refinery.Maven.Method
import Refinery.Proofs.Transfer.Placing
import Refinery.Proofs.Workspace.Writing

namespace Refinery.Maven

open List Text Job

/-!
# Methods that are removed

A block starts at a line with the signature and goes on to the first later line that is indented like the last
signature and closes it.  The lines outside of all blocks stay.
-/

/-- A line of blanks and then the signature. -/
def isSigned (signature line : String) : Bool :=
  startsWith (trimLeft line) signature

def indentation (line : String) : String :=
  String.ofList (line.toList.takeWhile isBlank)

def Starts (signature : String) (lines : List String) (position : Nat) : Prop :=
  lines[position]?.any (isSigned signature) = true

instance decidableStarts (signature : String) (lines : List String) (position : Nat) :
    Decidable (Starts signature lines position) :=
  inferInstanceAs (Decidable (_ = true))

def Ends (signature : String) (lines : List String) (position : Nat) : Prop :=
  ∃ start < position, Starts signature lines start /\ (∀ between < position, start < between -> ¬ Starts signature lines between) /\
    lines[start]?.any (fun first => lines[position]?.any fun line =>
      startsWith line (indentation first ++ "\x7d")) = true

instance decidableEnds (signature : String) (lines : List String) (position : Nat) :
    Decidable (Ends signature lines position) :=
  inferInstanceAs (Decidable (∃ start < position, _))

def Inside (signature : String) (lines : List String) (position : Nat) : Prop :=
  ∃ start ≤ position, Starts signature lines start /\ ∀ between < position, start < between -> ¬ Ends signature lines between

instance decidableInside (signature : String) (lines : List String) (position : Nat) :
    Decidable (Inside signature lines position) :=
  inferInstanceAs (Decidable (∃ start ≤ position, _))

/-- The lines outside of all blocks. -/
def outside (signature : String) (lines : List String) : List String :=
  (lines.zipIdx.filter fun entry => ¬ Inside signature lines entry.2).map Prod.fst

variable {signature line : String} {lines rest : List String} {close : Option String} {pos : Nat}

lemma outside_sublist (signature : String) (lines : List String) : (outside signature lines).Sublist lines := by
  have part : (outside signature lines).Sublist (lines.zipIdx.map Prod.fst) :=
    filter_sublist.map Prod.fst
  rwa [zipIdx_map_fst] at part

lemma unsigned_outside (kept : line ∈ outside signature lines) : isSigned signature line = false := by
  obtain ⟨⟨_, pos⟩, mem, rfl⟩ := mem_map.mp kept
  obtain ⟨found, apart⟩ := mem_filter.mp mem
  by_contra signed
  refine of_decide_eq_true apart ⟨pos, le_rfl, ?_, fun between early late => by omega⟩
  rw [Starts, mem_zipIdx_iff_getElem?.mp found]
  simpa using signed

lemma indentation?_eq {first : Char} (begins : signature.toList.head? = some first)
    (visible : isBlank first = false) (line : String) :
    indentation? signature line = if isSigned signature line then some (indentation line) else none := by
  obtain ⟨more, chars⟩ := List.head?_eq_some_iff.mp begins
  have each (cs : List Char) : indentationFrom? (first :: more) cs =
      if (first :: more).isPrefixOf (cs.dropWhile isBlank) then some (cs.takeWhile isBlank)
      else none := by
    induction cs with
    | nil => rfl
    | cons c rest ih =>
      rw [indentationFrom?, ih]
      cases blank : isBlank c with
      | true =>
        have ne : first ≠ c := by
          rintro rfl
          rw [visible] at blank
          cases blank
        by_cases signed : (first :: more).isPrefixOf (rest.dropWhile isBlank) = true <;>
          simp [blank, signed, ne]
      | false => simp [blank]
  rw [indentation?, chars, each, isSigned, startsWith, trimLeft, trimLeftBy,
    String.toList_ofList, chars, indentation]
  by_cases signed : (first :: more).isPrefixOf (line.toList.dropWhile isBlank) = true <;> simp [signed]

/-! ## The pass over the lines -/

def closeAfter (signature : String) (close : Option String) (line : String) : Option String :=
  if isSigned signature line then some (closing (indentation line))
  else close.filter fun mark => !startsWith line mark

def Remembers (signature : String) (lines : List String) (position : Nat) : Option String -> Prop
  | none => ∀ start < position, Starts signature lines start ->
      ∃ stop < position, start < stop /\ Ends signature lines stop
  | some mark => ∃ start < position, Starts signature lines start /\
      (∀ between < position, start < between -> ¬ Starts signature lines between /\ ¬ Ends signature lines between) /\
      ∃ first, lines[start]? = some first /\ mark = closing (indentation first)

section Step

variable (remembers : Remembers signature lines pos close) (here : lines[pos]? = some line)

include here

lemma starts_iff : Starts signature lines pos ↔ isSigned signature line = true := by
  rw [Starts, here, Option.any_some]

include remembers

lemma inside_iff : Inside signature lines pos ↔ isSigned signature line = true \/ close.isSome := by
  constructor
  · rintro ⟨start, early, starts, clear⟩
    rcases Nat.eq_or_lt_of_le early with rfl | before
    · exact .inl ((starts_iff here).mp starts)
    cases close with
    | none =>
      obtain ⟨stop, within, after, ends⟩ := remembers start before starts
      exact absurd ends (clear stop within after)
    | some mark => exact .inr rfl
  · rintro (signed | isOpen)
    · exact ⟨pos, le_rfl, (starts_iff here).mpr signed, fun between early late => by omega⟩
    · rcases Option.isSome_iff_exists.mp isOpen with ⟨mark, rfl⟩
      obtain ⟨start, early, starts, clear, -⟩ := remembers
      exact ⟨start, early.le, starts, fun between within after => (clear between within after).2⟩

lemma Remembers.step : Remembers signature lines (pos + 1) (closeAfter signature close line) := by
  rw [closeAfter]
  by_cases signed : isSigned signature line = true
  · rw [if_pos signed]
    exact ⟨pos, by omega, (starts_iff here).mpr signed, fun between early late => by omega, line, here, rfl⟩
  have unsigned : ¬ Starts signature lines pos := fun starts => signed ((starts_iff here).mp starts)
  have earlier {start : Nat} (within : start < pos + 1) (starts : Starts signature lines start) : start < pos := by
    rcases Nat.lt_succ_iff_lt_or_eq.mp within with before | rfl
    · exact before
    · exact absurd starts unsigned
  rw [if_neg signed]
  cases close with
  | none =>
    intro start within starts
    obtain ⟨stop, before, after⟩ := remembers start (earlier within starts) starts
    exact ⟨stop, by omega, after⟩
  | some mark =>
    obtain ⟨start, early, starts, clear, first, opened, rfl⟩ := remembers
    have last (other : Nat) (before : other < pos) (also : Starts signature lines other) : other <= start := by
      by_contra later
      exact (clear other before (by omega)).1 also
    have ends : Ends signature lines pos ↔ startsWith line (closing (indentation first)) = true := by
      constructor
      · rintro ⟨other, before, also, none, found⟩
        have same : other = start := le_antisymm (last other before also) (not_lt.mp fun less => none start early less starts)
        simpa [same, opened, here, closing] using found
      · intro found
        exact ⟨start, early, starts, fun between within after => (clear between within after).1,
          by simpa [opened, here, closing] using found⟩
    by_cases found : startsWith line (closing (indentation first)) = true
    · rw [Option.filter_some, found]
      intro other within also
      have before := earlier within also
      exact ⟨pos, by omega, before, ends.mpr found⟩
    · rw [Option.filter_some, Bool.eq_false_iff.mpr found]
      refine ⟨start, by omega, starts, fun between within after => ?_, first, opened, rfl⟩
      rcases Nat.lt_succ_iff_lt_or_eq.mp within with before | rfl
      · exact clear between before after
      · exact ⟨unsigned, fun stops => found (ends.mp stops)⟩

end Step

section Signature

variable {first : Char} (begins : signature.toList.head? = some first)
  (visible : isBlank first = false)

include begins visible

lemma withoutMethods_cons (close : Option String) (line : String) (rest : List String) :
    withoutMethods signature close (line :: rest) = (if isSigned signature line = true \/ close.isSome then [] else [line]) ++
        withoutMethods signature (closeAfter signature close line) rest := by
  rw [withoutMethods.eq_def, closeAfter]
  by_cases signed : isSigned signature line = true
  · simp [indentation?_eq begins visible, signed]
  cases close with
  | none => simp [indentation?_eq begins visible, signed]
  | some mark =>
    cases found : startsWith line mark <;>
      simp [indentation?_eq begins visible, signed, found, Option.filter_some]

lemma withoutMethods_eq (pos : Nat) (remembers : Remembers signature lines pos close)
    (left : lines.drop pos = rest) : withoutMethods signature close rest =
      ((rest.zipIdx pos).filter fun entry => ¬ Inside signature lines entry.2).map Prod.fst := by
  induction rest generalizing pos close with
  | nil => rfl
  | cons line rest ih =>
    have here : lines[pos]? = some line := by
      rw [<- List.head?_drop, left, List.head?_cons]
    have after : lines.drop (pos + 1) = rest := by
      rw [<- tail_drop, left, tail_cons]
    rw [withoutMethods_cons begins visible, ih _ (remembers.step here) after, zipIdx_cons, filter_cons]
    by_cases inside : Inside signature lines pos
    · rw [if_pos ((inside_iff remembers here).mp inside), if_neg (by simpa using inside), nil_append]
    · rw [if_neg fun so => inside ((inside_iff remembers here).mpr so), if_pos (by simpa using inside)]
      rfl

lemma withoutMethods_outside (lines : List String) : withoutMethods signature none lines = outside signature lines :=
  withoutMethods_eq begins visible 0 (fun _ early => by omega) rfl

lemma withoutMethods_unsigned (unsigned : ∀ line ∈ lines, isSigned signature line = false) :
    withoutMethods signature none lines = lines := by
  induction lines with
  | nil => rfl
  | cons line rest ih =>
    rw [withoutMethods_cons begins visible, closeAfter, unsigned line mem_cons_self, if_neg Bool.false_ne_true]
    simpa using ih fun other mem => unsigned other (mem_cons_of_mem line mem)

/-- Removing a method writes the lines outside of its blocks, and changes nothing the second time. -/
theorem removeMethod_outside {w : Workspace} {path text : String} {place : Place} {file : FileNode}
    (sound : w.Sound) (located : w.placeOf path true = .ok place)
    (there : w.tree.get? place = some (.file file)) (decoded : Merge.decoded? file.content = some text)
    (encodable : Text.encodable text = true) : ∃ kept later, kept = outside signature (Text.lines text) /\
      (removeMethod path signature).execute w = (.ok (), later) /\
      later = w.put (some (place, .file { file with content := (String.join kept).toUTF8, age := 0 })) /\
      kept.Sublist (Text.lines text) /\ (∀ line ∈ kept, isSigned signature line = false) /\
      (removeMethod path signature).execute later = (.ok (), later) := by
  have part := outside_sublist signature (lines text)
  have unsigned : ∀ line ∈ outside signature (lines text), isSigned signature line = false :=
    fun line => unsigned_outside
  have edited := withoutMethods_outside begins visible (lines text)
  generalize outside signature (lines text) = kept at part unsigned edited
  have chars := toList_join_sublist part
  have free : '\r' ∉ (String.join kept).toList :=
    fun member => Merge.unified_of_decoded? decoded (chars.subset member)
  have writable : Text.encodable (String.join kept) = true := by
    rw [Text.encodable, Bool.not_eq_true', List.any_eq_false] at encodable ⊢
    exact fun c member => encodable c (chars.subset member)
  have wrote : (writeText path (String.join kept)).execute w =
      (.ok (), w.put (some (place, .file { file with content := (String.join kept).toUTF8, age := 0 }))) := by
    rw [execute_writeText writable]
    simp only [Workspace.writing, located, there]
  have read := execute_readText located there
  rw [decoded] at read
  refine ⟨kept, _, rfl, ?_, rfl, part, unsigned, ?_⟩
  · rw [removeMethod, editLines, bind_ok read, edited]
    exact wrote
  · rw [removeMethod, editLines, bind_ok (readText_written sound wrote free),
      lines_join_sublist part, withoutMethods_unsigned begins visible unsigned]
    exact writeText_again sound wrote

end Signature

def nested : Workspace where
  tree := ⟨[(["w"], .directory), (["w", "A"], .file { content := "a\r\n  m(1\n \x7d\n m(2\n  \x7d\n \x7d\nb\nm(3\n \x7d".toUTF8 })]⟩
  directory := ["w"]

/-- A brace closes the last signature only if it is indented like it. -/
theorem nested_outside : outside "m(" ["a\n", "  m(1\n", " \x7d\n", " m(2\n", "  \x7d\n", " \x7d\n", "b\n", "m(3\n", " \x7d"] =
      ["a\n", "b\n"] /\ ∃ kept later, (removeMethod "A" "m(").execute nested = (.ok (), later) /\
      later = nested.put (some (["w", "A"], .file { content := (String.join kept).toUTF8 })) /\
      (removeMethod "A" "m(").execute later = (.ok (), later) := by
  have begins : "m(".toList.head? = some 'm' := by decide
  have sound : nested.Sound := by decide
  have located : nested.placeOf "A" true = .ok ["w", "A"] := rfl
  rcases removeMethod_outside begins (by decide) sound located rfl rfl (by decide) with ⟨kept, later, -, ran, wrote, -, -, again⟩
  exact ⟨by decide +kernel, kept, later, ran, wrote, again⟩

end Refinery.Maven
