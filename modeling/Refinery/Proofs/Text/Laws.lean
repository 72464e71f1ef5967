import Mathlib
import Refinery.Text.CharacterClass
import Refinery.Text.Search

namespace Refinery.Text

open List

/-!
# Laws of texts

A start of a text is an initial part of its characters, and an occurrence a part without gaps.  A text that is
put together from pieces or lines is taken apart into the same ones, and it is what its bytes are read as.
-/

variable {s part start : String}

lemma startsWith_iff : startsWith s start = true ↔ start.toList <+: s.toList :=
  isPrefixOf_iff_prefix

lemma splitFrom_ne_nil (sep : List Char) (skip : Nat) (piece cs : List Char) : splitFrom sep skip piece cs ≠ [] := by
  induction cs generalizing skip piece with
  | nil => simp [splitFrom]
  | cons c rest ih =>
    cases skip with
    | zero =>
      rw [splitFrom]
      split
      · exact cons_ne_nil _ _
      · exact ih 0 _
    | succ skip => exact ih skip piece

lemma one_lt_length_splitFrom {sep : List Char} (named : sep ≠ []) (piece cs : List Char) :
    1 < (splitFrom sep 0 piece cs).length ↔ sep <:+: cs := by
  induction cs generalizing piece with
  | nil => simp [splitFrom, named]
  | cons c rest ih =>
    rw [splitFrom, infix_cons_iff]
    by_cases found : sep.isPrefixOf (c :: rest) = true
    · have more := length_pos_iff.mpr (splitFrom_ne_nil sep (sep.length - 1) [] rest)
      rw [if_pos found, length_cons]
      exact iff_of_true (by omega) (.inl (List.isPrefixOf_iff_prefix.mp found))
    · rw [if_neg found, ih]
      have notHere : ¬ sep <+: c :: rest := fun here => found (List.isPrefixOf_iff_prefix.mpr here)
      exact ⟨Or.inr, fun somewhere => somewhere.resolve_left notHere⟩

lemma contains_iff : contains s part = true ↔ part.toList <:+: s.toList := by
  rw [contains]
  cases empty : part.isEmpty with
  | true =>
    have none : part.toList = [] := by
      rw [String.isEmpty_iff.mp empty]
      rfl
    simp [none]
  | false =>
    have named : part.toList ≠ [] := by
      intro none
      rw [String.toList_eq_nil_iff.mp none] at empty
      cases empty
    rw [split, empty, <- one_lt_length_splitFrom named []]
    simp

/-! ## Pieces and lines -/

section Mark

variable {mark : Char} {cs : List Char}

lemma splitFrom_free (piece : List Char) (free : mark ∉ cs) : splitFrom [mark] 0 piece cs = [piece.reverse ++ cs] := by
  induction cs generalizing piece with
  | nil => simp [splitFrom]
  | cons c rest ih =>
    have ne : ¬ mark = c := fun same => free (same ▸ mem_cons_self)
    rw [splitFrom, if_neg (by simpa using ne), ih _ fun mem => free (mem_cons_of_mem c mem)]
    simp

lemma splitFrom_append (piece rest : List Char) (free : mark ∉ cs) :
    splitFrom [mark] 0 piece (cs ++ mark :: rest) = (piece.reverse ++ cs) :: splitFrom [mark] 0 [] rest := by
  induction cs generalizing piece with
  | nil => simp [splitFrom]
  | cons c others ih =>
    have ne : ¬ mark = c := fun same => free (same ▸ mem_cons_self)
    rw [cons_append, splitFrom, if_neg (by simpa using ne), ih _ fun mem => free (mem_cons_of_mem c mem)]
    simp

end Mark

lemma linesFrom_append {cs : List Char} (line rest : List Char) (free : '\n' ∉ cs) :
    linesFrom line (cs ++ '\n' :: rest) = (line.reverse ++ cs ++ ['\n']) :: linesFrom [] rest := by
  induction cs generalizing line with
  | nil => simp [linesFrom]
  | cons c others ih =>
    have ne : ¬ c = '\n' := fun same => free (same ▸ mem_cons_self)
    rw [cons_append, linesFrom, if_neg ne, ih _ fun mem => free (mem_cons_of_mem c mem)]
    simp

lemma lines_append (rest : String) (free : '\n' ∉ s.toList) : lines (s ++ "\n" ++ rest) = (s ++ "\n") :: lines rest := by
  have chars : (s ++ "\n" ++ rest).toList = s.toList ++ '\n' :: rest.toList := by simp
  have line : String.ofList (s.toList ++ ['\n']) = s ++ "\n" := by
    rw [<- String.toList_inj]
    simp
  rw [lines, chars, linesFrom_append [] rest.toList free, map_cons, reverse_nil, nil_append, line, lines]

lemma lines_join {texts : List String} (free : ∀ text ∈ texts, '\n' ∉ text.toList) :
    lines (String.join (texts.map (· ++ "\n"))) = texts.map (· ++ "\n") := by
  induction texts with
  | nil => rfl
  | cons first rest ih =>
    rw [map_cons, String.join_cons, lines_append _ (free first mem_cons_self),
      ih fun text mem => free text (mem_cons_of_mem first mem)]

lemma linesFrom_free {line : List Char} (free : '\n' ∉ line) (more : List Char) :
    linesFrom more line = linesFrom (line.reverse ++ more) [] := by
  induction line generalizing more with
  | nil => rfl
  | cons c rest ih =>
    have ne : ¬ c = '\n' := fun same => free (same ▸ mem_cons_self)
    rw [linesFrom, if_neg ne, ih fun mem => free (mem_cons_of_mem c mem)]
    simp

lemma flatten_linesFrom (line cs : List Char) : (linesFrom line cs).flatten = line.reverse ++ cs := by
  fun_induction linesFrom line cs with
  | case1 => rfl
  | case2 => simp
  | case3 line rest ih => simp [ih]
  | case4 line c rest _ ih => simp [ih]

lemma linesFrom_flatten {line cs : List Char} {kept : List (List Char)} (free : '\n' ∉ line)
    (part : kept.Sublist (linesFrom line cs)) : linesFrom [] kept.flatten = kept := by
  fun_induction linesFrom line cs generalizing kept with
  | case1 =>
    rw [sublist_nil.mp part]
    rfl
  | case2 c more =>
    rcases sublist_singleton.mp part with rfl | rfl
    · rfl
    · have free : '\n' ∉ (c :: more).reverse := fun mem => free (mem_reverse.mp mem)
      rw [flatten_singleton, linesFrom_free free, reverse_reverse, append_nil, linesFrom]
  | case3 line rest ih =>
    rcases sublist_cons_iff.mp part with later | ⟨others, rfl, later⟩
    · exact ih not_mem_nil later
    · have free : '\n' ∉ line.reverse := fun mem => free (mem_reverse.mp mem)
      have split : ('\n' :: line).reverse ++ others.flatten = line.reverse ++ '\n' :: others.flatten := by simp
      rw [flatten_cons, split, linesFrom_append [] _ free, ih not_mem_nil later]
      simp
  | case4 line c rest inside ih => exact ih (by simpa [Ne.symm inside] using free) part

lemma toList_join_sublist {kept : List String} (part : kept.Sublist (lines s)) : (String.join kept).toList.Sublist s.toList := by
  have chars := (part.map String.toList).flatten
  rw [lines, map_map, <- flatMap_def, <- String.toList_join] at chars
  simpa [Function.comp_def, flatten_linesFrom] using chars

lemma lines_join_sublist {kept : List String} (part : kept.Sublist (lines s)) : lines (String.join kept) = kept := by
  have chars := part.map String.toList
  rw [lines, map_map] at chars
  rw [lines, String.toList_join, flatMap_def, linesFrom_flatten not_mem_nil (by simpa [Function.comp_def] using chars), map_map]
  simp [Function.comp_def]

lemma mem_unifyFrom (text : List Char) : '\r' ∉ unifyFrom text := by
  fun_induction unifyFrom text with
  | case1 => simp
  | case2 rest ih => simpa using ih
  | case3 c rest _ ih =>
    by_cases carriage : c = '\r'
    · simpa [carriage] using ih
    · simpa [carriage, Ne.symm carriage] using ih

lemma free_unifyLineEnds (s : String) : '\r' ∉ (unifyLineEnds s).toList := by
  rw [unifyLineEnds]
  split
  · rw [String.toList_ofList]
    exact mem_unifyFrom _
  next mixed => simpa using mixed

lemma unifyLineEnds_of_free (free : '\r' ∉ s.toList) : unifyLineEnds s = s := by
  rw [unifyLineEnds, if_neg]
  simpa using free

/-! ## Blank ends -/

lemma trim_eq_self_iff : trim s = s ↔
    s.toList.dropWhile isBlank = s.toList /\ s.toList.reverse.dropWhile isBlank = s.toList.reverse := by
  have chars : (trim s).toList = ((s.toList.dropWhile isBlank).reverse.dropWhile isBlank).reverse := by
    rw [trim, trimBy, trimRightBy, trimLeftBy, String.toList_ofList, String.toList_ofList]
  rw [<- String.toList_inj, chars]
  constructor
  · intro same
    have front : s.toList.dropWhile isBlank = s.toList := by
      apply (dropWhile_suffix isBlank).eq_of_length_le
      have shorter := (dropWhile_suffix isBlank (l := (s.toList.dropWhile isBlank).reverse)).length_le
      have whole := congrArg List.length same
      rw [length_reverse] at whole shorter
      rwa [whole] at shorter
    rw [front] at same
    exact ⟨front, reverse_eq_iff.mp same⟩
  · rintro ⟨front, back⟩
    rw [front, back, reverse_reverse]

lemma fromUTF8?_toUTF8 (s : String) : String.fromUTF8? s.toUTF8 = some s := by
  rw [String.fromUTF8?, String.toUTF8_eq_toByteArray, dif_pos s.isValidUTF8]
  rfl

end Refinery.Text
