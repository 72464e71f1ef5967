import Refinery.Proofs.Json.Number

namespace Refinery.Json

open List Text Doc

/-!
# JSON is read as it was written

Every character of a text is escaped in a way that is undone by reading, and what stands between the items of
a list or map is skipped.
-/

/-! ## Code units -/

variable {code digit : Nat} {items : List Doc} {fields : List (String × String)} {first : Char} {s : String}

lemma hex_four (small : code < 0x10000) : (hex 4 code).toList =
    [Nat.digitChar (code / 0x1000), Nat.digitChar (code / 0x100 % 16), Nat.digitChar (code / 16 % 16),
      Nat.digitChar (code % 16)] := by
  have digits (n : Nat) := Nat.toDigits_eq_if (b := 16) (n := n) (by decide)
  have zero : Nat.digitChar 0 = '0' := rfl
  rw [hex, String.toList_ofList, digits code, digits (code / 16), digits (code / 16 / 16), digits (code / 16 / 16 / 16)]
  simp only [Nat.div_div_eq_div_mul, Nat.reduceMul]
  by_cases one : code < 16
  · simp [one, List.replicate, zero, Nat.div_eq_of_lt (show code < 0x1000 by omega),
      Nat.div_eq_of_lt (show code < 0x100 by omega), Nat.div_eq_of_lt one, Nat.mod_eq_of_lt one]
  by_cases two : code / 16 < 16
  · simp [one, two, List.replicate, zero, Nat.div_eq_of_lt (show code < 0x1000 by omega),
      Nat.div_eq_of_lt (show code < 0x100 by omega), Nat.mod_eq_of_lt two]
  by_cases three : code / 256 < 16
  · simp [one, two, three, zero, Nat.div_eq_of_lt (show code < 0x1000 by omega), Nat.mod_eq_of_lt three]
  · have four : code / 4096 < 16 := by omega
    simp [one, two, three, four]

lemma hexDigit?_digitChar (small : digit < 16) : hexDigit? (Nat.digitChar digit) = some digit := by
  revert digit
  decide

lemma hexFour?_hex (small : code < 0x10000) (rest : List Char) :
    hexFour? ((hex 4 code).toList ++ rest) = some (code, rest) := by
  rw [hex_four small]
  have first : code / 0x1000 < 16 := by omega
  have whole : ((code / 0x1000 * 16 + code / 0x100 % 16) * 16 + code / 16 % 16) * 16 + code % 16 = code := by
    omega
  simp [hexFour?, hexDigit?_digitChar, first, Nat.mod_lt, whole]

/-! ## Texts -/

section Characters

variable {c : Char}

lemma codeOf_of_whole (whole : isHalf c = false) : codeOf c = c.toNat := by
  rw [codeOf, if_neg (by simp [whole])]

lemma not_surrogate (c : Char) : isSurrogateCode c.toNat = false := by
  have valid : c.toNat < 0xD800 \/ 0xDFFF < c.toNat /\ c.toNat < 0x110000 := c.valid
  simp only [isSurrogateCode, Bool.and_eq_false_iff, decide_eq_false_iff_not]
  omega

lemma ofCode_toNat (c : Char) : ofCode c.toNat = c := by
  rw [ofCode, if_neg (by simp [not_surrogate c]), Char.ofNat_toNat]

lemma unit_toNat (c : Char) (rest : List Char) : unit c.toNat rest = (c, rest) := by
  have apart := not_surrogate c
  simp only [isSurrogateCode, Bool.and_eq_false_iff, decide_eq_false_iff_not] at apart
  unfold unit
  rw [if_neg (by simp only [Bool.and_eq_true, decide_eq_true_eq]; omega), ofCode_toNat]

lemma unit_pair (high : 0x10000 <= c.toNat) (rest : List Char) : unit (0xD800 + (c.toNat - 0x10000) / 0x400)
      (escapedUnit (0xDC00 + (c.toNat - 0x10000) % 0x400) ++ rest) = (c, rest) := by
  have valid : c.toNat < 0xD800 \/ 0xDFFF < c.toNat /\ c.toNat < 0x110000 := c.valid
  generalize beyond : c.toNat - 0x10000 = n
  have joined : 0x10000 + (0xD800 + n / 0x400 - 0xD800) * 0x400 + (0xDC00 + n % 0x400 - 0xDC00) = c.toNat := by omega
  have isUpper : (decide (0xD800 <= 0xD800 + n / 0x400) && decide (0xD800 + n / 0x400 < 0xDC00)) = true := by
    simp
    omega
  have isLower : (decide (0xDC00 <= 0xDC00 + n % 0x400) && decide (0xDC00 + n % 0x400 < 0xE000)) = true := by
    simp
    omega
  rw [escapedUnit, cons_append, cons_append, unit, if_pos isUpper]
  simp only [hexFour?_hex (show 0xDC00 + n % 0x400 < 0x10000 by omega)]
  rw [if_pos isLower, joined, Char.ofNat_toNat]

lemma string?_escapedUnit (small : code < 0x10000) (fuel : Nat) (done rest : List Char) :
    string? (fuel + 1) done (escapedUnit code ++ rest) = string? fuel ((unit code rest).1 :: done) (unit code rest).2 := by
  rw [escapedUnit, cons_append, cons_append, string?, if_neg (by decide), if_pos rfl]
  simp only [hexFour?_hex small]

def escapeMarks : List (Char × Char) :=
  [('"', '"'), ('\\', '\\'), ('n', '\n'), ('r', '\r'), ('t', '\t'), ('f', '\x0c'), ('b', '\x08')]

lemma escapedChar_cases (c : Char) : (∃ mark, escapedChar c = ['\\', mark] /\ (mark, c) ∈ escapeMarks) \/
    (escapedChar c = [c] /\ c ≠ '"' /\ c ≠ '\\' /\ 32 <= c.toNat /\ c.toNat < 127) \/
    (escapedChar c = escapedUnit (codeOf c) /\ codeOf c < 0x10000) \/
    (escapedChar c = escapedUnit (0xD800 + (c.toNat - 0x10000) / 0x400) ++
      escapedUnit (0xDC00 + (c.toNat - 0x10000) % 0x400) /\ 0x10000 <= codeOf c) := by
  by_cases listed : c ∈ escapeMarks.map Prod.snd
  · rcases mem_map.mp listed with ⟨⟨mark, _⟩, found, rfl⟩
    have written : ∀ pair ∈ escapeMarks, escapedChar pair.2 = ['\\', pair.1] := by decide
    exact .inl ⟨mark, written (mark, _) found, found⟩
  · simp only [escapeMarks, map_cons, map_nil, mem_cons, not_mem_nil, or_false, not_or] at listed
    obtain ⟨quote, backslash, feed, carriage, tab, form, back⟩ := listed
    rw [escapedChar, if_neg quote, if_neg backslash, if_neg feed, if_neg carriage, if_neg tab, if_neg form, if_neg back]
    split
    next printable =>
      simp only [Bool.and_eq_true, decide_eq_true_eq] at printable
      exact .inr (.inl ⟨rfl, quote, backslash, printable⟩)
    · by_cases narrow : codeOf c < 0x10000
      · exact .inr (.inr (.inl ⟨if_pos narrow, narrow⟩))
      · exact .inr (.inr (.inr ⟨if_neg narrow, Nat.le_of_not_lt narrow⟩))

lemma string?_escapedChar (whole : isHalf c = false) (fuel : Nat) (done rest : List Char) :
    string? (fuel + 1) done (escapedChar c ++ rest) = string? fuel (c :: done) rest := by
  have code := codeOf_of_whole whole
  rcases escapedChar_cases c with ⟨mark, chars, listed⟩ | ⟨chars, quote, backslash, least, -⟩ | ⟨chars, narrow⟩ | ⟨chars, wide⟩
  · simp only [escapeMarks, mem_cons, Prod.mk.injEq, not_mem_nil, or_false] at listed
    rcases listed with ⟨rfl, rfl⟩ | ⟨rfl, rfl⟩ | ⟨rfl, rfl⟩ | ⟨rfl, rfl⟩ | ⟨rfl, rfl⟩ | ⟨rfl, rfl⟩ | ⟨rfl, rfl⟩ <;> rfl
  · rw [chars, singleton_append, string?.eq_def]
    simp only [if_neg quote, if_neg backslash, if_neg (Nat.not_lt.mpr least)]
  · rw [chars, code, string?_escapedUnit (code ▸ narrow), unit_toNat]
  · have valid : c.toNat < 0xD800 \/ 0xDFFF < c.toNat /\ c.toNat < 0x110000 := c.valid
    rw [chars, append_assoc, string?_escapedUnit (by omega), unit_pair (code ▸ wide)]

end Characters

lemma escapedChar_ne_nil (c : Char) : escapedChar c ≠ [] := by
  rcases escapedChar_cases c with ⟨mark, chars, -⟩ | ⟨chars, -⟩ | ⟨chars, -⟩ | ⟨chars, -⟩ <;> rw [chars]
  · exact cons_ne_nil _ _
  · exact cons_ne_nil _ _
  · exact cons_ne_nil _ _
  · exact append_ne_nil_of_left_ne_nil (cons_ne_nil _ _) _

lemma length_le_escaped (cs : List Char) : cs.length <= (cs.flatMap escapedChar).length := by
  induction cs with
  | nil => exact Nat.le_refl 0
  | cons c rest ih =>
    have some := length_pos_iff.mpr (escapedChar_ne_nil c)
    rw [flatMap_cons, length_append, length_cons]
    omega

def isClear (c : Char) : Bool :=
  c == '\n' || (32 <= c.toNat && c.toNat < 127)

lemma encodable_of_isClear {text : String} (clear : text.toList.all isClear = true) : Text.encodable text = true := by
  have whole : text.toList.any isHalf = false := by
    refine any_eq_false.mpr fun c mem => ?_
    have plain := all_eq_true.mp clear c mem
    by_cases newline : c = '\n'
    · rw [newline]
      decide
    · have small : c.toNat < 127 := by simp_all [isClear]
      have below : ¬ firstHalf <= c.toNat := by
        unfold firstHalf
        omega
      simp [isHalf, below]
  rw [Text.encodable, whole]
  rfl

lemma isClear_digitChar (small : digit < 16) : isClear (Nat.digitChar digit) = true := by
  revert digit
  decide

lemma clear_escapedUnit (small : code < 0x10000) : (escapedUnit code).all isClear = true := by
  have first : code / 0x1000 < 16 := by omega
  have marks : isClear '\\' = true /\ isClear 'u' = true := by decide
  simp [escapedUnit, hex_four small, isClear_digitChar, first, Nat.mod_lt, marks]

lemma clear_escapedChar (c : Char) : (escapedChar c).all isClear = true := by
  rcases escapedChar_cases c with ⟨mark, chars, listed⟩ | ⟨chars, -, -, printable⟩ | ⟨chars, narrow⟩ | ⟨chars, -⟩ <;> rw [chars]
  · have marks : ∀ pair ∈ escapeMarks, ['\\', pair.1].all isClear = true := by decide
    exact marks (mark, c) listed
  · simp [isClear, printable]
  · exact clear_escapedUnit narrow
  · have valid : c.toNat < 0xD800 \/ 0xDFFF < c.toNat /\ c.toNat < 0x110000 := c.valid
    rw [all_append, clear_escapedUnit (by omega), clear_escapedUnit (by omega)]
    rfl

lemma clear_string (s : String) : (string s).toList.all isClear = true := by
  have quote : isClear '"' = true := by decide
  rw [string, String.toList_ofList, all_cons, all_append, all_flatMap]
  simp [quote, clear_escapedChar]

lemma string?_escaped {cs : List Char} (whole : ∀ c ∈ cs, isHalf c = false)
    (done rest : List Char) {fuel : Nat} (enough : cs.length < fuel) :
    string? fuel done (cs.flatMap escapedChar ++ '"' :: rest) = some (String.ofList (done.reverse ++ cs), rest) := by
  induction cs generalizing fuel done with
  | nil =>
    cases fuel with
    | zero => cases enough
    | succ fuel => simp [string?]
  | cons c others ih =>
    cases fuel with
    | zero => cases enough
    | succ fuel =>
      have later := ih (fun other mem => whole other (mem_cons_of_mem c mem)) (c :: done) (by simpa using enough)
      rw [flatMap_cons, append_assoc, string?_escapedChar (whole c mem_cons_self), later]
      simp

lemma string?_string (enc : Text.encodable s = true) (rest : List Char) : ∃ body, (string s).toList = '"' :: body /\
      string? ((body ++ rest).length + 1) [] (body ++ rest) = some (s, rest) := by
  refine ⟨s.toList.flatMap escapedChar ++ ['"'], by rw [string, String.toList_ofList], ?_⟩
  have whole : ∀ c ∈ s.toList, isHalf c = false := by
    simpa [Text.encodable] using enc
  have long := length_le_escaped s.toList
  rw [append_assoc, singleton_append, string?_escaped whole [] rest (by
    rw [length_append]
    omega)]
  simp

/-! ## Items -/

def Gap (cs : List Char) : Prop :=
  ∀ c ∈ cs, isGap c = true

lemma skipGap_sharp (sharp : isGap first = false) (rest : List Char) : skipGap (first :: rest) = first :: rest :=
  dropWhile_cons_of_neg (by simp [sharp])

lemma skipGap_gap {gap : List Char} (blank : Gap gap) (sharp : isGap first = false)
    (rest : List Char) : skipGap (gap ++ first :: rest) = first :: rest := by
  rw [skipGap, dropWhile_append_of_pos blank]
  exact skipGap_sharp sharp rest

structure Reads (strict : Bool) (doc : Doc) (cs : List Char) : Prop where
  clear : cs.all isClear = true
  opens : ∃ first rest, cs = first :: rest /\ isGap first = false /\ first ≠ ']'
  read : ∀ fuel rest, cs.length < fuel -> Ends rest -> value? strict fuel (cs ++ rest) = some (doc, rest)

namespace Reads

variable {strict : Bool} {doc : Doc} {cs gap : List Char}

lemma skipGap (reads : Reads strict doc cs) (blank : Gap gap) (rest : List Char) :
    Json.skipGap (gap ++ (cs ++ rest)) = cs ++ rest := by
  obtain ⟨first, others, rfl, sharp, -⟩ := reads.opens
  exact skipGap_gap blank sharp (others ++ rest)

lemma length_pos (reads : Reads strict doc cs) : 0 < cs.length := by
  obtain ⟨first, others, rfl, -⟩ := reads.opens
  exact Nat.succ_pos _

end Reads

variable {doc : Doc}

lemma reads_string (strict : Bool) (enc : Text.encodable s = true) : Reads strict (.text s) (string s).toList := by
  refine ⟨clear_string s, ?_, ?_⟩
  · rcases string?_string enc [] with ⟨body, chars, -⟩
    exact ⟨'"', body, chars, rfl, by decide⟩
  · intro fuel rest enough _
    obtain ⟨body, chars, read⟩ := string?_string enc rest
    cases fuel with
    | zero => cases enough
    | succ fuel =>
      rw [chars, cons_append, value?, if_pos rfl, read]
      rfl

lemma reads_word {word : String} (listed : (word, doc) ∈
    [("null", Doc.null), ("true", .bool true), ("false", .bool false)]) (strict : Bool) : Reads strict doc word.toList := by
  have chars : ("null".toList = ['n', 'u', 'l', 'l'] /\ "true".toList = ['t', 'r', 'u', 'e']) /\
      "false".toList = ['f', 'a', 'l', 's', 'e'] := by simp
  simp only [mem_cons, Prod.mk.injEq, not_mem_nil, or_false] at listed
  rcases listed with ⟨rfl, rfl⟩ | ⟨rfl, rfl⟩ | ⟨rfl, rfl⟩ <;> simp only [chars]
  all_goals
    refine ⟨by decide, ⟨_, _, rfl, by decide, by decide⟩, ?_⟩
    intro fuel rest enough _
    cases fuel with
    | zero => cases enough
    | succ fuel => simp [value?, words]

lemma isClear_of_isDigit {c : Char} (digit : c.isDigit = true) : isClear c = true := by
  have bounds : 48 <= c.toNat /\ c.toNat <= 57 := by
    simpa [Char.isDigit, UInt32.le_iff_toNat_le] using digit
  simp only [isClear, Bool.or_eq_true, Bool.and_eq_true, decide_eq_true_eq]
  omega

lemma reads_int (strict : Bool) (n : Int) : Reads strict (.int n) (toString n).toList := by
  have other (c d : Char) (digit : d.isDigit = true) (no : c.isDigit = false) : c ≠ d := by
    rintro rfl
    rw [digit] at no
    cases no
  refine ⟨?_, ?_, ?_⟩
  · rw [toList_toString, all_append, Bool.and_eq_true, all_eq_true]
    refine ⟨?_, all_eq_true.mpr fun c mem => isClear_of_isDigit (Nat.isDigit_of_mem_toDigits (by decide) (by decide) mem)⟩
    by_cases negative : n < 0 <;> simp [sign, negative, isClear]
  · rcases toString_begins n with ⟨first, more, chars, ⟨rfl, -⟩ | digit⟩
    · exact ⟨'-', more, chars, rfl, by decide⟩
    · exact ⟨first, more, chars, by simp [isGap, (other _ first digit _).symm], (other _ first digit rfl).symm⟩
  · intro fuel rest enough ends
    cases fuel with
    | zero => cases enough
    | succ fuel =>
      rw [<- number?_toString n ends]
      rcases toString_begins n with ⟨first, more, chars, ⟨rfl, digit, others, rfl, isDigit⟩ | digit⟩
      · rw [chars, cons_append, value?]
        simp [words, other _ digit isDigit]
      · rw [chars, cons_append, value?]
        simp [words, other _ first digit, (other _ first digit _).symm]

lemma join_begins (sep text : String) (texts : List String) :
    ∃ more, (join sep (text :: texts)).toList = text.toList ++ more := by
  cases texts with
  | nil => exact ⟨[], by simp [join]⟩
  | cons next others =>
    exact ⟨sep.toList ++ (join sep (next :: others)).toList, by simp [join]⟩

section Loops

variable {strict : Bool} {fuel : Nat} {item : Doc} {cs gap closing : List Char} {sep : String}

lemma join_next (marked : sep.toList = ',' :: gap) (text next : String) (texts : List String) :
    (join sep (text :: next :: texts)).toList = text.toList ++ ',' :: (gap ++ (join sep (next :: texts)).toList) := by
  simp [join, marked]

lemma items?_more (read : Reads strict item cs) (enough : cs.length < fuel) (done : List Doc)
    (more : List Char) : items? strict (fuel + 1) done (cs ++ ',' :: more) = items? strict fuel (item :: done) (skipGap more) := by
  have next : skipGap (',' :: more) = ',' :: more := skipGap_sharp rfl more
  rw [items?, read.read fuel _ enough (ends_of_skipGap next (by decide))]
  simp only [next]

lemma items?_last (read : Reads strict item cs) (enough : cs.length < fuel) (done : List Doc)
    (last : Gap closing) (rest : List Char) : items? strict (fuel + 1) done (cs ++ (closing ++ ']' :: rest)) =
      some (done.reverse ++ [item], rest) := by
  have next : skipGap (closing ++ ']' :: rest) = ']' :: rest := skipGap_gap last rfl rest
  rw [items?, read.read fuel _ enough (ends_of_skipGap next (by decide))]
  simp only [next, reverse_cons]

variable {texts : List String}

lemma items?_join (marked : sep.toList = ',' :: gap) (blank : Gap gap) (last : Gap closing)
    (reads : List.Forall₂ (fun item text => Reads strict item text.toList) items texts)
    (named : items ≠ []) (done : List Doc) (rest : List Char)
    (enough : (join sep texts).toList.length + closing.length + 1 < fuel) :
    items? strict fuel done ((join sep texts).toList ++ (closing ++ ']' :: rest)) = some (done.reverse ++ items, rest) := by
  induction reads generalizing done fuel with
  | nil => exact absurd rfl named
  | @cons item text items texts read later ih =>
    cases fuel with
    | zero => cases enough
    | succ fuel =>
      cases later with
      | nil =>
        rw [join] at enough ⊢
        exact items?_last read (by omega) done last rest
      | @cons next nextText others otherTexts nextRead further =>
        rw [join_next marked, length_append, length_cons, length_append] at enough
        have onward : items? strict fuel (item :: done) _ = _ :=
          ih (cons_ne_nil _ _) (item :: done) (by omega)
        obtain ⟨more, begins⟩ := join_begins sep nextText otherTexts
        rw [begins, append_assoc] at onward
        rw [join_next marked, append_assoc, cons_append, append_assoc,
          items?_more read (by omega), begins, append_assoc, nextRead.skipGap blank, onward]
        simp

def fieldText (field : String × String) : String :=
  string field.1 ++ ": " ++ field.2

lemma toList_fieldText (field : String × String) :
    (fieldText field).toList = (string field.1).toList ++ ':' :: ' ' :: field.2.toList := by
  simp [fieldText]

structure ReadsField (strict : Bool) (pair : String × Doc) (field : String × String) : Prop where
  name : field.1 = pair.1
  encodable : Text.encodable pair.1 = true
  value : Reads strict pair.2 field.2.toList

variable {pair : String × Doc} {field : String × String}

lemma ReadsField.skipGap (read : ReadsField strict pair field) (blank : Gap gap) (rest : List Char) :
    Json.skipGap (gap ++ ((fieldText field).toList ++ rest)) = (fieldText field).toList ++ rest := by
  rw [toList_fieldText, read.name, append_assoc]
  exact (reads_string strict read.encodable).skipGap blank _

lemma ReadsField.fields? (read : ReadsField strict pair field) (enough : field.2.toList.length < fuel)
    (done : List (Doc × Doc)) (rest more : List Char) : (Json.skipGap rest = ',' :: more ->
      Json.fields? strict (fuel + 1) done ((fieldText field).toList ++ rest) =
        Json.fields? strict fuel ((.text pair.1, pair.2) :: done) (Json.skipGap more)) /\
    (Json.skipGap rest = '\x7d' :: more -> Json.fields? strict (fuel + 1) done ((fieldText field).toList ++ rest) =
        some (done.reverse ++ [(.text pair.1, pair.2)], more)) := by
  rcases string?_string read.encodable (':' :: ' ' :: (field.2.toList ++ rest)) with ⟨body, chars, name⟩
  have space : Gap [' '] := by
    intro c mem
    rw [mem_singleton.mp mem]
    rfl
  have skipped := read.value.skipGap space rest
  rw [singleton_append] at skipped
  have parts : (fieldText field).toList ++ rest =
      '"' :: (body ++ ':' :: ' ' :: (field.2.toList ++ rest)) := by
    rw [toList_fieldText, read.name, chars]
    simp
  rw [parts]
  constructor <;> intro next <;>
    simp only [Json.fields?, name, skipGap_sharp (show isGap ':' = false from rfl), skipped,
      read.value.read fuel rest enough (ends_of_skipGap next (by decide)), next, reverse_cons]

variable {pairs : List (String × Doc)}

lemma fields?_join (marked : sep.toList = ',' :: gap) (blank : Gap gap) (last : Gap closing)
    (reads : List.Forall₂ (ReadsField strict) pairs fields) (named : pairs ≠ []) (done : List (Doc × Doc)) (rest : List Char)
    (enough : (join sep (fields.map fieldText)).toList.length + closing.length + 1 < fuel) :
    fields? strict fuel done ((join sep (fields.map fieldText)).toList ++ (closing ++ '\x7d' :: rest)) =
      some (done.reverse ++ pairs.map (fun pair => (.text pair.1, pair.2)), rest) := by
  induction reads generalizing done fuel with
  | nil => exact absurd rfl named
  | @cons pair field pairs fields read later ih =>
    have long : field.2.toList.length < (fieldText field).toList.length := by
      rw [toList_fieldText, length_append, length_cons, length_cons]
      omega
    cases fuel with
    | zero => cases enough
    | succ fuel =>
      cases later with
      | nil =>
        rw [map_singleton, join] at enough ⊢
        exact (read.fields? (by omega) done _ rest).2 (skipGap_gap last rfl rest)
      | @cons next nextField others otherFields nextRead further =>
        simp only [map_cons] at enough ih ⊢
        rw [join_next marked, length_append, length_cons, length_append] at enough
        have onward : fields? strict fuel ((.text pair.1, pair.2) :: done) _ = _ :=
          ih (cons_ne_nil _ _) _ (by omega)
        obtain ⟨more, begins⟩ := join_begins sep (fieldText nextField) (otherFields.map fieldText)
        rw [begins, append_assoc] at onward
        rw [join_next marked, append_assoc, cons_append, append_assoc,
          (read.fields? (by omega) done _ _).1 (skipGap_sharp rfl _), begins, append_assoc,
          nextRead.skipGap blank, onward]
        simp

end Loops

/-! ## Layouts -/

section Layouts

variable {layout : Layout} {level : Nat}

lemma mem_newLine {c : Char} (mem : c ∈ (newLine layout level).toList) : c = '\n' \/ c = ' ' := by
  rw [newLine] at mem
  cases indent : layout.indent with
  | none => simp [indent] at mem
  | some width =>
    simp only [indent, String.toList_append, String.toList_ofList, mem_append] at mem
    rcases mem with feed | spaces
    · exact .inl (by simpa using feed)
    · exact .inr (eq_of_mem_replicate spaces)

lemma gap_newLine (layout : Layout) (level : Nat) : Gap (newLine layout level).toList := by
  intro c mem
  rcases mem_newLine mem with rfl | rfl <;> rfl

lemma clear_newLine (layout : Layout) (level : Nat) : (newLine layout level).toList.all isClear = true := by
  rw [all_eq_true]
  intro c mem
  rcases mem_newLine mem with rfl | rfl <;> decide

lemma separator_eq (layout : Layout) (level : Nat) :
    ∃ gap, (separator layout level).toList = ',' :: gap /\ Gap gap /\ gap.all isClear = true := by
  rw [separator]
  cases layout.indent with
  | none =>
    refine ⟨[' '], by simp, ?_, by decide⟩
    intro c mem
    rw [mem_singleton.mp mem]
    rfl
  | some width =>
    exact ⟨(newLine layout level).toList, by rw [String.toList_append]; rfl, gap_newLine layout level, clear_newLine layout level⟩

lemma all_join {sep : String} (fine : Char -> Bool)
    (between : sep.toList.all fine = true) (each : ∀ text ∈ texts, text.toList.all fine = true) :
    (join sep texts).toList.all fine = true := by
  induction texts with
  | nil => rfl
  | cons first rest ih =>
    have here := each first mem_cons_self
    cases rest with
    | nil => exact here
    | cons next others =>
      rw [join, String.toList_append, String.toList_append, all_append, all_append, here,
        between, ih fun text mem => each text (mem_cons_of_mem first mem)]
      · rfl
      · exact cons_ne_nil next others

lemma toList_enclosed (layout : Layout) (level : Nat) (opening closing : String) (some : texts ≠ []) :
    (enclosed layout level opening closing texts).toList = opening.toList ++ ((newLine layout (level + 1)).toList ++
        ((join (separator layout (level + 1)) texts).toList ++ ((newLine layout level).toList ++ closing.toList))) := by
  rw [enclosed, if_neg (by simpa using some)]
  simp

lemma clear_enclosed {opening closing : String} (marks : (opening ++ closing).toList.all isClear = true)
    (each : ∀ text ∈ texts, text.toList.all isClear = true) :
    (enclosed layout level opening closing texts).toList.all isClear = true := by
  by_cases some : texts = []
  · rwa [some]
  · rcases separator_eq layout (level + 1) with ⟨gap, marked, -, clear⟩
    rw [String.toList_append, all_append, Bool.and_eq_true] at marks
    have between : (separator layout (level + 1)).toList.all isClear = true := by
      rw [marked, all_cons, clear]
      decide
    rw [toList_enclosed layout level opening closing some]
    simp only [all_append, marks, clear_newLine, all_join isClear between each, Bool.and_self]

variable {strict : Bool} {fuel : Nat}

lemma value?_bracket {item : Doc} {cs gap : List Char} (read : Reads strict item cs) (blank : Gap gap)
    (rest : List Char) : value? strict (fuel + 1) ('[' :: (gap ++ (cs ++ rest))) =
      (items? strict fuel [] (cs ++ rest)).map fun read => (.list read.1, read.2) := by
  have skipped := read.skipGap blank rest
  obtain ⟨first, others, rfl, -, other⟩ := read.opens
  rw [value?.eq_def]
  simp only [skipped]
  simp [other]

lemma value?_brackets (strict : Bool) (fuel : Nat) (rest : List Char) :
    value? strict (fuel + 1) ('[' :: ']' :: rest) = some (.list [], rest) := by
  rw [value?.eq_def]
  rfl

lemma value?_brace {pair : String × Doc} {field : String × String} {gap : List Char}
    (read : ReadsField strict pair field) (blank : Gap gap) (rest : List Char) :
    value? strict (fuel + 1) ('\x7b' :: (gap ++ ((fieldText field).toList ++ rest))) =
      (fields? strict fuel [] ((fieldText field).toList ++ rest)).bind fun read =>
        (mapOf? strict read.1).map fun doc => (doc, read.2) := by
  have skipped := read.skipGap blank rest
  obtain ⟨body, chars, -⟩ := string?_string read.encodable []
  rw [toList_fieldText, read.name, chars] at skipped ⊢
  rw [value?.eq_def]
  simp only [skipped]
  rfl

lemma value?_braces (strict : Bool) (fuel : Nat) (rest : List Char) :
    value? strict (fuel + 1) ('\x7b' :: '\x7d' :: rest) = some (.map [], rest) := by
  rw [value?.eq_def]
  rfl

lemma reads_enclosed {doc : Doc} {opening closing : String} {last : Char}
    (opens : opening.toList = [first]) (closes : closing.toList = [last])
    (kinds : first = '[' /\ last = ']' \/ first = '\x7b' /\ last = '\x7d')
    (each : ∀ text ∈ texts, text.toList.all isClear = true) (empty : texts = [] -> ∀ fuel rest,
      value? strict (fuel + 1) (first :: last :: rest) = some (doc, rest))
    (full : texts ≠ [] -> ∀ fuel rest, (join (separator layout (level + 1)) texts).toList.length +
          (newLine layout level).toList.length + 1 < fuel ->
      value? strict (fuel + 1) (first :: ((newLine layout (level + 1)).toList ++
        ((join (separator layout (level + 1)) texts).toList ++
          ((newLine layout level).toList ++ last :: rest)))) = some (doc, rest)) :
    Reads strict doc (enclosed layout level opening closing texts).toList := by
  have marks : (opening ++ closing).toList.all isClear = true := by
    rw [String.toList_append, opens, closes]
    rcases kinds with ⟨rfl, rfl⟩ | ⟨rfl, rfl⟩ <;> decide
  have kind : isGap first = false /\ first ≠ ']' := by
    rcases kinds with ⟨rfl, -⟩ | ⟨rfl, -⟩ <;> decide
  by_cases some : texts = []
  · have chars : (enclosed layout level opening closing texts).toList = [first, last] := by
      simp [enclosed, some, opens, closes]
    refine ⟨clear_enclosed marks each, ⟨first, [last], chars, kind⟩, ?_⟩
    intro fuel rest enough _
    cases fuel with
    | zero => cases enough
    | succ fuel =>
      rw [chars]
      exact empty some fuel rest
  · have chars := toList_enclosed layout level opening closing some
    rw [opens, closes, singleton_append] at chars
    refine ⟨clear_enclosed marks each, ⟨first, _, chars, kind⟩, ?_⟩
    intro fuel rest enough _
    cases fuel with
    | zero => cases enough
    | succ fuel =>
      rw [chars] at enough ⊢
      simp only [length_append, length_cons, length_nil] at enough
      simp only [cons_append, append_assoc, nil_append]
      exact full some fuel rest (by omega)

lemma forall_of_forall₂ {α β : Type} {related : α -> β -> Prop} {fine : β -> Prop} {first : List α}
    {second : List β} (implies : ∀ a b, related a b -> fine b)
    (each : List.Forall₂ related first second) : ∀ b ∈ second, fine b := by
  induction each with
  | nil => simp
  | cons here later ih => exact forall_mem_cons.mpr ⟨implies _ _ here, ih⟩

lemma reads_list (reads : List.Forall₂ (fun item text => Reads strict item text.toList) items texts) :
    Reads strict (.list items) (enclosed layout level "[" "]" texts).toList := by
  refine reads_enclosed (by simp) (by simp) (.inl ⟨rfl, rfl⟩) ?_ ?_ ?_
  · exact forall_of_forall₂ (fun _ _ read => read.clear) reads
  · rintro rfl
    cases reads
    exact value?_brackets strict
  · intro some fuel rest enough
    obtain ⟨gap, marked, blank, -⟩ := separator_eq layout (level + 1)
    cases reads with
    | nil => exact absurd rfl some
    | @cons item text items texts read later =>
      obtain ⟨more, begins⟩ := join_begins (separator layout (level + 1)) text texts
      have onward := items?_join marked blank (gap_newLine layout level) (.cons read later) (cons_ne_nil item items) [] rest enough
      rw [begins, append_assoc] at onward ⊢
      rw [value?_bracket read (gap_newLine layout (level + 1)), onward]
      rfl

def setField (name : String) (value : Doc) : List (String × Doc) -> List (String × Doc)
  | [] => [(name, value)]
  | field :: rest => if field.1 = name then (name, value) :: rest else field :: setField name value rest

lemma assign_fields (name : String) (value : Doc) (pairs : List (String × Doc)) :
    assign (.text name) value (pairs.map fun pair => (.text pair.1, pair.2)) =
      (setField name value pairs).map fun pair => (.text pair.1, pair.2) := by
  induction pairs with
  | nil => rfl
  | cons field rest ih =>
    rw [map_cons, assign, setField, ih]
    by_cases same : field.1 = name <;> simp [Doc.same, same]

lemma setField_new {name : String} (value : Doc) (new : name ∉ pairs.map Prod.fst) :
    setField name value pairs = pairs ++ [(name, value)] := by
  induction pairs with
  | nil => rfl
  | cons field rest ih =>
    rw [map_cons, mem_cons, not_or] at new
    rw [setField, if_neg (Ne.symm new.1), ih new.2, cons_append]

lemma mapOf?_fields (strict : Bool) (distinct : (pairs.map Prod.fst).Nodup) :
    mapOf? strict (pairs.map fun pair => (.text pair.1, pair.2)) = some (.fields pairs) := by
  have folded : ∀ done : List (String × Doc), ((done ++ pairs).map Prod.fst).Nodup ->
      (pairs.map fun pair => (Doc.text pair.1, pair.2)).foldl (fun fields pair => assign pair.1 pair.2 fields)
          (done.map fun pair => (Doc.text pair.1, pair.2)) =
        (done ++ pairs).map fun pair => (Doc.text pair.1, pair.2) := by
    induction pairs with
    | nil => simp
    | cons first rest ih =>
      intro done apart
      have parts := apart
      rw [map_append, nodup_append] at parts
      have new : first.1 ∉ done.map Prod.fst := fun known => parts.2.2 _ known _ (by simp) rfl
      rw [map_cons, foldl_cons, assign_fields, setField_new _ new, ih (nodup_cons.mp distinct).2 _ (by simpa using apart)]
      simp
  have whole := folded [] distinct
  rw [map_nil, nil_append] at whole
  rw [mapOf?, ofPairs, whole]
  simp [Doc.fields]

lemma reads_fields (distinct : (pairs.map Prod.fst).Nodup) (reads : List.Forall₂ (ReadsField strict) pairs fields) :
    Reads strict (.fields pairs) (enclosed layout level "\x7b" "\x7d" (fields.map fieldText)).toList := by
  refine reads_enclosed (by simp) (by simp) (.inr ⟨rfl, rfl⟩) ?_ ?_ ?_
  · rw [forall_mem_map]
    refine forall_of_forall₂ (fun pair field read => ?_) reads
    rw [toList_fieldText, all_append, clear_string, all_cons, all_cons, read.value.clear]
    decide
  · intro empty
    rw [map_eq_nil_iff] at empty
    subst empty
    cases reads
    exact value?_braces strict
  · intro some fuel rest enough
    obtain ⟨gap, marked, blank, -⟩ := separator_eq layout (level + 1)
    cases reads with
    | nil => exact absurd rfl some
    | @cons pair field pairs fields read later =>
      obtain ⟨more, begins⟩ := join_begins (separator layout (level + 1)) (fieldText field) (fields.map fieldText)
      have onward := fields?_join marked blank (gap_newLine layout level) (.cons read later) (cons_ne_nil pair pairs) [] rest enough
      rw [map_cons, begins, append_assoc] at onward ⊢
      rw [value?_brace read (gap_newLine layout (level + 1)), onward, reverse_nil, nil_append,
        Option.bind_some, mapOf?_fields strict distinct]
      rfl

end Layouts

/-! ## Documents -/

/-- Words, whole numbers, fractional numbers that are read as they are written, and texts that can be encoded,
in lists and in maps by different names. -/
inductive Plain : Doc -> Prop
  | null : Plain .null
  | bool (value : Bool) : Plain (.bool value)
  | int (n : Int) : Plain (.int n)
  | real {x : Decimal.Double} (reads : ∀ strict, Reads strict (.real x) (real x).toList) : Plain (.real x)
  | text {s : String} (encodable : Text.encodable s = true) : Plain (.text s)
  | list {items : List Doc} (each : ∀ item ∈ items, Plain item) : Plain (.list items)
  | fields {pairs : List (String × Doc)} (distinct : (pairs.map Prod.fst).Nodup)
      (names : ∀ pair ∈ pairs, Text.encodable pair.1 = true)
      (each : ∀ pair ∈ pairs, Plain pair.2) : Plain (.fields pairs)

variable {layout : Layout} {level : Nat} {strict : Bool} {doc : Doc}

def ReadsBack (layout : Layout) (strict : Bool) (doc : Doc) : Prop :=
  ∀ level, ∃ text, written? layout level doc = some text /\ Reads strict doc text.toList

lemma writtenItems?_reads (each : ∀ item ∈ items, ReadsBack layout strict item) (level : Nat) :
    ∃ texts, writtenItems? layout level items = some texts /\
      List.Forall₂ (fun item text => Reads strict item text.toList) items texts := by
  induction items with
  | nil => exact ⟨[], rfl, .nil⟩
  | cons item rest ih =>
    obtain ⟨text, written, read⟩ := each item mem_cons_self (level + 1)
    obtain ⟨texts, others, reads⟩ := ih fun other mem => each other (mem_cons_of_mem item mem)
    exact ⟨text :: texts, by simp [writtenItems?, written, others], .cons read reads⟩

lemma writtenFields?_reads (names : ∀ pair ∈ pairs, Text.encodable pair.1 = true)
    (each : ∀ pair ∈ pairs, ReadsBack layout strict pair.2) (level : Nat) :
    ∃ fields, writtenFields? layout level (pairs.map fun pair => (.text pair.1, pair.2)) = some fields /\
      List.Forall₂ (ReadsField strict) pairs fields := by
  induction pairs with
  | nil => exact ⟨[], rfl, .nil⟩
  | cons pair rest ih =>
    obtain ⟨text, written, read⟩ := each pair mem_cons_self (level + 1)
    rcases ih (fun other mem => names other (mem_cons_of_mem pair mem))
      fun other mem => each other (mem_cons_of_mem pair mem) with ⟨fields, others, reads⟩
    exact ⟨(pair.1, text) :: fields, by simp [writtenFields?, fieldName?, written, others],
      .cons ⟨rfl, names pair mem_cons_self, read⟩ reads⟩

lemma Plain.readsBack (unsorted : layout.sorted = false) (plain : Plain doc) : ReadsBack layout strict doc := by
  induction plain with
  | null => exact fun level => ⟨_, rfl, reads_word (by simp) strict⟩
  | bool value => exact fun level => ⟨_, rfl, reads_word (by cases value <;> simp) strict⟩
  | int n => exact fun level => ⟨_, rfl, reads_int strict n⟩
  | real reads => exact fun level => ⟨_, rfl, reads strict⟩
  | text enc => exact fun level => ⟨_, rfl, reads_string strict enc⟩
  | list each ih =>
    intro level
    obtain ⟨texts, written, reads⟩ := writtenItems?_reads ih level
    exact ⟨_, by rw [written?, written, Option.map_some], reads_list reads⟩
  | fields distinct names each ih =>
    intro level
    obtain ⟨fields, written, reads⟩ := writtenFields?_reads names ih level
    refine ⟨enclosed layout level "\x7b" "\x7d" (fields.map fieldText), ?_, reads_fields distinct reads⟩
    rw [Doc.fields, written?, written, Option.map_some, arrange, if_neg (by simp [unsorted])]
    rfl

lemma parse?_print? (unsorted : layout.sorted = false) (strict : Bool) (plain : Plain doc) :
    ∃ text, print? layout doc = some text /\ text.toList.all isClear = true /\ parse? text strict = some doc := by
  have back : ReadsBack layout strict doc := plain.readsBack unsorted
  obtain ⟨text, written, reads⟩ := back 0
  refine ⟨text, written, reads.clear, ?_⟩
  have none : Gap [] := by
    intro c mem
    cases mem
  have skipped := reads.skipGap none []
  have read := reads.read (text.toList.length + 1) [] (Nat.lt_succ_self _) (by simp [Ends])
  rw [nil_append, append_nil] at skipped
  rw [append_nil] at read
  simp only [parse?, skipped, read]
  rfl

lemma parse?_of_print? {text : String} (unsorted : layout.sorted = false) (plain : Plain doc)
    (printed : print? layout doc = some text) : parse? text = some doc := by
  obtain ⟨same, also, -, read⟩ := parse?_print? unsorted false plain
  cases printed.symm.trans also
  exact read

end Refinery.Json
