import Refinery.Merge
import Refinery.Proofs.Pattern.Run

namespace Refinery.Merge

open List Pattern

/-!
# What keeping the year does

A copyright line is found by a plain function on texts.  Putting other digits into it does not move it, so
keeping a year again changes nothing.
-/

def company : List Char :=
  [' ', 'G', 'o', 'o', 'g', 'l', 'e', ' ', 'L', 'L', 'C']

lemma toList_company : " Google LLC".toList = company := by
  simp [company]

def isYearDigit (c : Char) : Bool :=
  CharKind.digit.holds false c

structure LineAt (words after year rest : List Char) : Prop where
  parts : after = words ++ (year ++ (company ++ rest))
  four : year.length = 4
  digits : ∀ c ∈ year, isYearDigit c = true
  ends : rest = [] \/ rest.head? = some '\n'

def Opens (anchored : Bool) (before : List Char) : Prop :=
  anchored = true -> before = [] \/ before.head? = some '\n'

instance (anchored : Bool) (before : List Char) : Decidable (Opens anchored before) :=
  inferInstanceAs (Decidable (anchored = true → before = [] \/ before.head? = some '\n'))

def lineHere? (anchored : Bool) (words before after : List Char) : Option (List Char × List Char) :=
  let behind := after.drop words.length
  let rest := (behind.drop 4).drop company.length
  if Opens anchored before /\ words <+: after /\ (4 <= behind.length /\ ∀ c ∈ behind.take 4, isYearDigit c = true) /\
      company <+: behind.drop 4 /\ (rest = [] \/ rest.head? = some '\n')
  then some (behind.take 4, rest) else none

variable {anchored : Bool} {words after before other year rest gap : List Char} {c : Char}

lemma lineHere?_eq_some_iff : lineHere? anchored words before after = some (year, rest) ↔
      Opens anchored before /\ LineAt words after year rest := by
  rw [lineHere?]
  constructor
  · intro found
    rw [Option.ite_none_right_eq_some] at found
    obtain ⟨⟨opens, ⟨behind, rfl⟩, ⟨four, digits⟩, ⟨tail, parts⟩, ends⟩, same⟩ := found
    cases same
    rw [drop_left] at four digits parts ends ⊢
    refine ⟨opens, ?_, ?_, digits, ends⟩
    · rw [<- parts, drop_left, parts, take_append_drop]
    · rw [length_take]
      omega
  · rintro ⟨opens, line⟩
    have year4 : (year ++ (company ++ rest)).take 4 = year := by
      rw [<- line.four, take_left]
    have behind4 : (year ++ (company ++ rest)).drop 4 = company ++ rest := by
      rw [<- line.four, drop_left]
    rw [line.parts, drop_left, year4, behind4, drop_left, if_pos]
    refine ⟨opens, prefix_append _ _, ⟨?_, line.digits⟩, prefix_append _ _, line.ends⟩
    rw [length_append, line.four]
    omega

def firstLine? (anchored : Bool) (words : List Char) : (before after : List Char) -> Option (List Char × List Char × List Char)
  | before, [] => (lineHere? anchored words before []).map fun found => ([], found)
  | before, c :: rest =>
    match lineHere? anchored words before (c :: rest) with
    | some found => some ([], found)
    | none => (firstLine? anchored words (c :: before) rest).map fun found => (c :: found.1, found.2)

/-! ## The pattern searches for the first line -/

/-- The pattern of a copyright line. -/
def line (anchored : Bool) (words : String) : Expression :=
  copyrightLine (if anchored then .boundary .lineStart else .empty) words

def behindLine (words : List Char) (s : Spot) (year rest : List Char) : Spot :=
  ⟨company.reverse ++ (year.reverse ++ (words.reverse ++ s.before)), rest, s.position + words.length + 4 + company.length,
    [⟨some (s.position + words.length, year ++ (company ++ rest)), some (s.position + words.length + 4)⟩]⟩

lemma holds_lineStart (s : Spot) : s.holds .lineStart = decide (Opens true s.before) := by
  change (s.before.isEmpty || s.before.head? == some '\n') = decide (true = true -> _)
  rw [Bool.eq_iff_iff]
  cases s.before <;> simp

lemma holds_lineEnd (s : Spot) : s.holds .lineEnd = decide (s.after = [] \/ s.after.head? = some '\n') := by
  change (s.after.isEmpty || s.after.head? == some '\n') = _
  rw [Bool.eq_iff_iff]
  cases s.after <;> simp

lemma run_start (anchored : Bool) (goal : Goal) (s : Spot) :
    run (if anchored then .boundary .lineStart else .empty) goal s = if Opens anchored s.before then goal s else none := by
  cases anchored with
  | false => simp [run, Opens]
  | true => simp [run, holds_lineStart]

lemma run_year (goal : Goal) (before after : List Char) (pos : Nat) :
    (group 1 (times 4 (ofKind .digit))).run goal ⟨before, after, pos, [{}]⟩ =
      if 4 <= after.length /\ ∀ c ∈ after.take 4, isYearDigit c = true then
        goal ⟨(after.take 4).reverse ++ before, after.drop 4, pos + 4, [⟨some (pos, after), some (pos + 4)⟩]⟩ else none := by
  have test : ∀ c, CharTest.accepts (.set [.kind .digit false] false false false) c = isYearDigit c := by
    simp [CharTest.accepts, SetItem.holds, isYearDigit]
  simp only [run, ofKind, run_times, steps_eq, test, Spot.enter]
  by_cases enough : 4 <= after.length /\ ∀ c ∈ after.take 4, isYearDigit c = true
  · have length : min 4 after.length = 4 := Nat.min_eq_left enough.1
    rw [if_pos enough, if_pos enough, Option.bind_some]
    simp [Spot.past, Spot.leave, length]
  · rw [if_neg enough, if_neg enough, Option.bind_none]

lemma run_company (goal : Goal) (s : Spot) : (literal " Google LLC").run goal s =
      if company <+: s.after then goal (s.past company) else none := by
  rw [run_literal, toList_company]

lemma run_line (anchored : Bool) (words : String) (goal : Goal) (before after : List Char) (pos : Nat) :
    (line anchored words).pattern.run goal ⟨before, after, pos, [{}]⟩ =
      (lineHere? anchored words.toList before after).bind fun found =>
        goal (behindLine words.toList ⟨before, after, pos, [{}]⟩ found.1 found.2) := by
  have whole : (line anchored words).pattern.run goal ⟨before, after, pos, [{}]⟩ =
      run (if anchored then .boundary .lineStart else .empty)
        ((literal words).run ((group 1 (times 4 (ofKind .digit))).run
          ((literal " Google LLC").run ((boundary .lineEnd).run goal))))
        ⟨before, after, pos, [{}]⟩ := rfl
  rw [whole, run_start, run_literal, Spot.past, run_year, run_company, Spot.past, run, holds_lineEnd, lineHere?]
  split
  next opens =>
    split
    next starts =>
      by_cases year : 4 <= (after.drop words.toList.length).length /\
          ∀ c ∈ (after.drop words.toList.length).take 4, isYearDigit c = true
      · rw [if_pos year]
        split
        next named =>
          by_cases ends : ((after.drop words.toList.length).drop 4).drop company.length = [] \/
              (((after.drop words.toList.length).drop 4).drop company.length).head? = some '\n'
          · have behind : (after.drop words.toList.length).take 4 ++
                (company ++ ((after.drop words.toList.length).drop 4).drop company.length) = after.drop words.toList.length := by
              rw [prefix_iff_eq_append.mp named, take_append_drop]
            rw [if_pos (decide_eq_true ends), if_pos ⟨opens, starts, year, named, ends⟩, Option.bind_some, behindLine, behind]
          · rw [if_neg (by simpa using ends), if_neg fun all => ends all.2.2.2.2, Option.bind_none]
        next named =>
          rw [if_neg fun all => named all.2.2.2.1, Option.bind_none]
      · rw [if_neg year, if_neg fun all => year all.2.2.1, Option.bind_none]
    next starts =>
      rw [if_neg fun all => starts all.2.1, Option.bind_none]
  next opens => rw [if_neg fun all => opens all.1, Option.bind_none]

lemma tryHere_line (anchored : Bool) (words : String) (before after : List Char) (pos : Nat) :
    (line anchored words).tryHere false before after pos = (lineHere? anchored words.toList before after).map fun found =>
        (⟨before, after, pos, [{}]⟩, behindLine words.toList ⟨before, after, pos, [{}]⟩ found.1 found.2) := by
  change ((line anchored words).pattern.run (fun found =>
    if false && found.position = pos then none else some found) ⟨before, after, pos, [{}]⟩).map _ = _
  rw [run_line]
  cases lineHere? anchored words.toList before after <;> rfl

lemma searchFrom_line (anchored : Bool) (words : String) (before after : List Char) (pos : Nat) :
    (line anchored words).searchFrom false before after pos = (firstLine? anchored words.toList before after).map fun found =>
        let start : Spot := ⟨found.1.reverse ++ before, after.drop found.1.length, pos + found.1.length, [{}]⟩
        (start, behindLine words.toList start found.2.1 found.2.2) := by
  induction after generalizing before pos with
  | nil =>
    rw [Expression.searchFrom, tryHere_line, firstLine?]
    cases lineHere? anchored words.toList before [] <;> rfl
  | cons c rest ih =>
    rw [Expression.searchFrom, tryHere_line, firstLine?]
    cases lineHere? anchored words.toList before (c :: rest) with
    | some found => rfl
    | none =>
      simp only [Option.map_none, ih, Option.map_map]
      cases firstLine? anchored words.toList (c :: before) rest with
      | none => rfl
      | some found => simp [Nat.add_assoc, Nat.add_comm 1]

lemma firstLine?_eq_some (found : firstLine? anchored words before after = some (gap, year, rest)) :
    ∃ tail, after = gap ++ tail /\ LineAt words tail year rest := by
  induction after generalizing before gap with
  | nil =>
    rw [firstLine?, Option.map_eq_some_iff] at found
    obtain ⟨⟨year, rest⟩, here, same⟩ := found
    cases same
    exact ⟨[], rfl, (lineHere?_eq_some_iff.mp here).2⟩
  | cons c tail ih =>
    rw [firstLine?] at found
    split at found
    next _ here =>
      cases found
      exact ⟨c :: tail, rfl, (lineHere?_eq_some_iff.mp here).2⟩
    · rcases Option.map_eq_some_iff.mp found with ⟨⟨front, year, rest⟩, later, same⟩
      cases same
      obtain ⟨behind, rfl, line⟩ := ih later
      exact ⟨behind, rfl, line⟩

lemma LineAt.take_eq (line : LineAt words after year rest) :
    after.take (words.length + 4 + company.length) = words ++ (year ++ company) := by
  have whole : after = (words ++ (year ++ company)) ++ rest := by
    rw [line.parts, append_assoc, append_assoc]
  rw [whole]
  refine take_left' ?_
  rw [length_append, length_append, line.four, Nat.add_assoc]

lemma LineAt.text?_eq (line : LineAt words after year rest) (pos : Nat) :
    Span.text? ⟨some (pos, year ++ (company ++ rest)), some (pos + 4)⟩ = some year := by
  change (if pos + 4 < pos then none else some ((year ++ (company ++ rest)).take (pos + 4 - pos))) = _
  rw [if_neg (by omega), Nat.add_sub_cancel_left, take_left' line.four]

lemma matchesIn_line (anchored : Bool) (words : String) (text : List Char) : (line anchored words).matchesIn text (some 1) =
      match firstLine? anchored words.toList [] text with
      | none => ([], text)
      | some (gap, year, rest) =>
        ([⟨gap, words.toList ++ (year ++ company), [some year]⟩], rest) := by
  rw [Expression.matchesIn, Expression.matchesFrom]
  simp only [mayRepeat, Spot.start, searchFrom_line, decide_true, if_true, Nat.zero_lt_one]
  cases found : firstLine? anchored words.toList [] text with
  | none => rfl
  | some line =>
    obtain ⟨gap, year, rest⟩ := line
    obtain ⟨tail, rfl, at_line⟩ := firstLine?_eq_some found
    have stopped : ∀ moving stop, (line anchored words).matchesFrom (some 1)
        (2 * (gap ++ tail).length + 1) (0 + 1) moving stop = ([], stop.after) := by
      intro moving stop
      rfl
    have lineLength : gap.length + words.toList.length + 4 + company.length - gap.length =
        words.toList.length + 4 + company.length := by omega
    simp only [Option.map_some, stopped, behindLine, Expression.between, Spot.upTo, drop_left,
      map_cons, map_nil, at_line.text?_eq, lineLength, at_line.take_eq, Nat.sub_zero,
      Nat.zero_add, take_left]

def keepLine (anchored : Bool) (words source destination : List Char) : List Char :=
  match firstLine? anchored words [] destination, firstLine? anchored words [] source with
  | some (_, year, _), some (gap, _, rest) => gap ++ (words ++ (year ++ (company ++ rest)))
  | _, _ => source

lemma toList_keepYear (anchored : Bool) (words src dest : String) : (keepYear (line anchored words) words src dest).toList =
      keepLine anchored words.toList src.toList dest.toList := by
  rw [keepYear, Expression.search?, matchesIn_line, keepLine]
  cases firstLine? anchored words.toList [] dest.toList with
  | none => rfl
  | some kept =>
    obtain ⟨before, year, after⟩ := kept
    simp only [List.head?_cons, Expression.replaceBy, Expression.substituteWith, matchesIn_line]
    cases firstLine? anchored words.toList [] src.toList with
    | none => exact String.toList_ofList
    | some found =>
      have group : Match.group ⟨before, words.toList ++ (year ++ company), [some year]⟩ 1 = String.ofList year := rfl
      simp only [group, foldr_cons, foldr_nil, String.toList_ofList, String.toList_append, append_assoc, toList_company]

/-! ## Other digits in the line -/

def blur (c : Char) : Char :=
  if isYearDigit c then '0' else c

lemma isYearDigit_blur (c : Char) : isYearDigit (blur c) = isYearDigit c := by
  rw [blur]
  split
  next digit =>
    rw [digit]
    decide
  · rfl

lemma eq_of_blur {d : Char} (same : blur d = blur c) (plain : isYearDigit c = false) : d = c := by
  have other : isYearDigit d = false := by rw [<- isYearDigit_blur, same, isYearDigit_blur, plain]
  rwa [blur, blur, if_neg (by simp [other]), if_neg (by simp [plain])] at same

lemma eq_of_map_blur {text : List Char} (same : other.map blur = text.map blur)
    (plain : ∀ c ∈ text, isYearDigit c = false) : other = text := by
  induction text generalizing other with
  | nil => exact map_eq_nil_iff.mp same
  | cons c rest ih =>
    obtain ⟨d, tail, rfl, first, onward⟩ := map_eq_cons_iff.mp same
    rw [eq_of_blur first (plain c mem_cons_self), ih onward fun each mem => plain each (mem_cons_of_mem c mem)]

lemma company_plain : ∀ c ∈ company, isYearDigit c = false := by
  have all : company.all (fun c => !isYearDigit c) = true := rfl
  intro c mem
  simpa using all_eq_true.mp all c mem

lemma LineAt.similar (line : LineAt words after year rest)
    (plain : ∀ c ∈ words, isYearDigit c = false) (same : other.map blur = after.map blur) :
    ∃ otherYear otherRest, LineAt words other otherYear otherRest := by
  rw [line.parts, map_append, map_append, map_append] at same
  obtain ⟨front, behind, rfl, sameFront, sameBehind⟩ := map_eq_append_iff.mp same
  obtain ⟨digits, last, rfl, sameDigits, sameLast⟩ := map_eq_append_iff.mp sameBehind
  obtain ⟨name, tail, rfl, sameName, sameTail⟩ := map_eq_append_iff.mp sameLast
  rw [eq_of_map_blur sameFront plain, eq_of_map_blur sameName company_plain]
  refine ⟨digits, tail, rfl, ?_, ?_, ?_⟩
  · rw [<- length_map blur, sameDigits, length_map, line.four]
  · intro c mem
    have blurred : blur c ∈ year.map blur := sameDigits ▸ mem_map_of_mem mem
    obtain ⟨d, inside, equal⟩ := mem_map.mp blurred
    rw [<- isYearDigit_blur, <- equal, isYearDigit_blur]
    exact line.digits d inside
  · rcases line.ends with rfl | ended
    · exact .inl (map_eq_nil_iff.mp sameTail)
    · cases rest with
      | nil => cases ended
      | cons c more =>
        obtain ⟨d, others, rfl, first, _⟩ := map_eq_cons_iff.mp sameTail
        cases ended
        exact .inr (by rw [eq_of_blur first (by decide)]; rfl)

lemma lineHere?_eq_none_of_similar
    (none : lineHere? anchored words before after = none) (plain : ∀ c ∈ words, isYearDigit c = false)
    (same : other.map blur = after.map blur) : lineHere? anchored words before other = .none := by
  cases found : lineHere? anchored words before other with
  | none => rfl
  | some pair =>
    obtain ⟨opens, line⟩ := lineHere?_eq_some_iff.mp found
    obtain ⟨year, rest, here⟩ := line.similar plain same.symm
    rw [lineHere?_eq_some_iff.mpr ⟨opens, here⟩] at none
    cases none

lemma firstLine?_cons (none : lineHere? anchored words before (c :: after) = none) :
    firstLine? anchored words before (c :: after) =
      (firstLine? anchored words (c :: before) after).map fun found => (c :: found.1, found.2) := by
  rw [firstLine?, none]

lemma firstLine?_here : firstLine? anchored words before after = some ([], year, rest) ↔
      lineHere? anchored words before after = some (year, rest) := by
  cases after with
  | nil => simp [firstLine?]
  | cons c tail =>
    rw [firstLine?]
    cases lineHere? anchored words before (c :: tail) <;> simp

lemma firstLine?_other_year (plain : ∀ c ∈ words, isYearDigit c = false) (four : other.length = 4)
    (digits : ∀ c ∈ other, isYearDigit c = true)
    (found : firstLine? anchored words before (gap ++ (words ++ (year ++ (company ++ rest)))) =
      some (gap, year, rest)) : firstLine? anchored words before (gap ++ (words ++ (other ++ (company ++ rest)))) =
      some (gap, other, rest) := by
  have old : LineAt words (words ++ (year ++ (company ++ rest))) year rest := by
    obtain ⟨tail, parts, line⟩ := firstLine?_eq_some found
    rwa [<- append_cancel_left parts] at line
  induction gap generalizing before with
  | nil =>
    rw [firstLine?_here, lineHere?_eq_some_iff] at found ⊢
    exact ⟨found.1, rfl, four, digits, old.ends⟩
  | cons c front ih =>
    have blurred : year.map blur = other.map blur := by
      have zeros : ∀ text : List Char, text.length = 4 -> (∀ c ∈ text, isYearDigit c = true) ->
          text.map blur = List.replicate 4 '0' := by
        intro text length all
        rw [<- length, <- map_const]
        exact map_congr_left fun d mem => if_pos (all d mem)
      rw [zeros year old.four old.digits, zeros other four digits]
    rw [cons_append] at found ⊢
    cases here : lineHere? anchored words before (c :: (front ++ (words ++ (year ++ (company ++ rest))))) with
    | some pair =>
      rw [firstLine?, here] at found
      cases found
    | none =>
      have still : lineHere? anchored words before (c :: (front ++ (words ++ (other ++ (company ++ rest))))) = .none :=
        lineHere?_eq_none_of_similar here plain (by simp [blurred])
      rw [firstLine?_cons here, Option.map_eq_some_iff] at found
      obtain ⟨⟨gap, year, rest⟩, later, same⟩ := found
      cases same
      rw [firstLine?_cons still, ih later]
      rfl

lemma keepLine_self (anchored : Bool) (words src : List Char) : keepLine anchored words src src = src := by
  rw [keepLine]
  cases found : firstLine? anchored words [] src with
  | none => rfl
  | some line =>
    obtain ⟨tail, parts, at_line⟩ := firstLine?_eq_some found
    rw [parts, at_line.parts]

lemma keepLine_keepLine (anchored : Bool) (plain : ∀ c ∈ words, isYearDigit c = false) (src dest : List Char) :
    keepLine anchored words src (keepLine anchored words src dest) = keepLine anchored words src dest := by
  cases kept : firstLine? anchored words [] dest with
  | none =>
    have all : keepLine anchored words src dest = src := by rw [keepLine, kept]
    rw [all, keepLine_self]
  | some lineKept =>
    cases found : firstLine? anchored words [] src with
    | none =>
      have all : keepLine anchored words src dest = src := by rw [keepLine, kept, found]
      rw [all, keepLine_self]
    | some line =>
      obtain ⟨_, _, keptLine⟩ := firstLine?_eq_some kept
      obtain ⟨tail, rfl, at_line⟩ := firstLine?_eq_some found
      rw [at_line.parts] at found ⊢
      have again := firstLine?_other_year plain keptLine.four keptLine.digits found
      simp only [keepLine, kept, found, again]

lemma mem_keepLine {src dest : List Char} (mem : c ∈ keepLine anchored words src dest) :
    c ∈ src \/ c ∈ words \/ c ∈ company \/ isYearDigit c = true := by
  rw [keepLine] at mem
  cases kept : firstLine? anchored words [] dest with
  | none =>
    rw [kept] at mem
    exact .inl mem
  | some lineKept =>
    obtain ⟨_, _, keptLine⟩ := firstLine?_eq_some kept
    cases found : firstLine? anchored words [] src with
    | none =>
      rw [kept, found] at mem
      exact .inl mem
    | some line =>
      obtain ⟨tail, rfl, at_line⟩ := firstLine?_eq_some found
      rw [kept, found] at mem
      simp only [mem_append] at mem
      rw [at_line.parts]
      simp only [mem_append]
      have := keptLine.digits c
      tauto

end Refinery.Merge
