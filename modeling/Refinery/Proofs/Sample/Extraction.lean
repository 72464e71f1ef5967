import Refinery.Proofs.Workspace.FileJob
import Refinery.Sample.Snippet

namespace Refinery.Snippet

open List Job Workspace Text

/-!
# Which lines belong to a snippet

What one pass extracts can also be told by positions.  A line is excluded if an exclusion began before it and
did not end since.  It belongs to a snippet if it counts as content, is not excluded, and the last tag of that
name before it opens the snippet.
-/

/-! ## Tags on a line -/

def IsTagName (name : String) : Prop :=
  name.toList ≠ [] /\ ∀ c ∈ name.toList, isNameChar c = true

def TagAt (tag name : String) (text before : List Char) : Prop :=
  IsTagName name /\ ∃ after, text = before ++ (tag.toList ++ (name.toList ++ ']' :: after))

def LastTag (tag name : String) (text : List Char) : Prop :=
  ∃ before, TagAt tag name text before /\ ∀ other place, TagAt tag other text place -> place.length <= before.length

def NoTag (tag : String) (text : List Char) : Prop :=
  ∀ name before, ¬ TagAt tag name text before

private lemma read_name {name : List Char} (named : ∀ c ∈ name, isNameChar c = true) (rest : List Char) :
    (name ++ ']' :: rest).takeWhile isNameChar = name /\ (name ++ ']' :: rest).dropWhile isNameChar = ']' :: rest := by
  have stops : isNameChar ']' = false := by decide
  rw [takeWhile_append_of_pos named, dropWhile_append_of_pos named]
  simp [stops]

variable {name tag : String} {text : List Char} {pos : Nat}

lemma tagHere?_eq_some_iff : tagHere? tag text = some name ↔ TagAt tag name text [] := by
  rw [tagHere?]
  constructor
  · intro read
    split at read
    next here =>
      obtain ⟨rest, rfl⟩ := isPrefixOf_iff_prefix.mp here
      have behind : (tag.toList ++ rest).drop tag.length = rest := by
        rw [<- String.length_toList, drop_left]
      simp only [behind] at read
      have parts := takeWhile_append_dropWhile (p := isNameChar) (l := rest)
      split at read
      · next after closed =>
          split at read
          · cases read
          · next named =>
              cases read
              refine ⟨⟨?_, ?_⟩, after, ?_⟩
              · simpa using named
              · rw [String.toList_ofList]
                exact fun c mem => mem_takeWhile_imp mem
              · rw [String.toList_ofList, nil_append, <- closed, parts]
      · cases read
    · cases read
  · rintro ⟨⟨named, chars⟩, after, rfl⟩
    have here : tag.toList.isPrefixOf (tag.toList ++ (name.toList ++ ']' :: after)) = true :=
      isPrefixOf_iff_prefix.mpr (prefix_append _ _)
    have behind : (tag.toList ++ (name.toList ++ ']' :: after)).drop tag.length = name.toList ++ ']' :: after := by
      rw [<- String.length_toList, drop_left]
    obtain ⟨taken, left⟩ := read_name chars after
    simp [behind, taken, left, named]

private lemma tagAt_cons {c d : Char} {rest before : List Char} :
    TagAt tag name (c :: rest) (d :: before) ↔ c = d /\ TagAt tag name rest before := by
  constructor
  · rintro ⟨named, after, same⟩
    rw [cons_append, List.cons.injEq] at same
    exact ⟨same.1, named, after, same.2⟩
  · rintro ⟨rfl, named, after, same⟩
    exact ⟨named, after, by rw [same, cons_append]⟩

lemma lastTag?_eq_none_iff : lastTag? tag text = none ↔ NoTag tag text := by
  induction text with
  | nil =>
    refine iff_of_true rfl fun name before found => ?_
    obtain ⟨_, after, same⟩ := found
    simp at same
  | cons c rest ih =>
    have here : tagHere? tag (c :: rest) = none ↔ ∀ name, ¬ TagAt tag name (c :: rest) [] := by
      rw [Option.eq_none_iff_forall_ne_some]
      exact forall_congr' fun name => not_congr tagHere?_eq_some_iff
    have split : NoTag tag (c :: rest) ↔ NoTag tag rest /\ ∀ name, ¬ TagAt tag name (c :: rest) [] := by
      constructor
      · intro none
        exact ⟨fun name before found => none name (c :: before) (tagAt_cons.mpr ⟨rfl, found⟩), fun name => none name []⟩
      · rintro ⟨later, first⟩ name before found
        cases before with
        | nil => exact first name found
        | cons d before => exact later name before (tagAt_cons.mp found).2
    rw [lastTag?, split, <- ih, <- here]
    cases lastTag? tag rest with
    | none => simp
    | some name => simp

lemma lastTag?_eq_some_iff : lastTag? tag text = some name ↔ LastTag tag name text := by
  induction text with
  | nil =>
    refine iff_of_false (by simp [lastTag?]) ?_
    rintro ⟨before, ⟨_, after, same⟩, _⟩
    simp at same
  | cons c rest ih =>
    rw [lastTag?]
    cases later : lastTag? tag rest with
    | some found =>
      rw [later] at ih
      rw [ih]
      constructor
      · rintro ⟨before, placed, last⟩
        refine ⟨c :: before, tagAt_cons.mpr ⟨rfl, placed⟩, ?_⟩
        intro other place tagged
        cases place with
        | nil => simp
        | cons d place => simpa using last other place (tagAt_cons.mp tagged).2
      · rintro ⟨before, placed, last⟩
        cases before with
        | nil =>
          exfalso
          have some : ¬ NoTag tag rest := by
            rw [<- lastTag?_eq_none_iff, later]
            simp
          apply some
          intro other place tagged
          simpa using last other (c :: place) (tagAt_cons.mpr ⟨rfl, tagged⟩)
        | cons d before =>
          refine ⟨before, (tagAt_cons.mp placed).2, ?_⟩
          intro other place tagged
          simpa using last other (c :: place) (tagAt_cons.mpr ⟨rfl, tagged⟩)
    | none =>
      have nothing := lastTag?_eq_none_iff.mp later
      rw [tagHere?_eq_some_iff]
      constructor
      · intro here
        refine ⟨[], here, ?_⟩
        intro other place tagged
        cases place with
        | nil => simp
        | cons d place => exact absurd (tagAt_cons.mp tagged).2 (nothing other place)
      · rintro ⟨before, placed, _⟩
        cases before with
        | nil => exact placed
        | cons d before => exact absurd (tagAt_cons.mp placed).2 (nothing name before)

/-! ## What a line counts as -/

def Holds (mark line : String) : Prop :=
  mark.toList <:+: line.toList

def Untagged (line : String) : Prop :=
  NoTag "[START " line.toList /\ NoTag "[END " line.toList

def Counts (excluded : Prop) (line : String) : Mark -> Prop
  | .opening name => ¬ excluded /\ LastTag "[START " name line.toList
  | .closing name =>
    ¬ excluded /\ NoTag "[START " line.toList /\ LastTag "[END " name line.toList
  | .excludeFrom => (excluded \/ Untagged line) /\ Holds "[START_EXCLUDE]" line
  | .excludeTo =>
    (excluded \/ Untagged line) /\ ¬ Holds "[START_EXCLUDE]" line /\ Holds "[END_EXCLUDE]" line
  | .content =>
    (excluded \/ Untagged line) /\ ¬ Holds "[START_EXCLUDE]" line /\ ¬ Holds "[END_EXCLUDE]" line

lemma counts_iff (excluding : Bool) (line : String) (mark : Mark) :
    Counts (excluding = true) line mark ↔ markOf excluding line = mark := by
  have tags : Untagged line ↔ lastTag? "[START " line.toList = none /\ lastTag? "[END " line.toList = none := by
    rw [Untagged, lastTag?_eq_none_iff, lastTag?_eq_none_iff]
  have marks : ∀ mark : String, Holds mark line ↔ contains line mark = true :=
    fun mark => contains_iff.symm
  rw [markOf]
  cases mark <;>
    simp only [Counts, tags, marks, <- lastTag?_eq_some_iff, <- lastTag?_eq_none_iff] <;>
    cases excluding <;> cases lastTag? "[START " line.toList <;> cases lastTag? "[END " line.toList <;>
    cases contains line "[START_EXCLUDE]" <;> cases contains line "[END_EXCLUDE]" <;> simp

lemma Counts.unique {excluded : Prop} {line : String} {mark other : Mark}
    (counts : Counts excluded line mark) (otherwise : Counts excluded line other) : mark = other := by
  obtain ⟨excluding, rfl⟩ : ∃ excluding : Bool, excluded = (excluding = true) := by
    by_cases holds : excluded
    · exact ⟨true, by simp [holds]⟩
    · exact ⟨false, by simp [holds]⟩
  rw [counts_iff] at counts otherwise
  rw [<- counts, otherwise]

/-! ## Positions -/

def Since (first second : Mark) (marks : List Mark) (position : Nat) : Prop :=
  ∃ start, start < position /\ marks[start]? = some first /\
    ∀ later, later < position -> start < later -> marks[later]? ≠ some second

instance decidableSince (first second : Mark) (marks : List Mark) (position : Nat) :
    Decidable (Since first second marks position) :=
  inferInstanceAs (Decidable (∃ start, start < position /\ marks[start]? = some first /\
    ∀ later, later < position -> start < later -> marks[later]? ≠ some second))

section Since

variable {first second mark : Mark} {marks : List Mark}

lemma since_append (more : List Mark) (within : pos <= marks.length) :
    Since first second (marks ++ more) pos ↔ Since first second marks pos := by
  have same : ∀ place, place < pos -> (marks ++ more)[place]? = marks[place]? :=
    fun place before => List.getElem?_append_left (by omega)
  refine exists_congr fun start => and_congr_right fun before => ?_
  rw [same start before]
  refine and_congr_right fun _ => forall₂_congr fun later ahead => ?_
  rw [same later ahead]

lemma since_concat (ne : first ≠ second) : Since first second (marks ++ [mark]) (marks.length + 1) ↔
      mark = first \/ mark ≠ second /\ Since first second marks marks.length := by
  have last : (marks ++ [mark])[marks.length]? = some mark := by simp
  have early : ∀ place, place < marks.length -> (marks ++ [mark])[place]? = marks[place]? :=
    fun place before => List.getElem?_append_left before
  constructor
  · rintro ⟨start, before, found, kept⟩
    rcases Nat.lt_succ_iff_lt_or_eq.mp before with inside | rfl
    · refine .inr ⟨?_, start, inside, early start inside ▸ found, ?_⟩
      · intro ends
        exact kept marks.length (Nat.lt_succ_self _) inside (ends ▸ last)
      · intro later ahead behind
        exact early later ahead ▸ kept later (Nat.lt_succ_of_lt ahead) behind
    · exact .inl (Option.some.inj (last.symm.trans found))
  · rintro (rfl | ⟨goesOn, start, inside, found, kept⟩)
    · refine ⟨marks.length, Nat.lt_succ_self _, last, ?_⟩
      omega
    · refine ⟨start, Nat.lt_succ_of_lt inside, (early start inside).symm ▸ found, ?_⟩
      intro later ahead behind
      rcases Nat.lt_succ_iff_lt_or_eq.mp ahead with within | rfl
      · exact (early later within).symm ▸ kept later within behind
      · rw [last]
        exact fun same => goesOn (Option.some.inj same)

lemma Since.mem (since : Since first second marks pos) : first ∈ marks := by
  obtain ⟨start, _, found, _⟩ := since
  exact mem_of_getElem? found

end Since

def Excluded (marks : List Mark) (position : Nat) : Prop :=
  Since .excludeFrom .excludeTo marks position

def Open (name : String) (marks : List Mark) (position : Nat) : Prop :=
  Since (.opening name) (.closing name) marks position

def Belongs (name : String) (marks : List Mark) (position : Nat) : Prop :=
  marks[position]? = some .content /\ ¬ Excluded marks position /\ Open name marks position

instance decidableBelongs (name : String) (marks : List Mark) (position : Nat) : Decidable (Belongs name marks position) :=
  inferInstanceAs (Decidable (marks[position]? = some .content /\ ¬ Since .excludeFrom .excludeTo marks position /\
      Since (.opening name) (.closing name) marks position))

/-- The lines that belong to a snippet, in their order. -/
def linesOf (name : String) (lines : List String) (marks : List Mark) : List String :=
  (lines.zipIdx.filter fun entry => Belongs name marks entry.2).map Prod.fst

/-- Each line counts as its mark. -/
structure Reading (lines : List String) (marks : List Mark) : Prop where
  length : marks.length = lines.length
  counts : ∀ position line mark, lines[position]? = some line -> marks[position]? = some mark ->
    Counts (Excluded marks position) line mark

lemma belongs_append {marks : List Mark} (more : List Mark) (within : pos < marks.length) :
    Belongs name (marks ++ more) pos ↔ Belongs name marks pos := by
  unfold Belongs Excluded Open
  rw [List.getElem?_append_left within, since_append more within.le, since_append more within.le]

lemma belongs_last {marks : List Mark} {mark : Mark} : Belongs name (marks ++ [mark]) marks.length ↔
      mark = .content /\ ¬ Excluded marks marks.length /\ Open name marks marks.length := by
  unfold Belongs Excluded Open
  rw [since_append [mark] le_rfl, since_append [mark] le_rfl]
  simp

variable {lines : List String} {result : List (String × String)}

lemma linesOf_concat (name : String) {marks : List Mark} (length : marks.length = lines.length) (line : String) (mark : Mark) :
    linesOf name (lines ++ [line]) (marks ++ [mark]) = linesOf name lines marks ++
      if Belongs name (marks ++ [mark]) marks.length then [line] else [] := by
  have early : lines.zipIdx.filter (fun entry => decide (Belongs name (marks ++ [mark]) entry.2)) =
      lines.zipIdx.filter fun entry => decide (Belongs name marks entry.2) := by
    apply filter_congr
    rintro ⟨each, pos⟩ mem
    have within : pos < marks.length := by
      rw [length]
      simpa using snd_lt_of_mem_zipIdx mem
    exact decide_eq_decide.mpr (belongs_append [mark] within)
  rw [linesOf, zipIdx_append, filter_append, early, map_append, <- linesOf, length]
  by_cases belongs : Belongs name (marks ++ [mark]) lines.length <;> simp [belongs]

lemma linesOf_eq_nil {marks : List Mark} (never : .opening name ∉ marks) : linesOf name lines marks = [] := by
  rw [linesOf, filter_eq_nil_iff.mpr, map_nil]
  intro entry _ belongs
  exact never (of_decide_eq_true belongs).2.2.mem

/-! ## The pass over the lines -/

lemma reading_concat {marks : List Mark} {line : String} {mark : Mark} : Reading (lines ++ [line]) (marks ++ [mark]) ↔
      Reading lines marks /\ Counts (Excluded marks marks.length) line mark := by
  have excluded : ∀ {pos}, pos <= marks.length -> Excluded (marks ++ [mark]) pos = Excluded marks pos :=
    fun within => propext (since_append [mark] within)
  constructor
  · intro reading
    have length : marks.length = lines.length := by simpa using reading.length
    refine ⟨⟨length, ?_⟩, ?_⟩
    · intro pos each kind there counted
      have within : pos < lines.length := (List.getElem?_eq_some_iff.mp there).1
      rw [<- excluded (by omega)]
      apply reading.counts pos
      · rw [List.getElem?_append_left within, there]
      · rw [List.getElem?_append_left (by omega), counted]
    · rw [<- excluded le_rfl]
      apply reading.counts marks.length
      · simp [length]
      · simp
  · rintro ⟨reading, counts⟩
    have length := reading.length
    refine ⟨by simp [length], ?_⟩
    intro pos each kind there counted
    by_cases within : pos < lines.length
    · rw [List.getElem?_append_left within] at there
      rw [List.getElem?_append_left (by omega)] at counted
      rw [excluded (by omega)]
      exact reading.counts pos each kind there counted
    · have last : pos = marks.length := by
        have inside := (List.getElem?_eq_some_iff.mp there).1
        rw [length_append, length_singleton] at inside
        omega
      subst last
      rw [length, List.getElem?_concat_length] at there
      rw [List.getElem?_concat_length] at counted
      cases there
      cases counted
      rwa [excluded le_rfl]

lemma Reading.unique {marks other : List Mark} (reading : Reading lines marks)
    (otherwise : Reading lines other) : marks = other := by
  induction lines using List.reverseRecOn generalizing marks other with
  | nil =>
    rw [length_eq_zero_iff.mp reading.length, length_eq_zero_iff.mp otherwise.length]
  | append_singleton lines line ih =>
    rcases eq_nil_or_concat marks with rfl | ⟨early, mark, rfl⟩
    · simpa using reading.length
    rcases eq_nil_or_concat other with rfl | ⟨otherEarly, otherMark, rfl⟩
    · simpa using otherwise.length
    rw [concat_eq_append] at reading otherwise
    obtain ⟨before, counts⟩ := reading_concat.mp reading
    obtain ⟨otherBefore, otherCounts⟩ := reading_concat.mp otherwise
    have same := ih before otherBefore
    subst same
    rw [counts.unique otherCounts]

namespace Progress

variable (progress : Progress) (line : String)

lemma excluding_take : (progress.take line).excluding = true ↔ markOf progress.excluding line = .excludeFrom \/
      markOf progress.excluding line ≠ .excludeTo /\ progress.excluding = true := by
  rw [take]
  cases markOf progress.excluding line with
  | content => cases excluding : progress.excluding <;> simp [excluding]
  | _ => simp

lemma mem_openNames_take (name : String) : name ∈ (progress.take line).openNames ↔
    markOf progress.excluding line = .opening name \/
      markOf progress.excluding line ≠ .closing name /\ name ∈ progress.openNames := by
  rw [take]
  cases markOf progress.excluding line with
  | opening other =>
    by_cases known : progress.openNames.contains other = true
    · simp only [known, if_true, Mark.opening.injEq, ne_eq, reduceCtorEq, not_false_eq_true, true_and]
      refine ⟨Or.inr, ?_⟩
      rintro (rfl | mem)
      · exact contains_iff_mem.mp known
      · exact mem
    · simp only [known, Bool.false_eq_true, if_false, mem_append, mem_singleton,
        Mark.opening.injEq, ne_eq, reduceCtorEq, not_false_eq_true, true_and]
      rw [or_comm, eq_comm]
  | closing other =>
    simp only [mem_filter, bne_iff_ne, ne_eq, reduceCtorEq, Mark.closing.injEq, false_or]
    rw [and_comm, eq_comm]
  | content => cases excluding : progress.excluding <;> simp
  | _ => simp

lemma names_take : (progress.take line).snippets.map Prod.fst =
    progress.snippets.map Prod.fst ++ match markOf progress.excluding line with
      | .opening name => if name ∈ progress.snippets.map Prod.fst then [] else [name]
      | _ => [] := by
  rw [take]
  cases markOf progress.excluding line with
  | opening name =>
    have known : progress.snippets.any (·.1 == name) = true ↔ name ∈ progress.snippets.map Prod.fst := by simp
    by_cases there : name ∈ progress.snippets.map Prod.fst
    · simp only [known.mpr there, there, if_true, append_nil]
    · have absent : progress.snippets.any (·.1 == name) = false :=
        Bool.eq_false_iff.mpr fun found => there (known.mp found)
      simp only [absent, there, Bool.false_eq_true, if_false, map_append, map_cons, map_nil]
  | content =>
    cases excluding : progress.excluding with
    | true => simp
    | false =>
      simp only [Bool.false_eq_true, if_false, map_map, append_nil]
      apply map_congr_left
      rintro ⟨name, lines⟩ _
      by_cases isOpen : name ∈ progress.openNames <;> simp [isOpen]
  | _ => simp

lemma mem_names_take (name : String) : name ∈ (progress.take line).snippets.map Prod.fst ↔
    markOf progress.excluding line = .opening name \/ name ∈ progress.snippets.map Prod.fst := by
  rw [names_take, mem_append]
  cases markOf progress.excluding line with
  | opening other =>
    rw [Mark.opening.injEq]
    by_cases known : other ∈ progress.snippets.map Prod.fst
    · simp only [known, if_true, not_mem_nil, or_false]
      exact ⟨Or.inr, fun either => either.elim (fun same => same ▸ known) id⟩
    · simp only [known, if_false, mem_singleton]
      rw [or_comm, eq_comm]
  | _ => simp

lemma nodup_names_take (distinct : (progress.snippets.map Prod.fst).Nodup) :
    ((progress.take line).snippets.map Prod.fst).Nodup := by
  rw [names_take]
  cases markOf progress.excluding line with
  | opening other =>
    by_cases known : other ∈ progress.snippets.map Prod.fst
    · simp only [known, if_true, append_nil]
      exact distinct
    · simp only [known, if_false]
      exact List.Nodup.append distinct (nodup_singleton other) (disjoint_singleton.mpr known)
  | _ =>
    rwa [append_nil]

lemma mem_snippets_take {extracted : List String} (mem : (name, extracted) ∈ (progress.take line).snippets) :
    (markOf progress.excluding line = .opening name /\ extracted = [] /\ name ∉ progress.snippets.map Prod.fst) \/
      ∃ before, (name, before) ∈ progress.snippets /\ extracted = before ++
        if markOf progress.excluding line = .content /\ ¬ progress.excluding = true /\
          name ∈ progress.openNames then [line] else [] := by
  rw [take] at mem
  cases kind : markOf progress.excluding line <;> rw [kind] at mem
  case opening other =>
    by_cases known : progress.snippets.any (·.1 == other) = true
    · simp only [known, if_true] at mem
      exact .inr ⟨extracted, mem, by simp⟩
    · simp only [known, Bool.false_eq_true, if_false] at mem
      rcases mem_append.mp mem with old | new
      · exact .inr ⟨extracted, old, by simp⟩
      · rcases Prod.mk.inj (mem_singleton.mp new) with ⟨rfl, rfl⟩
        exact .inl ⟨rfl, rfl, by simpa using known⟩
  case content =>
    cases excluding : progress.excluding <;> rw [excluding] at mem
    · rcases mem_map.mp mem with ⟨⟨old, before⟩, there, made⟩
      by_cases isOpen : progress.openNames.contains old = true
      · simp only [isOpen, if_true] at made
        cases made
        exact .inr ⟨before, there, by simp [contains_iff_mem.mp isOpen]⟩
      · simp only [isOpen] at made
        cases made
        refine .inr ⟨extracted, there, ?_⟩
        rw [if_neg, append_nil]
        exact fun facts => isOpen (contains_iff_mem.mpr facts.2.2)
    · exact .inr ⟨extracted, mem, by simp⟩
  all_goals exact .inr ⟨extracted, mem, by simp⟩

end Progress

structure Tells (lines : List String) (marks : List Mark) (progress : Progress) : Prop where
  reading : Reading lines marks
  excluding : progress.excluding = true ↔ Excluded marks marks.length
  isOpen : ∀ name, name ∈ progress.openNames ↔ Open name marks marks.length
  named : ∀ name, name ∈ progress.snippets.map Prod.fst ↔ .opening name ∈ marks
  distinct : (progress.snippets.map Prod.fst).Nodup
  found : ∀ name extracted, (name, extracted) ∈ progress.snippets -> extracted = linesOf name lines marks

lemma Tells.start : Tells [] [] {} := by
  refine ⟨⟨rfl, fun _ _ _ there => by simp at there⟩, ?_, ?_, ?_, ?_, ?_⟩ <;> simp [Excluded, Open, Since]

lemma Tells.take {marks : List Mark} {progress : Progress} (tells : Tells lines marks progress) (line : String) :
    Tells (lines ++ [line]) (marks ++ [markOf progress.excluding line]) (progress.take line) := by
  have atEnd : (marks ++ [markOf progress.excluding line]).length = marks.length + 1 := by simp
  refine ⟨?_, ?_, ?_, ?_, ?_, ?_⟩
  · refine reading_concat.mpr ⟨tells.reading, ?_⟩
    rw [<- propext tells.excluding]
    exact (counts_iff _ _ _).mpr rfl
  · rw [progress.excluding_take, atEnd, tells.excluding]
    exact (since_concat (by simp)).symm
  · intro name
    rw [progress.mem_openNames_take, atEnd, tells.isOpen]
    exact (since_concat (by simp)).symm
  · intro name
    rw [progress.mem_names_take, tells.named, mem_append, mem_singleton, or_comm, eq_comm (a := Mark.opening name)]
  · exact progress.nodup_names_take line tells.distinct
  · intro name extracted mem
    rw [linesOf_concat name tells.reading.length]
    rcases progress.mem_snippets_take line mem with ⟨opens, rfl, new⟩ | ⟨before, there, rfl⟩
    · rw [linesOf_eq_nil fun seen => new ((tells.named name).mpr seen), if_neg]
      · rfl
      · rw [belongs_last, opens]
        simp
    · rw [tells.found name before there]
      refine congrArg _ (if_congr ?_ rfl rfl)
      rw [belongs_last, tells.excluding, tells.isOpen]

lemma exists_tells (lines : List String) : ∃ marks, Tells lines marks (lines.foldl Progress.take {}) := by
  induction lines using List.reverseRecOn with
  | nil => exact ⟨[], Tells.start⟩
  | append_singleton lines line ih =>
    obtain ⟨marks, tells⟩ := ih
    rw [foldl_concat]
    exact ⟨_, tells.take line⟩

/-! ## Snippets of a file -/

def trimmed (entries : List (String × List String)) : Except Failure (List (String × String)) :=
  entries.mapM fun entry => do
    return (entry.1, String.join (<- trimIndentation entry.2))

private lemma trimmed_entries {entries : List (String × List String)} (made : trimmed entries = .ok result) :
    result.map Prod.fst = entries.map Prod.fst /\ ∀ name value, (name, value) ∈ result ->
      ∃ lines texts, (name, lines) ∈ entries /\ trimIndentation lines = .ok texts /\ value = String.join texts := by
  induction entries generalizing result with
  | nil =>
    cases made
    exact ⟨rfl, nofun⟩
  | cons entry rest ih =>
    rw [trimmed, mapM_cons] at made
    obtain ⟨_, first, made⟩ := bind_eq_ok.mp made
    obtain ⟨found, texts, ⟨⟩⟩ := bind_eq_ok.mp first
    obtain ⟨more, others, ⟨⟩⟩ := bind_eq_ok.mp made
    obtain ⟨names, later⟩ := ih others
    refine ⟨congrArg (entry.1 :: ·) names, ?_⟩
    intro name value mem
    rcases mem_cons.mp mem with here | after
    · cases here
      exact ⟨entry.2, found, mem_cons_self, texts, rfl⟩
    · rcases later name value after with ⟨lines, each, inside, facts⟩
      exact ⟨lines, each, mem_cons_of_mem entry inside, facts⟩

lemma ofLines_ok (extracted : ofLines lines = .ok result) : ∃ marks, Reading lines marks /\
      (result.map Prod.fst).Nodup /\ (∀ name, name ∈ result.map Prod.fst ↔ .opening name ∈ marks) /\
      ∀ name value, (name, value) ∈ result -> ∃ texts,
        trimIndentation (linesOf name lines marks) = .ok texts /\ value = String.join texts := by
  obtain ⟨marks, tells⟩ := exists_tells lines
  obtain ⟨names, entries⟩ := trimmed_entries extracted
  refine ⟨marks, tells.reading, names ▸ tells.distinct, fun name => names ▸ tells.named name, ?_⟩
  intro name value mem
  obtain ⟨found, texts, inside, trimmed, joined⟩ := entries name value mem
  rw [tells.found name found inside] at trimmed
  exact ⟨texts, trimmed, joined⟩

lemma execute_inFile {w : Workspace} {path : String} {file : FileNode}
    (there : w.fileAt path = .ok file) : (inFile path).execute w = ((String.fromUTF8? file.content).elim (.error .undecodable)
        fun text => ofLines (Text.lines (unifyLineEnds text)), w) := by
  obtain ⟨place, loc, found⟩ := fileAt_eq_ok_iff.mp there
  have present : (w.nodeAt? path).isSome = true := by
    rw [nodeAt?_of_placeOf loc, found]
    rfl
  have bytes : (readBytes path).execute w = (.ok file.content, w) := by
    rw [readBytes, execute_bind, execute_fileAt, there]
    rfl
  rw [inFile, bind_ok (execute_exists? path w), present, if_pos rfl, readText, execute_bind, bind_ok bytes, decode]
  cases String.fromUTF8? file.content with
  | none => rfl
  | some text => simp only [execute_pure, execute_ofExcept, Option.elim_some]

/-- The snippets of a text are told by positions.  The names are those with a tag that opens them outside of
exclusions; the text of each is made of the lines that belong to it, in their order, without the indentation
that they share. -/
theorem snippets_by_position {w later : Workspace} {path : String} {file : FileNode}
    {result : List (String × String)} (there : w.fileAt path = .ok file)
    (ran : (inFile path).execute w = (.ok result, later)) : later = w /\
      ∃ text lines marks, String.fromUTF8? file.content = some text /\ lines = Text.lines (Text.unifyLineEnds text) /\
        Reading lines marks /\ (∀ other, Reading lines other -> other = marks) /\ (result.map Prod.fst).Nodup /\
        (∀ name, name ∈ result.map Prod.fst ↔ .opening name ∈ marks) /\
        ∀ name value, (name, value) ∈ result -> ∃ texts,
          trimIndentation (linesOf name lines marks) = .ok texts /\ value = String.join texts := by
  rw [execute_inFile there, Prod.mk.injEq] at ran
  rcases ran with ⟨extracted, same⟩
  cases decoded : String.fromUTF8? file.content with
  | none =>
    rw [decoded] at extracted
    cases extracted
  | some text =>
    rw [decoded, Option.elim_some] at extracted
    rcases ofLines_ok extracted with ⟨marks, reading, facts⟩
    exact ⟨same.symm, text, _, marks, rfl, rfl, reading, fun _ otherwise => otherwise.unique reading, facts⟩

def overlapping : String :=
  "[START a]\r\n  1\n[START b]\n[START_EXCLUDE]\n[END a]\n[END_EXCLUDE]\n 2\n[END a]\n3"

def sampled : Workspace where
  tree := ⟨[(["w"], .directory), (["w", "a.py"], .file { content := overlapping.toUTF8 })]⟩
  directory := ["w"]

/-- Both snippets have the line that follows the exclusion. -/
theorem overlapping_snippets : (inFile "a.py").execute sampled = (.ok [("a", " 1\n2\n"), ("b", " 2\n3")], sampled) /\
    ∃ text lines marks, String.fromUTF8? overlapping.toUTF8 = some text /\ lines = Text.lines (Text.unifyLineEnds text) /\
      Reading lines marks /\ (∀ other, Reading lines other -> other = marks) /\
      ([("a", " 1\n2\n"), ("b", " 2\n3")].map Prod.fst).Nodup /\
      (∀ name, name ∈ [("a", " 1\n2\n"), ("b", " 2\n3")].map Prod.fst ↔ .opening name ∈ marks) /\
      ∀ name value, (name, value) ∈ [("a", " 1\n2\n"), ("b", " 2\n3")] -> ∃ texts,
        trimIndentation (linesOf name lines marks) = .ok texts /\ value = String.join texts := by
  have there : sampled.fileAt "a.py" = .ok { content := overlapping.toUTF8 } := rfl
  have found : (ofLines (lines (unifyLineEnds overlapping))).toOption =
      some [("a", " 1\n2\n"), ("b", " 2\n3")] := by decide +kernel
  have ran : (inFile "a.py").execute sampled = (.ok [("a", " 1\n2\n"), ("b", " 2\n3")], sampled) := by
    rw [execute_inFile there, fromUTF8?_toUTF8, Option.elim_some, eq_ok_of_toOption found]
  exact ⟨ran, (snippets_by_position there ran).2⟩

/-! ## Files whose snippets can be read -/

lemma trimIndentation_cases (lines : List String) :
    (∃ texts, trimIndentation lines = .ok texts) /\ (∃ line ∈ lines, allBlank line = false) \/
      trimIndentation lines = .error .badValue /\ ∀ line ∈ lines, allBlank line = true := by
  rw [trimIndentation]
  cases common : commonIndentation? lines with
  | some count =>
    have shown : lines.filter (!allBlank ·) ≠ [] := by
      rintro none
      rw [commonIndentation?, none] at common
      cases common
    obtain ⟨line, mem⟩ := exists_mem_of_ne_nil _ shown
    obtain ⟨inside, text⟩ := mem_filter.mp mem
    exact .inl ⟨⟨_, rfl⟩, line, inside, by simpa using text⟩
  | none =>
    rw [commonIndentation?, min?_eq_none_iff, map_eq_nil_iff, filter_eq_nil_iff] at common
    exact .inr ⟨rfl, fun line mem => by simpa using common line mem⟩

lemma trimmed_cases (entries : List (String × List String)) :
    (∃ result, trimmed entries = .ok result) /\ (∀ entry ∈ entries, ∃ line ∈ entry.2, allBlank line = false) \/
    trimmed entries = .error .badValue /\ ∃ entry ∈ entries, ∀ line ∈ entry.2, allBlank line = true := by
  induction entries with
  | nil => exact .inl ⟨⟨[], rfl⟩, nofun⟩
  | cons entry rest ih =>
    rw [trimmed, mapM_cons]
    rcases trimIndentation_cases entry.2 with ⟨⟨texts, first⟩, shown⟩ | ⟨failed, blank⟩
    · rw [first]
      unfold trimmed at ih
      rcases ih with ⟨⟨result, later⟩, all⟩ | ⟨failed, other, mem, blank⟩
      · rw [later]
        exact .inl ⟨⟨_, rfl⟩, forall_mem_cons.mpr ⟨shown, all⟩⟩
      · rw [failed]
        exact .inr ⟨rfl, other, mem_cons_of_mem entry mem, blank⟩
    · rw [failed]
      exact .inr ⟨rfl, entry, mem_cons_self, blank⟩

/-- **Which files can be read.**  A file is read exactly if every snippet that is opened in it has a line that
is not blank. -/
theorem snippets_read_iff {w : Workspace} {path text : String} {file : FileNode}
    (there : w.fileAt path = .ok file) (decoded : String.fromUTF8? file.content = some text) :
    ∃ lines marks outcome, lines = Text.lines (Text.unifyLineEnds text) /\ Reading lines marks /\
      (inFile path).execute w = (outcome, w) /\ ((∃ result, outcome = .ok result) ↔ ∀ name, .opening name ∈ marks ->
        ∃ line ∈ linesOf name lines marks, allBlank line = false) /\
      ∀ failure, outcome = .error failure -> failure = .badValue := by
  rcases exists_tells (lines (unifyLineEnds text)) with ⟨marks, tells⟩
  refine ⟨_, marks, _, rfl, tells.reading, execute_inFile there, ?_⟩
  rw [decoded, Option.elim_some, ofLines]
  rcases trimmed_cases (foldl Progress.take {} (lines (unifyLineEnds text))).snippets with
    ⟨⟨result, ends⟩, shown⟩ | ⟨failed, ⟨name, found⟩, mem, blank⟩
  · refine ⟨iff_of_true ⟨result, ends⟩ fun name opened => ?_, fun failure stops => ?_⟩
    · rcases mem_map.mp ((tells.named name).mpr opened) with ⟨⟨_, found⟩, mem, rfl⟩
      rw [<- tells.found _ found mem]
      exact shown _ mem
    · cases ends.symm.trans stops
  · refine ⟨iff_of_false ?_ fun all => ?_, fun failure stops => ?_⟩
    · rintro ⟨result, ends⟩
      cases failed.symm.trans ends
    · rcases all name ((tells.named name).mp (mem_map_of_mem mem)) with ⟨line, inside, text⟩
      rw [<- tells.found name found mem] at inside
      cases (blank line inside).symm.trans text
    · cases failed.symm.trans stops
      rfl

/-- Both snippets have text, so the file is read. -/
theorem overlapping_read : ∃ lines marks outcome, lines = Text.lines (Text.unifyLineEnds overlapping) /\
    Reading lines marks /\ (inFile "a.py").execute sampled = (outcome, sampled) /\
    ((∃ result, outcome = .ok result) ↔ ∀ name, .opening name ∈ marks ->
      ∃ line ∈ linesOf name lines marks, allBlank line = false) /\
    ∀ failure, outcome = .error failure -> failure = .badValue :=
  snippets_read_iff rfl (fromUTF8?_toUTF8 overlapping)

def hollowSnippets : List String :=
  ["[START a]\n[END a]\n", "[START a]\n \n[END a]\n", "[START a]\n[START_EXCLUDE]\n1\n[END_EXCLUDE]\n[END a]\n", "[START a]"]

/-- None of their files can be read. -/
theorem hollow_refused : (hollowSnippets.all fun text => ((inFile "a.py").execute { sampled with
    tree := sampled.tree.insert ["w", "a.py"] (.file { content := text.toUTF8 }) }).1.toOption.isNone) = true := by
  decide +kernel

end Refinery.Snippet
