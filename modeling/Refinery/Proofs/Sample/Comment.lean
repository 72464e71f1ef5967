import Refinery.Proofs.Pattern.Run
import Refinery.Sample.Metadata

namespace Refinery

open List Pattern

/-!
# Comments that describe samples

The metadata of a sample stands in the lines of a comment.  Every sign of a comment is dropped from them, also
one that belongs to the metadata.
-/

/-! ## Loops of the matcher -/

lemma Spot.run_eq_cons {test : CharTest} {text rest : List Char} (accepted : ∀ c ∈ text, test.accepts c = true)
    (stops : rest.head?.all fun c => !test.accepts c) {limit : Nat} (enough : text.length <= limit) (s : Spot)
    (after : s.after = text ++ rest) (passed : List Spot) : ∃ others, s.run test limit passed = s.past text :: others := by
  induction text generalizing limit s passed with
  | nil =>
    refine ⟨passed, ?_⟩
    rw [past_nil]
    cases limit with
    | zero => rfl
    | succ limit =>
      cases rest with
      | nil => simp [run, step, after]
      | cons c rest => simp_all [run, step]
  | cons c text ih =>
    obtain ⟨limit, rfl⟩ : ∃ n, limit = n + 1 := ⟨limit - 1, by simp at enough; omega⟩
    rw [forall_mem_cons] at accepted
    have onward := ih accepted.2 (by simpa using enough) ⟨c :: s.before, text ++ rest, s.position + 1, s.groups⟩ rfl (s :: passed)
    rw [cons_append] at after
    rw [s.past_cons after] at onward
    simpa [run, step, after, accepted.1] using onward

lemma Pattern.rounds_or {body : Goal -> Goal} {low : Nat} {high : Option Nat} {goal : Goal} {fuel count : Nat}
    {last : Option Nat} {s : Spot} (counted : low <= count) (more : (mayRepeat count high && last != some s.position) = true) :
    rounds body low high goal (fuel + 1) count last s =
      (body (rounds body low high goal fuel (count + 1) (some s.position)) s).or (goal s) := by
  rw [rounds, if_neg (Nat.not_lt.mpr counted), if_pos more]
  cases body (rounds body low high goal fuel (count + 1) (some s.position)) s <;> rfl

lemma Pattern.rounds_blanks {goal : Goal} {fuel count : Nat} {last : Option Nat} {s found : Spot}
    (ran : rounds (literal " ").run 0 none goal fuel count last s = some found) :
    ∃ n, replicate n ' ' <+: s.after /\ goal (s.past (replicate n ' ')) = some found := by
  have stays {s : Spot} (here : goal s = some found) :
      ∃ n, replicate n ' ' <+: s.after /\ goal (s.past (replicate n ' ')) = some found :=
    ⟨0, nil_prefix, by rwa [replicate_zero, Spot.past_nil]⟩
  induction fuel generalizing count last s with
  | zero => exact stays ran
  | succ fuel ih =>
    rw [rounds, if_neg (Nat.not_lt_zero _), run_literal] at ran
    by_cases blank : " ".toList <+: s.after
    · split_ifs at ran
      · split at ran
        · rename_i more
          rw [ran] at more
          obtain ⟨n, blanks, reached⟩ := ih more
          obtain ⟨rest, after⟩ := blank
          have behind := s.past_cons (c := ' ') after.symm
          refine ⟨n + 1, ?_, ?_⟩
          · simpa [Spot.past, <- after, replicate_succ] using blanks
          · rw [replicate_succ, <- behind]
            simpa [Spot.past, <- after] using reached
        · exact stays ran
      · exact stays ran
    · rw [if_neg blank, ite_self] at ran
      exact stays ran

lemma Expression.searchFrom_of_first (e : Expression) {gap after before : List Char} {found : Spot × Spot}
    {pos : Nat} (fails : ∀ early late, gap = early ++ late -> late ≠ [] ->
      e.tryHere false (early.reverse ++ before) (late ++ after) (pos + early.length) = none)
    (here : e.tryHere false (gap.reverse ++ before) after (pos + gap.length) = some found) :
    e.searchFrom false before (gap ++ after) pos = some found := by
  induction gap generalizing before pos with
  | nil =>
    cases after with
    | nil => exact here
    | cons c rest =>
      have now : e.tryHere false before (c :: rest) pos = some found := here
      rw [nil_append, searchFrom, now]
  | cons c gap ih =>
    have nothing : e.tryHere false before (c :: (gap ++ after)) pos = none :=
      fails [] (c :: gap) rfl (cons_ne_nil _ _)
    rw [cons_append, searchFrom, nothing]
    refine ih (fun early late parts more => ?_) ?_
    · have later := fails (c :: early) late (by rw [parts, cons_append]) more
      simpa [Nat.add_assoc, Nat.add_comm 1] using later
    · simpa [Nat.add_assoc, Nat.add_comm 1] using here

lemma Expression.search?_of_searchFrom {e : Expression} {s : String} {start stop : Spot}
    (found : e.searchFrom false [] s.toList 0 = some (start, stop)) :
    e.search? s = some (between (Spot.start s.toList e.groups) start stop) := by
  rw [search?, matchesIn, matchesFrom]
  simp only [mayRepeat, Spot.start, found, decide_true, if_true, Nat.zero_lt_one, head?_cons]

namespace Sample

/-! ## Signs of comments -/

/-- A text without the signs of comments in it, and without a blank behind each. -/
def withoutSigns : List Char -> List Char
  | '#' :: ' ' :: rest | '#' :: rest | '/' :: '/' :: ' ' :: rest | '/' :: '/' :: rest => withoutSigns rest
  | c :: rest => c :: withoutSigns rest
  | [] => []

lemma run_blank (goal : Goal) (s : Spot) : (optional (literal " ")).run goal s =
    if [' '] <+: s.after then (goal (s.past [' '])).or (goal s) else goal s := by
  have once : (optional (literal " ")).run goal s = rounds (literal " ").run 0 (some 1)
      goal (0 + s.after.length + 1 + 1) 0 none s := rfl
  rw [once, rounds_or (Nat.le_refl 0) rfl, run_literal]
  change (if [' '] <+: s.after then goal (s.past [' ']) else none).or (goal s) = _
  split_ifs <;> rfl

lemma tryHere_sign (before after : List Char) (pos : Nat) : (commentSign.tryHere false before after pos = none /\
      ∀ c rest, after = c :: rest -> withoutSigns after = c :: withoutSigns rest) \/
    ∃ sign start stop, commentSign.tryHere false before after pos = some (start, stop) /\
      start.position = pos /\ stop.position = pos + sign.length /\ sign ≠ [] /\ after = sign ++ stop.after /\
      withoutSigns after = withoutSigns stop.after := by
  have unblank {rest : List Char} (other : ∀ more, rest = ' ' :: more -> False) : ¬ [' '] <+: rest := by
    rintro ⟨more, rfl⟩
    exact other more rfl
  have here : commentSign.tryHere false before after pos = (commentSign.matchHere false
      ⟨before, after, pos, [{}, {}]⟩).map (Prod.mk ⟨before, after, pos, [{}, {}]⟩) := rfl
  rw [here, Expression.matchHere]
  simp only [commentSign, Pattern.sequence, Pattern.choice, Pattern.run, Pattern.run_literal, run_blank]
  fun_cases withoutSigns after with
  | case1 rest => exact .inr ⟨['#', ' '], _, _, rfl, rfl, rfl, by simp, rfl, rfl⟩
  | case2 rest other =>
    refine .inr ⟨['#'], ?_⟩
    simp [Spot.enter, Spot.leave, Spot.past, unblank other]
  | case3 rest => exact .inr ⟨['/', '/', ' '], _, _, rfl, rfl, rfl, by simp, rfl, rfl⟩
  | case4 rest other =>
    refine .inr ⟨['/', '/'], ?_⟩
    simp [Spot.enter, Spot.leave, Spot.past, unblank other]
  | case5 c rest h1 h2 h3 h4 =>
    refine .inl ⟨?_, ?_⟩
    · have noHash : ¬ "#".toList <+: c :: rest := fun starts => h2 (cons_prefix_cons.mp starts).1.symm
      have noSlashes : ¬ "//".toList <+: c :: rest := by
        rintro ⟨more, same⟩
        cases same
        exact h4 more rfl rfl
      rw [if_neg (show ¬ "#".toList <+: (Spot.enter (Spot.enter ⟨before, c :: rest, pos, [{}, {}]⟩ 1) 2).after from noHash)]
      rw [if_neg (show ¬ "//".toList <+: (Spot.enter (Spot.enter ⟨before, c :: rest, pos, [{}, {}]⟩ 1) 2).after from noSlashes)]
      rfl
    · rintro d others same
      cases same
      rfl
  | case6 => exact .inl ⟨rfl, by simp⟩

lemma searchFrom_sign (before after : List Char) (pos : Nat) :
    (commentSign.searchFrom false before after pos = none /\ withoutSigns after = after) \/
    ∃ gap sign start stop, commentSign.searchFrom false before after pos = some (start, stop) /\
      start.position = pos + gap.length /\ stop.position = start.position + sign.length /\ sign ≠ [] /\
      after = gap ++ (sign ++ stop.after) /\ withoutSigns after = gap ++ withoutSigns stop.after := by
  induction after generalizing before pos with
  | nil =>
    exact .inl ⟨rfl, rfl⟩
  | cons c rest ih =>
    rw [Expression.searchFrom]
    rcases tryHere_sign before (c :: rest) pos with ⟨nothing, stays⟩ | ⟨sign, start, stop, found, first, last, sized, parts, left⟩
    · rw [nothing, stays c rest rfl]
      rcases ih (c :: before) (pos + 1) with ⟨none, same⟩ | ⟨gap, sign, start, stop, found, first, last, sized, parts, left⟩
      · exact .inl ⟨none, by rw [same]⟩
      · refine .inr ⟨c :: gap, sign, start, stop, found, ?_, last, sized, ?_, ?_⟩
        · rw [first, length_cons]
          omega
        · rw [cons_append, <- parts]
        · rw [left, cons_append]
    · rw [found]
      exact .inr ⟨[], sign, start, stop, rfl, first, by rw [last, first], sized, parts, left⟩

lemma matchesFrom_sign (fuel count : Nat) (s : Spot) (enough : s.after.length < fuel) :
    (commentSign.matchesFrom none fuel count false s).1.foldr (fun found rest => found.gap ++ [] ++ rest)
      (commentSign.matchesFrom none fuel count false s).2 = withoutSigns s.after := by
  induction fuel generalizing count s with
  | zero => cases enough
  | succ fuel ih =>
    rw [Expression.matchesFrom, if_pos (show mayRepeat count none = true from rfl)]
    rcases searchFrom_sign s.before s.after s.position with ⟨nothing, same⟩ |
      ⟨gap, sign, start, stop, found, first, last, sized, parts, left⟩
    · rw [nothing, same]
      rfl
    · have moved : (start.position == stop.position) = false := by
        rw [last]
        simpa using sized
      have shorter : stop.after.length < fuel := by
        rw [parts, length_append, length_append] at enough
        have := length_pos_iff.mpr sized
        omega
      have before : s.upTo start = gap := by
        rw [Spot.upTo, first, Nat.add_sub_cancel_left, parts, take_left]
      rw [found, left, <- ih (count + 1) stop shorter]
      simp [moved, Expression.between, before]

lemma replaceBy_sign (text : List Char) : commentSign.replaceBy "" (String.ofList text) = String.ofList (withoutSigns text) := by
  have left := matchesFrom_sign (2 * text.length + 2) 0 (Spot.start text commentSign.groups) (by simp [Spot.start]; omega)
  rw [Expression.replaceBy, Expression.substituteWith, Expression.matchesIn, String.toList_ofList]
  exact congrArg String.ofList left

lemma withoutSigns_line (text rest : List Char) :
    withoutSigns (text ++ '\n' :: rest) = withoutSigns text ++ '\n' :: withoutSigns rest := by
  fun_induction withoutSigns text with
  | case1 text ih => exact ih
  | case2 text other ih =>
    rw [cons_append, withoutSigns, ih]
    rintro more same
    rcases text with _ | ⟨c, text⟩ <;> cases same
    exact other text rfl
  | case3 text ih => exact ih
  | case4 text other ih =>
    rw [cons_append, cons_append, withoutSigns, ih]
    rintro more same
    rcases text with _ | ⟨c, text⟩ <;> cases same
    exact other text rfl
  | case5 c text _ noHash _ noSlashes ih =>
    rw [cons_append, withoutSigns, ih, cons_append]
    · exact fun _ same _ => noHash same
    · exact noHash
    all_goals
      rintro more rfl same
      rcases text with _ | ⟨d, text⟩
      · cases same
      · exact noSlashes text rfl (by rw [(cons.inj same).1])
  | case6 => rfl

lemma length_withoutSigns_le (text : List Char) : (withoutSigns text).length <= text.length := by
  fun_induction withoutSigns text <;> simp_all <;> omega

lemma withoutSigns_eq_iff {text : List Char} : withoutSigns text = text ↔ '#' ∉ text /\ ¬ "//".toList <:+: text := by
  have differs {text more : List Char} (longer : text.length < more.length) : withoutSigns text ≠ more := by
    rintro rfl
    exact Nat.not_lt.mpr (length_withoutSigns_le text) longer
  fun_induction withoutSigns text with
  | case1 text => exact iff_of_false (differs (by simp only [length_cons]; omega)) (by simp)
  | case2 text => exact iff_of_false (differs (by simp only [length_cons]; omega)) (by simp)
  | case3 text => exact iff_of_false (differs (by simp only [length_cons]; omega)) fun free => free.2 ⟨[], ' ' :: text, rfl⟩
  | case4 text => exact iff_of_false (differs (by simp only [length_cons]; omega)) fun free => free.2 ⟨[], text, rfl⟩
  | case5 c text _ noHash _ noSlashes ih =>
    have starts : ¬ "//".toList <+: c :: text := by
      rintro ⟨more, same⟩
      cases same
      exact noSlashes more rfl rfl
    have other : '#' ≠ c := fun same => noHash same.symm
    simp only [cons_inj_right, mem_cons, infix_cons_iff, starts, other, false_or]
    exact ih
  | case6 => simp

/-! ## The lines of a comment -/

/-- Lines as a comment goes on with them. -/
def commented (lines : List (List Char)) : List Char :=
  lines.flatMap fun line => '\n' :: '/' :: '/' :: ' ' :: line

/-- The text of metadata with some lines. -/
def described (lines : List (List Char)) : List Char :=
  "sample-metadata:".toList ++ lines.flatMap ('\n' :: ·)

/-- A comment with metadata is announced. -/
def Announced (text : List Char) : Prop :=
  ∃ n, "//".toList ++ (replicate n ' ' ++ "sample-metadata:".toList) <+: text

def commentPart : Pattern :=
  .group 2 (choice [oneOrMore (notAmong [.one '\n']), literal "\n//"])

def beyond (s : Spot) (text : List Char) : Spot :=
  ((s.enter 2).past text).leave 2

@[simp] lemma position_beyond (s : Spot) (text : List Char) : (beyond s text).position = s.position + text.length :=
  rfl

@[simp] lemma after_beyond (s : Spot) (text : List Char) : (beyond s text).after = s.after.drop text.length := rfl

@[simp] lemma groups_beyond (s : Spot) (text : List Char) : (beyond s text).groups[0]? = s.groups[0]? := by
  simp [beyond, Spot.enter, Spot.leave, Spot.past]

lemma run_part (goal : Goal) (s : Spot) : commentPart.run goal s =
    (repeatTest (.set [.one '\n'] true false false) 1 none .greedy (fun found => goal (found.leave 2))
      (s.enter 2)).or (if "\n//".toList <+: s.after then goal (beyond s "\n//".toList) else none) := by
  rw [commentPart, run]
  simp only [choice, run, oneOrMore, notAmong, run_literal]
  cases repeatTest (.set [.one '\n'] true false false) 1 none .greedy (fun found => goal (found.leave 2))
    (s.enter 2) <;> rfl

lemma run_part_line (goal : Goal) {s : Spot} {rest : List Char} (after : s.after = '\n' :: rest) :
    commentPart.run goal s = if "//".toList <+: rest then goal (beyond s "\n//".toList) else none := by
  have first : steps (.set [.one '\n'] true false false) 1 (s.enter 2) = none := by
    rw [steps_eq]
    simp [Spot.enter, after, CharTest.accepts, SetItem.holds]
  have starts : "\n//".toList <+: s.after ↔ "//".toList <+: rest := by
    rw [after]
    exact cons_prefix_cons.trans (and_iff_right rfl)
  rw [run_part, repeatTest, first, Option.none_or]
  simp only [starts]

lemma run_part_text {c : Char} {text rest : List Char} (plain : '\n' ∉ c :: text) {goal : Goal} {s found : Spot}
    (after : s.after = c :: (text ++ '\n' :: rest)) (reached : goal (beyond s (c :: text)) = some found) :
    commentPart.run goal s = some found := by
  have accepted : ∀ d ∈ c :: text, CharTest.accepts (.set [.one '\n'] true false false) d = true := by
    intro d mem
    have other : d ≠ '\n' := fun same => plain (same ▸ mem)
    simp [CharTest.accepts, SetItem.holds, other]
  have first : steps (.set [.one '\n'] true false false) 1 (s.enter 2) =
      some ⟨c :: s.before, text ++ '\n' :: rest, s.position + 1, (s.enter 2).groups⟩ := by
    rw [steps_eq]
    simp [Spot.enter, after, accepted c mem_cons_self, Spot.past]
  have stops : ('\n' :: rest).head?.all fun c => !CharTest.accepts (.set [.one '\n'] true false false) c := rfl
  rcases Spot.run_eq_cons (fun d mem => accepted d (mem_cons_of_mem c mem)) stops
    (show text.length <= (text ++ '\n' :: rest).length by simp)
    ⟨c :: s.before, text ++ '\n' :: rest, s.position + 1, (s.enter 2).groups⟩ rfl [] with ⟨others, furthest⟩
  have behind : Spot.past ⟨c :: s.before, text ++ '\n' :: rest, s.position + 1, (s.enter 2).groups⟩ text =
      (s.enter 2).past (c :: text) := (s.enter 2).past_cons after text
  rw [run_part, repeatTest, first]
  dsimp only
  have here : goal (((s.enter 2).past (c :: text)).leave 2) = some found := reached
  rw [furthest, firstOf, behind]
  simp only [here, Option.some_or]

lemma rounds_next {goal : Goal} {fuel count : Nat} {last : Option Nat} {s : Spot} (counted : 1 <= count)
    (moved : last ≠ some s.position) : rounds commentPart.run 1 none goal (fuel + 1) count last s =
      (commentPart.run (rounds commentPart.run 1 none goal fuel (count + 1) (some s.position)) s).or (goal s) :=
  rounds_or counted (by simpa [mayRepeat] using moved)

/-- The rest of a line and the lines after it are passed up to a line that is no comment. -/
lemma rounds_lines {goal : Goal} (total : ∀ s, ∃ found, goal s = some found) {lines : List (List Char)}
    (plain : ∀ line ∈ lines, '\n' ∉ line) {rest : List Char} (ends : ¬ "//".toList <+: rest) {c : Char}
    {text : List Char} (plainText : '\n' ∉ c :: text) {fuel count : Nat} {last : Option Nat} {s : Spot}
    (enough : s.after.length < fuel) (counted : 1 <= count) (moved : last ≠ some s.position)
    (after : s.after = c :: text ++ (commented lines ++ '\n' :: rest)) :
    ∃ stop found, rounds commentPart.run 1 none goal fuel count last s = some found /\
      goal stop = some found /\ stop.position = s.position + (c :: text ++ commented lines).length /\
      stop.groups[0]? = s.groups[0]? := by
  induction lines generalizing c text fuel count last s with
  | nil =>
    obtain ⟨fuel, rfl⟩ : ∃ n, fuel = n + 2 := ⟨fuel - 2, by simp [after] at enough; omega⟩
    rcases total (beyond s (c :: text)) with ⟨found, reached⟩
    have behind : (beyond s (c :: text)).after = '\n' :: rest := by
      simp [after, commented]
    refine ⟨beyond s (c :: text), found, ?_, reached, by simp [commented], groups_beyond s _⟩
    rw [rounds_next counted moved, run_part_text plainText after, Option.some_or]
    rw [rounds_next (by omega) (by simp), run_part_line _ behind, if_neg ends, Option.none_or, reached]
  | cons line lines ih =>
    obtain ⟨fuel, rfl⟩ : ∃ n, fuel = n + 2 := ⟨fuel - 2, by simp [after] at enough; omega⟩
    rw [forall_mem_cons] at plain
    have behind : (beyond s (c :: text)).after = '\n' :: '/' :: '/' :: (' ' :: line ++ (commented lines ++ '\n' :: rest)) := by
      simp [after, commented]
    have next : (beyond (beyond s (c :: text)) "\n//".toList).after = ' ' :: line ++ (commented lines ++ '\n' :: rest) := by
      rw [after_beyond, behind]
      rfl
    have shorter : (beyond (beyond s (c :: text)) "\n//".toList).after.length < fuel := by
      simp [after, commented] at enough ⊢
      omega
    have further : some (beyond s (c :: text)).position ≠ some (beyond (beyond s (c :: text)) "\n//".toList).position := by simp
    rcases ih plain.2 (by simpa using plain.1) shorter (Nat.le_add_left 1 (count + 1)) further next with
      ⟨stop, found, ran, reached, position, group⟩
    refine ⟨stop, found, ?_, reached, ?_, by simpa using group⟩
    · have onward : rounds commentPart.run 1 none goal (fuel + 1) (count + 1) (some s.position)
          (beyond s (c :: text)) = some found := by
        rw [rounds_next (Nat.le_add_left 1 count) (by simp), run_part_line _ behind,
          if_pos ⟨' ' :: line ++ (commented lines ++ '\n' :: rest), rfl⟩, ran, Option.some_or]
      rw [rounds_next counted moved, run_part_text plainText (by simpa [commented] using after) onward, Option.some_or]
    · rw [position]
      simp [commented]
      omega

/-! ## Whole comments -/

lemma announced_of_tryHere {before after : List Char} {pos : Nat} {found : Spot × Spot}
    (here : commentPattern.tryHere false before after pos = some found) : Announced after := by
  have join {first second text : List Char} (one : first <+: text) (other : second <+: text.drop first.length) :
      first ++ second <+: text := by
    obtain ⟨rest, rfl⟩ := one
    rw [drop_left] at other
    exact (prefix_append_right_inj first).mpr other
  obtain ⟨stop, ran, -⟩ := Option.map_eq_some_iff.mp here
  simp only [Expression.matchHere, commentPattern, Pattern.sequence, Pattern.run, Pattern.run_literal] at ran
  split_ifs at ran with starts
  obtain ⟨n, blanks, more⟩ := rounds_blanks ran
  split_ifs at more with named
  exact ⟨n, join starts (join blanks named)⟩

lemma run_announced {goal : Goal} {s found : Spot} {rest : List Char} (after : s.after = "// sample-metadata:".toList ++ rest)
    (reached : goal (s.past "// sample-metadata:".toList) = some found) :
    (sequence [literal "//", zeroOrMore (literal " "),
      literal "sample-metadata:"]).run goal s = some found := by
  have slashes : "//".toList <+: s.after := ⟨" sample-metadata:".toList ++ rest, by rw [after]; rfl⟩
  have blank : " ".toList <+: (s.past "//".toList).after :=
    ⟨"sample-metadata:".toList ++ rest, by rw [Spot.past, after]; rfl⟩
  have noBlank : ¬ " ".toList <+: ((s.past "//".toList).past " ".toList).after := by
    rw [Spot.past, Spot.past, after]
    exact fun starts => absurd (cons_prefix_cons.mp starts).1 (by decide)
  have name : "sample-metadata:".toList <+: ((s.past "//".toList).past " ".toList).after :=
    ⟨rest, by rw [Spot.past, Spot.past, after]; rfl⟩
  have whole : ((s.past "//".toList).past " ".toList).past "sample-metadata:".toList = s.past "// sample-metadata:".toList := by
    simp [Spot.past]
  have twice (goal : Goal) (s : Spot) : (zeroOrMore (literal " ")).run goal s =
      rounds (literal " ").run 0 none goal (0 + s.after.length + 1 + 1) 0 none s := rfl
  simp only [Pattern.sequence, Pattern.run, Pattern.run_literal, if_pos slashes, twice, Pattern.rounds,
    Nat.not_lt_zero, if_false, mayRepeat, Bool.true_and, if_pos blank, if_neg noBlank]
  simp only [ite_self, if_pos name, whole, reached]
  rfl

lemma tryHere_comment {line : List Char} {lines : List (List Char)} (plain : ∀ text ∈ line :: lines, '\n' ∉ text)
    {rest : List Char} (ends : ¬ "//".toList <+: rest) (before : List Char) (pos : Nat) :
    ∃ start stop, commentPattern.tryHere false before
        ("// sample-metadata:".toList ++ (commented (line :: lines) ++ '\n' :: rest)) pos = some (start, stop) /\
      (stop.groups.map Span.text?)[0]? = some (some ("// sample-metadata:".toList ++ commented (line :: lines))) := by
  rw [forall_mem_cons] at plain
  let here : Spot := ⟨before, "// sample-metadata:".toList ++ (commented (line :: lines) ++ '\n' :: rest), pos, [{}, {}]⟩
  let named := (here.enter 1).past "// sample-metadata:".toList
  have behind : named.after = '\n' :: '/' :: '/' :: (' ' :: line ++ (commented lines ++ '\n' :: rest)) := by
    simp [named, here, Spot.past, Spot.enter, commented]
  have next : (beyond named "\n//".toList).after = ' ' :: line ++ (commented lines ++ '\n' :: rest) := by
    rw [after_beyond, behind]
    rfl
  have total : ∀ s : Spot, ∃ found, (fun s : Spot => some (s.leave 1)) s = some found := fun s => ⟨_, rfl⟩
  have shorter : (beyond named "\n//".toList).after.length < 1 + named.after.length + 1 := by
    rw [after_beyond, length_drop]
    omega
  have started : (none : Option Nat) ≠ some (beyond named "\n//".toList).position := by simp
  rcases rounds_lines total plain.2 ends (by simpa using plain.1) shorter (Nat.le_refl 1) started next with
    ⟨stop, found, ran, reached, position, group⟩
  cases reached
  refine ⟨here, stop.leave 1, ?_, ?_⟩
  · refine Option.map_eq_some_iff.mpr ⟨stop.leave 1, ?_, rfl⟩
    refine run_announced (s := here.enter 1) rfl ?_
    change commentPart.run (rounds commentPart.run 1 none (fun s => some (s.leave 1))
      (1 + named.after.length + 1) 1 none) named = _
    rw [run_part_line _ behind, if_pos ⟨_, rfl⟩, ran]
  · have entered : stop.groups[0]? = some ⟨some (pos, here.after), none⟩ := by
      rw [group, groups_beyond]
      rfl
    have length : stop.position = pos + ("// sample-metadata:".toList ++ commented (line :: lines)).length := by
      rw [position]
      simp [named, here, Spot.past, Spot.enter, commented]
      omega
    have text : Span.text? ⟨some (pos, here.after), some stop.position⟩ =
        some ("// sample-metadata:".toList ++ commented (line :: lines)) := by
      change (if stop.position < pos then none else some (here.after.take (stop.position - pos))) = _
      rw [if_neg (by omega), length, Nat.add_sub_cancel_left]
      change some (take _ ("// sample-metadata:".toList ++ (commented (line :: lines) ++ '\n' :: rest))) = _
      rw [<- append_assoc, take_left]
    rw [getElem?_map, Spot.leave, getElem?_modify, entered]
    exact congrArg some text

lemma withoutSigns_commented (lines : List (List Char)) :
    withoutSigns (commented lines) = (lines.map withoutSigns).flatMap ('\n' :: ·) := by
  induction lines with
  | nil => rfl
  | cons line lines ih =>
    have onward : withoutSigns (line ++ commented lines) = withoutSigns line ++ withoutSigns (commented lines) := by
      cases lines with
      | nil => simp [commented, withoutSigns]
      | cons next others => exact withoutSigns_line line _
    rw [map_cons, flatMap_cons, <- ih, cons_append, <- onward]
    rfl

lemma withoutSigns_announced {lines : List (List Char)} (present : lines ≠ []) :
    withoutSigns ("// sample-metadata:".toList ++ commented lines) = described (lines.map withoutSigns) := by
  obtain ⟨line, lines, rfl⟩ := exists_cons_of_ne_nil present
  have name : withoutSigns "// sample-metadata:".toList = "sample-metadata:".toList := by decide +kernel
  have signs := withoutSigns_line "// sample-metadata:".toList ('/' :: '/' :: ' ' :: (line ++ commented lines))
  have opening : withoutSigns (commented (line :: lines)) =
      '\n' :: withoutSigns ('/' :: '/' :: ' ' :: (line ++ commented lines)) := rfl
  rwa [name, <- opening, withoutSigns_commented] at signs

lemma described_eq_iff {lines : List (List Char)} :
    described (lines.map withoutSigns) = described lines ↔ ∀ line ∈ lines, withoutSigns line = line := by
  have shorter (lines : List (List Char)) :
      ((lines.map withoutSigns).flatMap ('\n' :: ·)).length <= (lines.flatMap ('\n' :: ·)).length := by
    induction lines with
    | nil => exact Nat.le_refl 0
    | cons line lines ih =>
      have here := length_withoutSigns_le line
      simp only [map_cons, flatMap_cons, cons_append, length_cons, length_append]
      omega
  unfold described
  rw [append_right_inj]
  induction lines with
  | nil => exact iff_of_true rfl (forall_mem_nil _)
  | cons line lines ih =>
    rw [forall_mem_cons, <- propext ih, map_cons, flatMap_cons, flatMap_cons, cons_append, cons_append, cons_inj_right]
    constructor
    · intro same
      have lengths := congrArg length same
      have here := length_withoutSigns_le line
      have later := shorter lines
      rw [length_append, length_append] at lengths
      exact append_inj same (by omega)
    · rintro ⟨here, later⟩
      rw [here, later]

/-- A text with a comment of these lines, which is the first one that is announced, at the start of a line. -/
structure HasComment (content : String) (before : List Char) (lines : List (List Char)) (rest : List Char) : Prop where
  written : content.toList = before ++ ("// sample-metadata:".toList ++ (commented lines ++ '\n' :: rest))
  lineStart : before = [] \/ before.getLast? = some '\n'
  first : ∀ late, late <:+ before -> ¬ Announced late
  present : lines ≠ []
  plain : ∀ line ∈ lines, '\n' ∉ line
  ends : ¬ "//".toList <+: rest

variable {content : String} {before rest : List Char} {lines : List (List Char)}

lemma commentText?_comment (has : HasComment content before lines rest) :
    commentText? content = some (String.ofList (described (lines.map withoutSigns))) := by
  obtain ⟨written, lineStart, first, present, plain, ends⟩ := has
  obtain ⟨line, lines, rfl⟩ := exists_cons_of_ne_nil present
  obtain ⟨start, stop, here, group⟩ := tryHere_comment plain ends (before.reverse ++ []) (0 + before.length)
  have found := commentPattern.searchFrom_of_first (fun early late parts more => ?_) here
  · have text : (Expression.between (Spot.start content.toList commentPattern.groups) start stop).group 1 =
        String.ofList ("// sample-metadata:".toList ++ commented (line :: lines)) := by
      change ((((stop.groups.map Span.text?)[0]?).join).map String.ofList).getD "" = _
      rw [group]
      rfl
    rw [<- written] at found
    rw [commentText?, Expression.search?_of_searchFrom found, Option.map_some, text, replaceBy_sign, withoutSigns_announced present]
  · cases outcome : commentPattern.tryHere false (early.reverse ++ []) (late ++
      ("// sample-metadata:".toList ++ (commented (line :: lines) ++ '\n' :: rest))) (0 + early.length) with
    | none => rfl
    | some found =>
      obtain ⟨n, begins⟩ := announced_of_tryHere outcome
      have last : '\n' ∈ late := by
        rcases lineStart with nothing | last
        · rw [nothing] at parts
          exact absurd (append_eq_nil_iff.mp parts.symm).2 more
        · rw [parts, getLast?_append_of_ne_nil _ more] at last
          exact mem_of_getLast? last
      rcases prefix_or_prefix_of_prefix begins (prefix_append late _) with inside | beyond
      · exact absurd ⟨n, inside⟩ (first late ⟨early, parts.symm⟩)
      · exact absurd (beyond.subset last) (by simp)

/-- A comment gives its lines without any signs, so it gives them as they are exactly if there are none in them. -/
theorem comment_decoded_iff (has : HasComment content before lines rest) :
    commentText? content = some (String.ofList (described (lines.map withoutSigns))) /\
    (commentText? content = some (String.ofList (described lines)) ↔
      ∀ line ∈ lines, '#' ∉ line /\ ¬ "//".toList <:+: line) := by
  have text := commentText?_comment has
  refine ⟨text, ?_⟩
  rw [text, Option.some_inj, String.ofList_inj, described_eq_iff]
  exact forall₂_congr fun line _ => withoutSigns_eq_iff

theorem comment_of_plain_lines : commentText? "x\n// sample-metadata:\n//   title: A\n//   usage: b\n\nx\n" =
      some "sample-metadata:\n  title: A\n  usage: b" := by
  have first (late : List Char) (part : late <:+ "x\n".toList) : ¬ Announced late := by
    rintro ⟨n, begins⟩
    exact absurd (part.subset (begins.subset mem_cons_self)) (by decide)
  have has : HasComment "x\n// sample-metadata:\n//   title: A\n//   usage: b\n\nx\n" "x\n".toList
      ["  title: A".toList, "  usage: b".toList] "\nx\n".toList :=
    ⟨by decide +kernel, .inr rfl, first, by simp, by decide, by decide⟩
  exact (comment_decoded_iff has).2.mpr (by decide)

/-- The slashes of an address in a description are taken for the sign of a comment. -/
theorem comment_of_address :
    commentText? "// sample-metadata:\n//   title: http://a\n\n" = some "sample-metadata:\n  title: http:a" := by
  decide +kernel

end Sample
end Refinery
