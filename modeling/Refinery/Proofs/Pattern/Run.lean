import Mathlib
import Refinery.Pattern.Match

namespace Refinery

/-!
# Patterns of one shape

A pattern that can match in one way only fails or goes on behind its text.
-/

namespace Spot

def past (s : Spot) (text : List Char) : Spot :=
  ⟨text.reverse ++ s.before, s.after.drop text.length, s.position + text.length, s.groups⟩

lemma past_nil (s : Spot) : s.past [] = s := by
  simp [past]

lemma past_cons (s : Spot) {c : Char} {rest : List Char} (next : s.after = c :: rest) (text : List Char) :
    (Spot.mk (c :: s.before) rest (s.position + 1) s.groups).past text = s.past (c :: text) := by
  simp [past, next]
  omega

end Spot

namespace Pattern

lemma run_literal (text : String) (goal : Goal) (s : Spot) :
    (literal text).run goal s = if text.toList <+: s.after then goal (s.past text.toList) else none := by
  rw [literal]
  induction text.toList generalizing s with
  | nil => simp [run, Spot.past_nil]
  | cons c rest ih =>
    cases following : s.after with
    | nil => simp [run, Spot.step, following]
    | cons d after =>
      by_cases same : d = c
      · subst same
        have onward := ih ⟨d :: s.before, after, s.position + 1, s.groups⟩
        rw [s.past_cons following] at onward
        simpa [run, Spot.step, following, CharTest.accepts] using onward
      · simp [run, Spot.step, following, CharTest.accepts, same, Ne.symm same]

lemma steps_eq (test : CharTest) (count : Nat) (s : Spot) : steps test count s =
      if count <= s.after.length /\ ∀ c ∈ s.after.take count, test.accepts c = true then
        some (s.past (s.after.take count)) else none := by
  induction count generalizing s with
  | zero => simp [steps, Spot.past_nil]
  | succ count ih =>
    cases following : s.after with
    | nil => simp [steps, Spot.step, following]
    | cons c after =>
      by_cases passes : test.accepts c = true
      · have onward := ih ⟨c :: s.before, after, s.position + 1, s.groups⟩
        rw [s.past_cons following] at onward
        simpa [steps, Spot.step, following, passes] using onward
      · simp [steps, Spot.step, following, passes]

lemma run_times (test : CharTest) (count : Nat) (goal : Goal) (s : Spot) :
    (times count (one test)).run goal s = (steps test count s).bind goal := by
  rw [times, run, repeatTest]
  cases steps test count s with
  | none => rfl
  | some next =>
    simp only [Nat.sub_self, Spot.run, firstOf, Option.bind_some]
    cases goal next <;> rfl

end Pattern
end Refinery
