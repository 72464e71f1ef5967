import Mathlib
import Refinery.Json

namespace Refinery.Json

open List

/-!
# Whole numbers in JSON

A number is read back if what follows cannot go on with it.
-/

def Ends (rest : List Char) : Prop :=
  ∀ c, rest.head? = some c -> c ∈ [' ', '\t', '\n', '\r', ',', ']', '\x7d']

lemma ends_of_skipGap {rest more : List Char} {mark : Char} (next : skipGap rest = mark :: more)
    (closing : mark ∈ [',', ']', '\x7d']) : Ends rest := by
  intro c begins
  cases rest with
  | nil => cases begins
  | cons head tail =>
    cases begins
    by_cases blank : isGap c = true
    · simp only [isGap, Bool.or_eq_true, beq_iff_eq] at blank
      rcases blank with ((rfl | rfl) | rfl) | rfl <;> decide
    · rw [skipGap, dropWhile_cons_of_neg blank] at next
      cases next
      exact mem_append_right [' ', '\t', '\n', '\r'] closing

lemma head_toDigits {n : Nat} (positive : 0 < n) : (Nat.toDigits 10 n).head? ≠ some '0' := by
  induction n using Nat.strong_induction_on with
  | _ n ih =>
    rw [Nat.toDigits_eq_if (by decide)]
    split
    next small =>
      have first : ∀ digit < 10, 0 < digit -> [Nat.digitChar digit].head? ≠ some '0' := by decide
      exact first n small positive
    · rw [head?_append_of_ne_nil _ Nat.toDigits_ne_nil]
      exact ih (n / 10) (by omega) (by omega)

variable {rest : List Char}

lemma wholeDigits_eq (n : Nat) (ends : Ends rest) : (if (Nat.toDigits 10 n ++ rest).head? == some '0' then ['0']
      else (Nat.toDigits 10 n ++ rest).takeWhile Char.isDigit) = Nat.toDigits 10 n := by
  have digits : ∀ c ∈ Nat.toDigits 10 n, c.isDigit = true := fun c =>
    Nat.isDigit_of_mem_toDigits (by decide) (by decide)
  rw [head?_append_of_ne_nil _ Nat.toDigits_ne_nil]
  rcases Nat.eq_zero_or_pos n with rfl | positive
  · rfl
  · rw [if_neg (by simpa using head_toDigits positive), takeWhile_append_of_pos digits]
    cases rest with
    | nil => simp
    | cons c more =>
      have listed := ends c rfl
      simp only [mem_cons, not_mem_nil, or_false] at listed
      rcases listed with rfl | rfl | rfl | rfl | rfl | rfl | rfl <;> simp

lemma digitsValue_toDigits (n : Nat) : Decimal.digitsValue 0 (Nat.toDigits 10 n) = n := by
  have library := Nat.ofDigitChars_toDigits (b := 10) (n := n) (by decide) (by decide)
  simpa only [Nat.ofDigitChars, Decimal.digitsValue, Nat.mul_comm 10] using library

def sign (n : Int) : List Char :=
  if n < 0 then ['-'] else []

lemma toList_toString (n : Int) : (toString n).toList = sign n ++ Nat.toDigits 10 n.natAbs := by
  cases n with
  | ofNat n => simp [Int.toString_eq_repr, Int.repr, sign]
  | negSucc n => simp [Int.toString_eq_repr, Int.repr, sign, Int.negSucc_lt_zero]

lemma toString_begins (n : Int) : ∃ first more, (toString n).toList = first :: more /\
    (first = '-' /\ (∃ digit others, more = digit :: others /\ digit.isDigit = true) \/ first.isDigit = true) := by
  rcases exists_cons_of_ne_nil (Nat.toDigits_ne_nil (n := n.natAbs) (b := 10)) with ⟨digit, others, chars⟩
  have isDigit : digit.isDigit = true := Nat.isDigit_of_mem_toDigits (b := 10) (n := n.natAbs)
    (by decide) (by decide) (by rw [chars]; exact mem_cons_self)
  rw [toList_toString, chars, sign]
  split
  · exact ⟨'-', _, rfl, .inl ⟨rfl, digit, others, rfl, isDigit⟩⟩
  · exact ⟨digit, others, rfl, .inr isDigit⟩

lemma number?_toString (n : Int) (ends : Ends rest) : number? ((toString n).toList ++ rest) = some (.int n, rest) := by
  have signed : ((sign n ++ (Nat.toDigits 10 n.natAbs ++ rest)).head? == some '-') = decide (n < 0) := by
    by_cases negative : n < 0
    · simp [sign, negative]
    · rw [sign, if_neg negative, nil_append, head?_append_of_ne_nil _ Nat.toDigits_ne_nil,
        decide_eq_false negative, beq_eq_false_iff_ne]
      intro begins
      exact absurd (Nat.isDigit_of_mem_toDigits (by decide) (by decide) (mem_of_head? begins)) (by decide)
  have cut : (if decide (n < 0) = true then (sign n ++ (Nat.toDigits 10 n.natAbs ++ rest)).drop 1
      else sign n ++ (Nat.toDigits 10 n.natAbs ++ rest)) = Nat.toDigits 10 n.natAbs ++ rest := by
    by_cases negative : n < 0 <;> simp [sign, negative]
  have some : (Nat.toDigits 10 n.natAbs).isEmpty = false := by simp [Nat.toDigits_ne_nil]
  have value : (if decide (n < 0) = true then -(n.natAbs : Int) else n.natAbs) = n := by
    simp only [decide_eq_true_eq]
    omega
  refine Eq.trans ?_ (congrArg (fun value => Option.some (Doc.int value, rest)) value)
  rw [toList_toString, append_assoc]
  unfold number?
  simp only [signed, cut, wholeDigits_eq n.natAbs ends, drop_left, some, digitsValue_toDigits]
  cases rest with
  | nil => rfl
  | cons c more =>
    have listed := ends c rfl
    simp only [mem_cons, not_mem_nil, or_false] at listed
    rcases listed with rfl | rfl | rfl | rfl | rfl | rfl | rfl <;> rfl

end Refinery.Json
