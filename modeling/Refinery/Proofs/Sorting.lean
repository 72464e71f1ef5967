import Mathlib
import Refinery.Text.Search

namespace Refinery

open List

namespace Sorting

/-!
# Laws of sorting

A list is sorted by a key.  Items with one key keep their places, and a list of texts without repetition is
determined, once it is sorted, by which texts are in it.
-/

variable {α : Type}

lemma ordered_eq (le : α -> α -> Bool) (items : List α) : ordered le items = items.insertionSort (le · · = true) := by
  have each : insertBefore le = orderedInsert (le · · = true) := by
    funext item items
    induction items with
    | nil => rfl
    | cons first rest ih =>
      rw [insertBefore, ih]
      rfl
  rw [ordered, each]
  rfl

lemma ordered_perm (le : α -> α -> Bool) (items : List α) : (ordered le items).Perm items := by
  rw [ordered_eq]
  exact perm_insertionSort _ items

@[simp] lemma mem_ordered {le : α -> α -> Bool} {item : α} {items : List α} : item ∈ ordered le items ↔ item ∈ items :=
  (ordered_perm le items).mem_iff

section Keys

variable {κ : Type} [LinearOrder κ] [DecidableEq κ] {key : α -> κ} {le : α -> α -> Bool}
  (byKey : ∀ a b, le a b = true ↔ key a <= key b)

include byKey

lemma ordered_pairwise (items : List α) : (ordered le items).Pairwise (key · <= key ·) := by
  have total : Std.Total (le · · = true) := ⟨fun a b => by simpa [byKey] using le_total (key a) (key b)⟩
  have trans : IsTrans α (le · · = true) := ⟨fun a b c => by simpa [byKey] using le_trans⟩
  rw [ordered_eq]
  exact (pairwise_insertionSort _ items).imp fun {a b} => (byKey a b).mp

lemma filter_ordered (k : κ) (items : List α) : (ordered le items).filter (key · = k) = items.filter (key · = k) := by
  have tied : (items.filter (key · = k)).Pairwise (le · · = true) := by
    refine pairwise_of_forall_mem_list fun a first b second => (byKey a b).mpr (le_of_eq ?_)
    exact (of_decide_eq_true (mem_filter.mp first).2).trans (of_decide_eq_true (mem_filter.mp second).2).symm
  have inside := (sublist_insertionSort tied filter_sublist).filter (key · = k)
  rw [<- ordered_eq, filter_filter] at inside
  simp only [Bool.and_self] at inside
  exact (inside.eq_of_length ((ordered_perm le items).filter _).length_eq.symm).symm

omit byKey

variable {first second : List α}

lemma mem_of_filter_eq (same : ∀ k, first.filter (key · = k) = second.filter (key · = k)) {item : α}
    (mem : item ∈ first) : item ∈ second := by
  have kept : item ∈ first.filter (key · = key item) := mem_filter.mpr ⟨mem, by simp⟩
  rw [same] at kept
  exact mem_of_mem_filter kept

lemma eq_of_filter_eq (inOrder : first.Pairwise (key · <= key ·)) (otherInOrder : second.Pairwise (key · <= key ·))
    (same : ∀ k, first.filter (key · = k) = second.filter (key · = k)) : first = second := by
  induction first generalizing second with
  | nil =>
    refine (eq_nil_iff_forall_not_mem.mpr fun item mem => ?_).symm
    exact not_mem_nil (mem_of_filter_eq (fun k => (same k).symm) mem)
  | cons a rest ih =>
    cases second with
    | nil => exact absurd (mem_of_filter_eq same mem_cons_self) not_mem_nil
    | cons b others =>
      rw [pairwise_cons] at inOrder otherInOrder
      have least : ∀ item ∈ a :: rest, key a <= key item := forall_mem_cons.mpr ⟨le_rfl, inOrder.1⟩
      have otherLeast : ∀ item ∈ b :: others, key b <= key item := forall_mem_cons.mpr ⟨le_rfl, otherInOrder.1⟩
      have sameKey : key a = key b :=
        le_antisymm (least b (mem_of_filter_eq (fun k => (same k).symm) mem_cons_self))
          (otherLeast a (mem_of_filter_eq same mem_cons_self))
      have heads := same (key b)
      rw [filter_cons_of_pos (by simp [sameKey]), filter_cons_of_pos (by simp)] at heads
      rw [(List.cons.inj heads).1] at same ⊢
      rw [ih inOrder.2 otherInOrder.2 fun k => ?_]
      have whole := same k
      rw [filter_cons, filter_cons] at whole
      split_ifs at whole with here
      · exact (List.cons.inj whole).2
      · exact whole

end Keys

end Sorting

namespace Text

lemma le_iff {a b : String} : le a b = true ↔ a <= b :=
  decide_eq_true_iff

lemma sorted_pairwise (texts : List String) : (sorted texts).Pairwise (· <= ·) := by
  have byText (a b : String) : le a b = true ↔ id a <= id b := le_iff
  exact Sorting.ordered_pairwise byText texts

variable {texts : List String}

@[simp] lemma mem_sorted {text : String} : text ∈ sorted texts ↔ text ∈ texts :=
  Sorting.mem_ordered

lemma sorted_of_pairwise (inOrder : texts.Pairwise (· <= ·)) : sorted texts = texts :=
  (Sorting.ordered_perm le texts).eq_of_pairwise' (sorted_pairwise texts) inOrder

lemma sorted_congr {first second : List String} (firstDistinct : first.Nodup)
    (secondDistinct : second.Nodup) (same : ∀ text, text ∈ first ↔ text ∈ second) : sorted first = sorted second := by
  have rearranged := (perm_ext_iff_of_nodup firstDistinct secondDistinct).mpr same
  exact (((Sorting.ordered_perm le first).trans rearranged).trans (Sorting.ordered_perm le second).symm).eq_of_pairwise'
    (sorted_pairwise first) (sorted_pairwise second)

lemma leAll_iff {first second : List String} : leAll first second = true ↔ first <= second := by
  fun_induction leAll first second with
  | case1 second => simp [<- not_lt]
  | case2 => simp [<- not_lt]
  | case3 rest a others ih => simp [ih, <- not_lt]
  | case4 a rest b others other =>
    have least : b :: others < a :: rest ↔ b < a \/ b = a /\ others < rest := cons_lex_cons_iff
    rw [le_iff, <- not_lt, <- not_lt, least, or_iff_left fun same => other same.1.symm]

end Text
end Refinery
