import Mathlib
import Refinery.Workspace.Basic

namespace Refinery

open List

lemma bind_eq_ok {ε α β : Type} {first : Except ε α} {next : α -> Except ε β} {answer : β} :
    first >>= next = .ok answer ↔ ∃ value, first = .ok value /\ next value = .ok answer := by
  cases first with
  | error err => constructor <;> simp [bind, Except.bind]
  | ok value => simp [bind, Except.bind]

lemma eq_ok_of_toOption {ε α : Type} {outcome : Except ε α} {value : α}
    (gives : outcome.toOption = some value) : outcome = .ok value := by
  cases outcome with
  | error err => cases gives
  | ok other =>
    cases gives
    rfl

namespace Job

/-!
# Running jobs

The equations say what each way of building a job does when it is run.
-/

variable {α β σ : Type}

@[simp] lemma execute_pure (value : α) (w : Workspace) : (pure value : Job α).execute w = (.ok value, w) := rfl

@[simp] lemma execute_bind (job : Job α) (next : α -> Job β) (w : Workspace) : (job >>= next).execute w = match job.execute w with
      | (.ok value, after) => (next value).execute after
      | (.error err, after) => (.error err, after) := by
  unfold execute
  rw [ExceptT.run_bind, StateT.run_bind]
  change _ = match StateT.run (ExceptT.run job) w with
      | (.ok value, after) => _
      | (.error err, after) => _
  rcases StateT.run (ExceptT.run job) w with ⟨outcome, after⟩
  cases outcome <;> rfl

lemma bind_ok {job : Job α} {next : α -> Job β} {w after : Workspace} {value : α}
    (ran : job.execute w = (.ok value, after)) : (job >>= next).execute w = (next value).execute after := by
  rw [execute_bind, ran]

lemma bind_error {job : Job α} {next : α -> Job β} {w after : Workspace}
    {err : Failure} (ran : job.execute w = (.error err, after)) : (job >>= next).execute w = (.error err, after) := by
  rw [execute_bind, ran]

lemma of_bind_ok {job : Job α} {next : α -> Job β} {w last : Workspace} {answer : β}
    (ran : (job >>= next).execute w = (.ok answer, last)) : ∃ value after, job.execute w = (.ok value, after) /\
      (next value).execute after = (.ok answer, last) := by
  rw [execute_bind] at ran
  rcases first : job.execute w with ⟨outcome, after⟩
  rw [first] at ran
  cases outcome with
  | ok value => exact ⟨value, after, rfl, ran⟩
  | error err => cases ran

lemma run_eq_of_toOption {run : Except Failure α × Workspace} {value : α}
    (gives : run.1.toOption = some value) : run = (.ok value, run.2) :=
  Prod.ext (eq_ok_of_toOption gives) rfl

lemma execute_bind_congr {job other : Job α} {next onward : α -> Job β} {w : Workspace}
    (first : job.execute w = other.execute w) (second : ∀ value after, other.execute w = (.ok value, after) ->
      (next value).execute after = (onward value).execute after) : (job >>= next).execute w = (other >>= onward).execute w := by
  rw [execute_bind, execute_bind, first]
  rcases ran : other.execute w with ⟨outcome, after⟩
  cases outcome with
  | ok value => exact second value after ran
  | error err => rfl

@[simp] lemma execute_get (w : Workspace) : (get : Job Workspace).execute w = (.ok w, w) := rfl

@[simp] lemma execute_modify (change : Workspace -> Workspace) (w : Workspace) :
    (modify change : Job Unit).execute w = (.ok (), change w) := rfl

@[simp] lemma execute_throw (err : Failure) (w : Workspace) : (throw err : Job α).execute w = (.error err, w) := rfl

@[simp] lemma execute_fail (err : Failure) (w : Workspace) : (fail err : Job α).execute w = (.error err, w) := rfl

@[simp] lemma execute_complain (reason : Complaint) (w : Workspace) :
    (complain reason : Job α).execute w = (.error (.complaint reason), w) := rfl

@[simp] lemma execute_ofExcept (outcome : Except Failure α) (w : Workspace) : (ofExcept outcome).execute w = (outcome, w) := by
  cases outcome <;> rfl

@[simp] lemma execute_need_some (err : Failure) (value : α) (w : Workspace) :
    (need err (some value)).execute w = (.ok value, w) := rfl

@[simp] lemma execute_session (w : Workspace) : session.execute w = (.ok w.session, w) := rfl

@[simp] lemma execute_note (change : Session -> Session) (w : Workspace) :
    (note change).execute w = (.ok (), { w with session := change w.session }) := rfl

@[simp] lemma execute_record (change : Record -> Record) (w : Workspace) : (record change).execute w =
      (.ok (), { w with session := { w.session with record := change w.session.record } }) := rfl

@[simp] lemma execute_onTree (change : Tree -> Tree) (w : Workspace) :
    (onTree change).execute w = (.ok (), { w with tree := change w.tree }) := rfl

@[simp] lemma execute_workingDirectory (w : Workspace) : workingDirectory.execute w = (.ok (Tree.pathOf w.directory), w) := rfl

@[simp] lemma execute_attempt (job : Job α) (w : Workspace) :
    (attempt job).execute w = (.ok (job.execute w).1, (job.execute w).2) := by
  unfold attempt execute
  rw [ExceptT.run_tryCatch, StateT.run_bind, bind_pure_comp, ExceptT.run_map, StateT.run_map]
  rcases StateT.run (ExceptT.run job) w with ⟨outcome, after⟩
  cases outcome <;> rfl

/-! ## Loops over steps that only look -/

lemma execute_foldlM (step : σ -> α -> Job σ) (answer : σ -> α -> σ) (w : Workspace)
    (items : List α) (start : σ) (looks : ∀ state item, item ∈ items ->
      (step state item).execute w = (.ok (answer state item), w)) :
    (items.foldlM step start).execute w = (.ok (items.foldl answer start), w) := by
  induction items generalizing start with
  | nil => rfl
  | cons item rest ih =>
    rw [foldlM_cons, bind_ok (looks start item mem_cons_self)]
    exact ih _ fun state other mem => looks state other (mem_cons_of_mem item mem)

private lemma execute_filterAuxM (test : α -> Job Bool) (answer : α -> Bool) (w : Workspace)
    (items kept : List α) (looks : ∀ item ∈ items, (test item).execute w = (.ok (answer item), w)) :
    (List.filterAuxM test items kept).execute w = (.ok ((items.filter answer).reverse ++ kept), w) := by
  induction items generalizing kept with
  | nil => rfl
  | cons item rest ih =>
    have later := fun other mem => looks other (mem_cons_of_mem item mem)
    rw [List.filterAuxM, bind_ok (looks item mem_cons_self), ih _ later]
    cases kind : answer item <;> simp [kind, cond]

lemma execute_filterM (test : α -> Job Bool) (answer : α -> Bool) (w : Workspace) (items : List α)
    (looks : ∀ item ∈ items, (test item).execute w = (.ok (answer item), w)) :
    (items.filterM test).execute w = (.ok (items.filter answer), w) := by
  rw [List.filterM, bind_ok (execute_filterAuxM test answer w items [] looks)]
  simp

end Job
end Refinery
