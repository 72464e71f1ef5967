import Refinery.Proofs.Transfer.Moving

namespace Refinery

/-!
# Moves that have to copy something

A required move fails when nothing was copied.
-/

namespace Job

variable {α β : Type} {w : Workspace} {job : Job α}

structure Leaves (w : Workspace) (job : Job α) (after : α -> Workspace -> Prop) : Prop where
  ends : ∀ {value v}, job.execute w = (.ok value, v) -> after value v
  fails : ∀ {failure v}, job.execute w = (.error failure, v) -> failure.Foreign

namespace Leaves

lemma bind {next : α -> Job β} {middle : α -> Workspace -> Prop} {after : β -> Workspace -> Prop}
    (first : Leaves w job middle) (second : ∀ value v, middle value v -> Leaves v (next value) after) :
    Leaves w (job >>= next) after := by
  rcases ran : job.execute w with ⟨outcome, between⟩
  cases outcome with
  | ok value =>
    have later := second value between (first.ends ran)
    refine ⟨fun {answer last} whole => ?_, fun {err last} whole => ?_⟩
    · rw [bind_ok ran] at whole
      exact later.ends whole
    · rw [bind_ok ran] at whole
      exact later.fails whole
  | error err =>
    refine ⟨fun {answer last} whole => ?_, fun {other last} whole => ?_⟩
    · rw [bind_error ran] at whole
      cases whole
    · rw [bind_error ran] at whole
      cases whole
      exact first.fails ran

lemma pure {value : α} {after : α -> Workspace -> Prop} (holds : after value w) : Leaves w (Pure.pure value) after := by
  refine ⟨fun ran => ?_, fun ran => ?_⟩
  · cases ran
    exact holds
  · cases ran

def judgement : Judgement where
  Holds before job after := ∀ w, before w -> Leaves w job after
  pure follows w holds := pure (follows w holds)
  bind first second w holds := (first w holds).bind fun value v => second value v
  look {_ _ job} looks w holds := by
    refine ⟨fun {value v} ran => ?_, fun {failure v} ran => looks.spares w v failure ran⟩
    have same : (job.execute w).2 = w := looks.file.idle rfl w
    rw [ran] at same
    cases same
    exact holds

end Leaves
end Job

namespace Transfer

open Job

variable {merge : Option Merge} {w start u v : Workspace}

/-- A file was copied or merged to its place, after its directory was made if it was missing. -/
inductive Placement (merge : Option Merge) (u v : Workspace) : Prop where
  | selected (source destination : Path)
      (placed : (placeFile source destination merge).execute u = (.ok (), v))
  | below (source folder destination : Path)
      (placed : (do makeDirectories folder; placeFile source destination merge).execute u =
        (.ok (), v))

structure Told (merge : Option Merge) (start : Workspace) (copied : Bool) (v : Workspace) : Prop where
  nothing : copied = false -> v = start
  something : copied = true -> Relation.TransGen (Placement merge) start v

lemma Told.placed {copied : Bool} (told : Told merge start copied u) (placement : Placement merge u v) :
    Told merge start true v := by
  refine ⟨nofun, fun _ => ?_⟩
  cases copied with
  | false =>
    rw [told.nothing rfl] at placement
    exact .single placement
  | true => exact (told.something rfl).tail placement

end Transfer
end Refinery
