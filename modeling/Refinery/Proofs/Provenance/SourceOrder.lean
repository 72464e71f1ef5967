import Refinery.Proofs.Provenance.Rereading

namespace Refinery

open List Job Text

/-!
# What the order of the sources depends on

A key of a source says everything but the log and the internal reference of a repository, and sources with one
key keep their order.  So after the same calls in another order the same is written exactly if the notes about
each repository come in the same order.
-/

namespace Record

open Sorting

def gitNote? (name remote sha : String) : Source -> Option (String × String)
  | .git s => if s.name = name /\ s.remote = remote /\ s.sha = sha then some (s.internalRef, s.log) else none
  | _ => none

def gitNotes (name remote sha : String) (sources : List Source) : List (String × String) :=
  sources.filterMap (gitNote? name remote sha)

lemma filter_git (name remote sha : String) (srcs : List Source) :
    (srcs.map Source.forgetLocalPath).filter (·.key = ["git", name, remote, sha]) =
      (gitNotes name remote sha srcs).map fun note => .git { name, remote, sha, internalRef := note.1, log := note.2 } := by
  unfold gitNotes
  induction srcs with
  | nil => rfl
  | cons src rest ih =>
    rw [map_cons, filter_cons, ih, filterMap_cons]
    cases src with
    | git s =>
      by_cases here : s.name = name /\ s.remote = remote /\ s.sha = sha
      · rcases here with ⟨rfl, rfl, rfl⟩
        simp [Source.forgetLocalPath, Source.key, gitNote?]
      · simp [Source.forgetLocalPath, Source.key, gitNote?, here]
    | _ => simp [Source.forgetLocalPath, Source.key, gitNote?]

lemma eq_of_key {a b : Source} (same : a.key = b.key)
    (other : ∀ name remote sha, a.key ≠ ["git", name, remote, sha]) : a = b := by
  rcases a with _ | s | ⟨name, ver, image⟩ | ⟨name, origin, ver⟩
  all_goals cases b <;> simp_all [Source.key]

lemma byKey (a b : Source) : a.le b = true ↔ a.key <= b.key :=
  leAll_iff

variable {first second : List Source}

lemma ordered_sources_eq_iff (rearranged : first.Perm second) :
    ordered Source.le (first.map Source.forgetLocalPath) = ordered Source.le (second.map Source.forgetLocalPath) ↔
      ∀ name remote sha, gitNotes name remote sha first = gitNotes name remote sha second := by
  constructor
  · intro same name remote sha
    have filtered : (first.map Source.forgetLocalPath).filter (·.key = ["git", name, remote, sha]) =
        (second.map Source.forgetLocalPath).filter (·.key = ["git", name, remote, sha]) := by
      rw [<- filter_ordered byKey, same, filter_ordered byKey]
    rw [filter_git, filter_git] at filtered
    refine map_injective_iff.mpr ?_ filtered
    rintro ⟨ref, log⟩ ⟨otherRef, otherLog⟩ equal
    simpa using equal
  · intro agree
    refine eq_of_filter_eq (ordered_pairwise byKey _) (ordered_pairwise byKey _) fun key => ?_
    rw [filter_ordered byKey, filter_ordered byKey]
    by_cases repository : ∃ name remote sha, key = ["git", name, remote, sha]
    · rcases repository with ⟨name, remote, sha, rfl⟩
      rw [filter_git, filter_git, agree]
    · have perm := (rearranged.map Source.forgetLocalPath).filter (·.key = key)
      have all : ∀ srcs : List Source, srcs.Pairwise fun _ _ => True :=
        fun _ => pairwise_of_forall fun _ _ => trivial
      refine perm.eq_of_pairwise (fun a b inFirst inSecond _ _ => ?_) (all _) (all _)
      have here : a.key = key := of_decide_eq_true (mem_filter.mp inFirst).2
      have there : b.key = key := of_decide_eq_true (mem_filter.mp inSecond).2
      refine eq_of_key (here.trans there.symm) fun name remote sha same => ?_
      exact repository ⟨name, remote, sha, here.symm.trans same⟩

end Record

namespace Provenance

open Record

variable {α β : Type} {w u : Workspace}

/-! ## Jobs that do not look at the sources -/

def withSources (w : Workspace) (sources : List Source) : Workspace :=
  withRecord w { w.session.record with sources }

def Blind (job : Job α) : Prop :=
  ∀ w sources, job.execute (withSources w sources) = ((job.execute w).1, withSources (job.execute w).2 sources)

namespace Blind

lemma pure (value : α) : Blind (Pure.pure value : Job α) :=
  fun _ _ => rfl

lemma bind {job : Job α} {next : α -> Job β} (first : Blind job)
    (second : ∀ value, Blind (next value)) : Blind (job >>= next) := by
  intro w srcs
  rw [execute_bind, execute_bind, first w srcs]
  obtain ⟨outcome, after⟩ := job.execute w
  cases outcome with
  | error err => rfl
  | ok value => exact second value after srcs

lemma forM {job : α -> Job PUnit} (each : ∀ item, Blind (job item)) (items : List α) : Blind (items.forM job) := by
  induction items with
  | nil => exact pure _
  | cons item rest ih => exact bind (each item) fun _ => ih

lemma session_bind {next : Session -> Job α} (each : ∀ session, Blind (next session))
    (same : ∀ w srcs, next (withSources w srcs).session = next w.session) : Blind (session >>= next) := by
  intro w srcs
  rw [bind_ok (execute_session _), bind_ok (execute_session _), same]
  exact each _ w srcs

lemma run (words : List String) (dir : Option String) (stdin : Option (List String)) : Blind (run words dir stdin) := by
  intro w srcs
  have rule : (withSources w srcs).ruleFor words = w.ruleFor words := rfl
  rw [execute_run, execute_run, rule]
  split_ifs <;> rfl

lemma unlink (path : String) : Blind (unlink path) := by
  intro w srcs
  have named : (withSources w srcs).placeOf path false = w.placeOf path false := rfl
  have tree : (withSources w srcs).tree = w.tree := rfl
  rw [execute_unlink, execute_unlink, named, tree]
  cases w.placeOf path false with
  | error err => rfl
  | ok place =>
    cases found : w.tree.get? place with
    | none => simp only [found]
    | some node => cases node <;> simp only [found] <;> rfl

lemma removeIfPresent (path : String) : Blind (Provenance.removeIfPresent path) := by
  have attempted : Blind (Job.attempt (Job.unlink path)) := by
    intro w srcs
    rw [execute_attempt, execute_attempt, unlink path w srcs]
  refine bind attempted fun outcome => ?_
  cases outcome with
  | ok value => exact pure _
  | error err => cases err <;> exact fun _ _ => rfl

lemma withoutIgnored (paths : List String) : Blind (Provenance.withoutIgnored paths) := by
  refine bind (fun _ _ => rfl) fun present => ?_
  cases present with
  | false => exact fun _ _ => rfl
  | true => exact bind (run _ _ _) fun _ => pure _

lemma removeObsolete (old : Record) : Blind (Provenance.removeObsolete old) := by
  have among : ∀ paths, Blind (removeAmong paths) := by
    intro paths
    refine session_bind (fun session => ?_) fun _ _ => rfl
    refine bind (withoutIgnored paths) (forM fun path => ?_)
    split_ifs
    · exact removeIfPresent path
    · exact pure _
  exact session_bind (fun session => among _) fun _ _ => rfl

end Blind

/-! ## The end of a tracked job -/

def sweep (old : Record) (watched : Option Path) (events : List Event) : Job Unit := do
  if (<- session).removesObsolete then
    let directory <- need .noMember watched
    let touched <- Job.ofExcept (touchedFiles directory events)
    (<- withoutIgnored touched).forM fun file => record (·.addGeneratedFile file)
    removeObsolete old

lemma blind_sweep (old : Record) (watched : Option Path) (events : List Event) : Blind (sweep old watched events) := by
  refine Blind.session_bind (fun session => ?_) fun _ _ => rfl
  split_ifs
  · refine Blind.bind (fun _ _ => ?_) fun dir => Blind.bind (fun _ _ => ?_) fun touched => ?_
    · cases watched <;> rfl
    · rw [execute_ofExcept, execute_ofExcept]
    · refine Blind.bind (Blind.withoutIgnored touched) fun files => ?_
      exact Blind.bind (Blind.forM (fun _ _ _ => rfl) files) fun _ => Blind.removeObsolete old
  · exact Blind.pure _

lemma finish_eq (path : String) (old : Record) (watched : Option Path) (events : List Event) :
    finish path old watched events = (do
      sweep old watched events
      record fun r => r.forgetLocalPaths.sortSources
      writeLast path) := by
  unfold finish sweep writeLast
  rw [bind_assoc]
  refine bind_congr fun session => ?_
  split_ifs
  · simp only [bind_assoc]
  · rw [pure_bind]

lemma execute_sort (w : Workspace) (srcs : List Source) :
    (record fun r => r.forgetLocalPaths.sortSources).execute (withSources w srcs) =
      (.ok (), withSources w (Sorting.ordered Source.le (srcs.map Source.forgetLocalPath))) :=
  rfl

variable {path : String} {old : Record} {watched : Option Path} {events : List Event}
  {first second : List Source}

lemma finish_congr (w : Workspace) (same : Sorting.ordered Source.le (first.map Source.forgetLocalPath) =
      Sorting.ordered Source.le (second.map Source.forgetLocalPath)) :
    ((finish path old watched events).execute (withSources w first)).1 =
        ((finish path old watched events).execute (withSources w second)).1 /\
      ((finish path old watched events).execute (withSources w first)).2.tree =
        ((finish path old watched events).execute (withSources w second)).2.tree := by
  rw [finish_eq, execute_bind, execute_bind, blind_sweep old watched events w first, blind_sweep old watched events w second]
  obtain ⟨outcome, after⟩ := (sweep old watched events).execute w
  cases outcome with
  | error err => exact ⟨rfl, rfl⟩
  | ok value => simp only [bind_ok (execute_sort after _), same, and_self]

lemma sources_finish (ran : (finish path old watched events).execute (withSources w first) = (.ok (), u)) :
    u.session.record.sources = Sorting.ordered Source.le (first.map Source.forgetLocalPath) := by
  rw [finish_eq] at ran
  obtain ⟨_, swept, sweeping, later⟩ := of_bind_ok ran
  rw [blind_sweep old watched events w first] at sweeping
  cases (Prod.mk.inj sweeping).2
  rw [bind_ok (execute_sort _ first)] at later
  have kept := congrArg (·.2.session) later
  simp only [session_writeLast] at kept
  rw [<- kept]
  rfl

/-! ## Calls in another order -/

abbrev SourceCall := SourceKind × List (String × Doc)

def addSources (calls : List SourceCall) : Job Unit :=
  calls.forM fun call => (Addition.source call.1 call.2).job

def SourceCall.source? (call : SourceCall) : Option Source :=
  (call.1.entry call.2).toOption

lemma execute_addSources (calls : List SourceCall) (w : Workspace) :
    ((∀ call ∈ calls, call.source?.isSome) /\ (addSources calls).execute w =
      (.ok (), withSources w (w.session.record.sources ++ calls.filterMap SourceCall.source?))) \/
    ((∃ call, call ∈ calls /\ call.source? = none) /\
      ∃ err srcs, (addSources calls).execute w = (.error err, withSources w srcs)) := by
  induction calls generalizing w with
  | nil => exact .inl ⟨by simp, by rw [filterMap_nil, append_nil]; rfl⟩
  | cons call rest ih =>
    cases entered : call.1.entry call.2 with
    | error err =>
      have none : call.source? = none := by rw [SourceCall.source?, entered]; rfl
      have ran : (Addition.source call.1 call.2).job.execute w = (.error err, w) := by
        rw [execute_source, entered]
        rfl
      exact .inr ⟨⟨call, mem_cons_self, none⟩, err, w.session.record.sources, bind_error ran⟩
    | ok s =>
      have some : call.source? = some s := by rw [SourceCall.source?, entered]; rfl
      have ran : (Addition.source call.1 call.2).job.execute w = (.ok (), withSources w (w.session.record.sources ++ [s])) := by
        rw [execute_source, entered]
        rfl
      rcases ih (withSources w (w.session.record.sources ++ [s])) with ⟨fine, later⟩ | ⟨⟨other, mem, none⟩, err, srcs, later⟩
      · refine .inl ⟨forall_mem_cons.mpr ⟨by simp [some], fine⟩, ?_⟩
        refine (bind_ok ran).trans (later.trans ?_)
        rw [filterMap_cons_some some]
        simp [withSources, withRecord]
      · exact .inr ⟨⟨other, mem_cons_of_mem _ mem, none⟩, err, srcs, (bind_ok ran).trans later⟩

/-- For every repository the calls make the same notes in the same order. -/
def SameNotes (calls others : List SourceCall) : Prop :=
  ∀ name remote sha, gitNotes name remote sha (calls.filterMap SourceCall.source?) =
    gitNotes name remote sha (others.filterMap SourceCall.source?)

lemma execute_track_addSources {calls : List SourceCall} {begun : Workspace}
    (started : (start path).execute w = (.ok (old, watched), begun)) : (track path (addSources calls) events).execute w =
      (addSources calls >>= fun _ => finish path old watched events).execute begun := by
  rw [track, bind_ok started]
  exact congrArg (execute · begun) (bind_congr fun _ => bind_pure_unit)

/-- **Recorded sources and the order of calls.**  Tracked jobs that make the same calls in two orders end
alike and leave the same files, if they make the notes about each repository in the same order.  If both end
well, they have otherwise recorded different lists. -/
theorem track_rearranged (w : Workspace) (path : String) (events : List Event) {calls others : List SourceCall}
    (rearranged : calls.Perm others) :
    let ran := (track path (addSources calls) events).execute w
    let again := (track path (addSources others) events).execute w
    (SameNotes calls others -> ran.1.toOption = again.1.toOption /\ ran.2.tree = again.2.tree) /\
      (ran.1 = .ok () -> again.1 = .ok () ->
        (ran.2.session.record.sources = again.2.session.record.sources ↔ SameNotes calls others)) := by
  intro ran again
  rcases started : (start path).execute w with ⟨outcome, begun⟩
  cases outcome with
  | error failure =>
    have failed : ∀ calls, (track path (addSources calls) events).execute w = (.error failure, begun) :=
      fun calls => bind_error started
    simp only [ran, again, failed, and_self, implies_true, reduceCtorEq, false_implies]
  | ok value =>
    rcases value with ⟨old, watched⟩
    simp only [ran, again, execute_track_addSources started]
    rcases execute_addSources calls begun with ⟨fine, added⟩ | ⟨⟨call, member, none⟩, failure, sources, added⟩ <;>
      rcases execute_addSources others begun with ⟨fineToo, addedToo⟩ |
        ⟨⟨other, memberToo, noneToo⟩, otherFailure, otherSources, addedToo⟩
    · rw [bind_ok added, bind_ok addedToo]
      have same := ordered_sources_eq_iff ((rearranged.filterMap SourceCall.source?).append_left begun.session.record.sources)
      simp only [gitNotes, List.filterMap_append, List.append_cancel_left_eq] at same
      refine ⟨fun agree => ?_, fun ended endedToo => ?_⟩
      · rcases finish_congr begun (same.mpr agree) with ⟨outcome, tree⟩
        exact ⟨congrArg _ outcome, tree⟩
      · rw [sources_finish (Prod.ext ended rfl), sources_finish (Prod.ext endedToo rfl)]
        exact same
    · have found := fine other (rearranged.mem_iff.mpr memberToo)
      simp [noneToo] at found
    · have found := fineToo call (rearranged.mem_iff.mp member)
      simp [none] at found
    · rw [bind_error added, bind_error addedToo]
      refine ⟨fun _ => ⟨rfl, rfl⟩, fun ended => ?_⟩
      cases ended

def loggedCall (log : String) : SourceCall :=
  (.git, [("log", .text log)])

def mixedCalls : List SourceCall :=
  [(.template, [("name", .text "t")]), loggedCall "1", (.generator, []), loggedCall "2"]

def mixedCallsLater : List SourceCall :=
  [loggedCall "1", loggedCall "2", (.generator, []), (.template, [("name", .text "t")])]

theorem mixedCalls_alike :
    let w : Workspace := { tree := .empty, directory := [] }
    mixedCalls.Perm mixedCallsLater /\ SameNotes mixedCalls mixedCallsLater /\
      ((track "synth.metadata" (addSources mixedCalls)).execute w).2.tree =
        ((track "synth.metadata" (addSources mixedCallsLater)).execute w).2.tree := by
  intro w
  have rearranged : mixedCalls.Perm mixedCallsLater :=
    (List.perm_append_singleton _ [loggedCall "1", (.generator, []), loggedCall "2"]).symm.trans ((List.Perm.swap _ _ _).cons _)
  have sources : mixedCalls.filterMap SourceCall.source? =
      [.template { name := "t" }, .git { log := "1" }, .generator {}, .git { log := "2" }] := by
    decide +kernel
  have others : mixedCallsLater.filterMap SourceCall.source? =
      [.git { log := "1" }, .git { log := "2" }, .generator {}, .template { name := "t" }] := by
    decide +kernel
  have agree : SameNotes mixedCalls mixedCallsLater := by
    intro name remote sha
    rw [sources, others]
    rfl
  exact ⟨rearranged, agree, ((track_rearranged w "synth.metadata" [] rearranged).1 agree).2⟩

/-- Two logs of one repository are written in the order of their notes. -/
theorem loggedCalls_differ :
    let w : Workspace := { tree := .empty, directory := [], rules := [{ start := "git", status := 1 }] }
    let ran := (track "synth.metadata" (addSources [loggedCall "1", loggedCall "2"])).execute w
    let again := (track "synth.metadata" (addSources [loggedCall "2", loggedCall "1"])).execute w
    ran.1.toOption = some () /\ again.1.toOption = some () /\
      ran.2.tree.get? ["synth.metadata"] ≠ again.2.tree.get? ["synth.metadata"] := by
  decide +kernel

end Provenance
end Refinery
