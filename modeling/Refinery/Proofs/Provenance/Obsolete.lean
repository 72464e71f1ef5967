import Refinery.Proofs.Tree.Thinning
import Refinery.Proofs.Workspace.FileJob
import Refinery.Provenance.Tracking

namespace Refinery

open List Job Workspace Text PathText Refinery.Tree Provenance

/-!
# Removing obsolete files

Each removal may change where the paths of the other files lead.  As long as no path leads to a directory, it
does not, and the order does not matter.
-/

namespace Workspace

/-- The rule that answers a command. -/
def ruleFor (w : Workspace) (words : List String) : CommandRule :=
  (w.rules.find? fun rule => startsWith (join " " words) rule.start).getD { start := "" }

/-- The workspace after a command was asked for. -/
def asked (w : Workspace) (command : Command) : Workspace :=
  { w with journal := { w.journal with commands := w.journal.commands ++ [command] } }

lemma exists_astray {w : Workspace} {path : String} {follow : Bool} {err : Failure}
    (refused : w.placeOf path follow = .error err) : ∃ reason, err = astray path reason := by
  rw [placeOf] at refused
  split at refused
  · exact ⟨.absent, (Except.error.inj refused).symm⟩
  · cases loc : w.tree.locate w.directory (pathOf path) follow with
    | ok place =>
      rw [loc] at refused
      cases refused
    | error reason =>
      rw [loc] at refused
      exact ⟨reason, (Except.error.inj refused).symm⟩

end Workspace

namespace Job

lemma execute_run (words : List String) (directory : Option String) (stdin : Option (List String)) (w : Workspace) :
    (run words directory stdin).execute w = if (w.ruleFor words).missing then
        (.error (.absent (words.headD "")), w.asked { words, directory, stdin }) else
        (.ok ⟨(w.ruleFor words).status, (w.ruleFor words).output⟩, { w.asked { words, directory, stdin } with
            tree := applyChanges w.tree (w.ruleFor words).changes }) := by
  have rule : (ruleFor words).execute (w.asked { words, directory, stdin }) =
      (.ok (w.ruleFor words), w.asked { words, directory, stdin }) := rfl
  have noted : (noteCommand { words, directory, stdin }).execute w = (.ok (), w.asked { words, directory, stdin }) := rfl
  rw [run, bind_ok noted, bind_ok rule]
  cases missing : (w.ruleFor words).missing with
  | true => rfl
  | false => rfl

lemma execute_hasProgram (name : String) (w : Workspace) :
    (hasProgram name).execute w = (.ok (!w.absentPrograms.contains name), w) := rfl

lemma execute_unlink (path : String) (w : Workspace) : (unlink path).execute w = match w.placeOf path false with
      | .error err => (.error err, w)
      | .ok place =>
        match w.tree.get? place with
        | some .directory => (.error (.isDirectory path), w)
        | some _ => (.ok (), { w with tree := w.tree.erase place })
        | none => (.error (.absent path), w) := by
  rw [unlink, execute_bind, execute_placeOf]
  cases w.placeOf path false with
  | error err => rfl
  | ok place =>
    simp only [execute_bind, execute_get]
    cases node : w.tree.get? place with
    | none => rfl
    | some kind => cases kind <;> rfl

end Job

namespace Provenance

variable {w now : Workspace} {gone : Place -> Prop} {path output : String} {old current : Record}
  {place : Place} {paths : List String} {wanted : String -> Bool}

/-! ## One file after another -/

structure Cleared (w : Workspace) (gone : Place -> Prop) (now : Workspace) : Prop where
  frame : now = { w with tree := now.tree }
  sound : now.tree.Sound
  harmless : ∀ place, gone place -> ¬ w.tree.LeadsToDirectory place
  absent : ∀ place, gone place -> now.tree.get? place = none
  kept : ∀ place, ¬ gone place -> now.tree.get? place = w.tree.get? place

lemma Cleared.nothing (sound : w.Sound) : Cleared w (fun _ => False) w :=
  ⟨rfl, sound.tree, nofun, nofun, fun _ _ => rfl⟩

section

variable (cleared : Cleared w gone now)
include cleared

lemma Cleared.congr {others : Place -> Prop} (same : ∀ place, gone place ↔ others place) : Cleared w others now :=
  (funext fun place => propext (same place) : gone = others) ▸ cleared

lemma Cleared.sheds : Sheds w.tree now.tree := by
  intro place
  by_cases isGone : gone place
  · exact .inr ⟨cleared.absent place isGone, cleared.harmless place isGone⟩
  · exact .inl (cleared.kept place isGone)

lemma Cleared.isSome_iff (place : Place) : (now.tree.get? place).isSome ↔ (w.tree.get? place).isSome /\ ¬ gone place := by
  by_cases isGone : gone place
  · simp [cleared.absent place isGone, isGone]
  · simp [cleared.kept place isGone, isGone]

lemma Cleared.keeps (sound : w.Sound) : now.Sound := by
  refine ⟨cleared.sound, ?_⟩
  rw [show now.directory = w.directory by rw [cleared.frame]]
  exact cleared.sheds.directory sound.tree sound.standing

lemma Cleared.placeOf (sound : w.Sound) (path : String) : now.placeOf path false = w.placeOf path false \/
      (∃ err, w.placeOf path false = .error err) /\ now.placeOf path false = .error (.absent path) := by
  have directory : now.directory = w.directory := by rw [cleared.frame]
  by_cases empty : path = ""
  · exact .inl (by rw [Workspace.placeOf, Workspace.placeOf, if_pos empty, if_pos empty])
  · simp only [Workspace.placeOf, if_neg empty, directory]
    rcases cleared.sheds.locate sound.tree sound.standing (pathOf path) with same | ⟨⟨reason, astray⟩, missing⟩
    · exact .inl (by rw [same])
    · refine .inr ⟨⟨Job.astray path reason, by rw [astray]; rfl⟩, ?_⟩
      rw [missing]
      rfl

lemma Cleared.erase (sound : w.Sound) (harmless : ¬ w.tree.LeadsToDirectory place) :
    Cleared w (fun other => gone other \/ other = place) { now with tree := now.tree.erase place } := by
  have notDirectory : now.tree.get? place ≠ some .directory := by
    intro standing
    by_cases isGone : gone place
    · rw [cleared.absent place isGone] at standing
      cases standing
    · rw [cleared.kept place isGone] at standing
      exact harmless (sound.tree.leadsToDirectory standing)
  have named : place ≠ [] := by
    rintro rfl
    exact notDirectory (get?_nil now.tree)
  refine ⟨?_, cleared.sound.erase notDirectory, ?_, ?_, ?_⟩
  · rw [cleared.frame]
  · rintro other (isGone | rfl)
    · exact cleared.harmless other isGone
    · exact harmless
  · intro other either
    rw [get?_erase _ _ _ named]
    split
    · rfl
    next here => exact cleared.absent other (either.resolve_right here)
  · intro other neither
    rw [get?_erase _ _ _ named, if_neg fun here => neither (.inr here)]
    exact cleared.kept other fun isGone => neither (.inl isGone)

lemma Cleared.already (harmless : ¬ w.tree.LeadsToDirectory place) (absent : now.tree.get? place = none) :
    Cleared w (fun other => gone other \/ other = place) now := by
  refine ⟨cleared.frame, cleared.sound, ?_, ?_, fun other neither => cleared.kept other (neither ∘ .inl)⟩
  · rintro other (isGone | rfl)
    · exact cleared.harmless other isGone
    · exact harmless
  · rintro other (isGone | rfl)
    · exact cleared.absent other isGone
    · exact absent

end

lemma execute_removeIfPresent_ok (named : now.placeOf path false = .ok place)
    (clear : now.tree.get? place ≠ some .directory) : (removeIfPresent path).execute now =
      (.ok (), if (now.tree.get? place).isSome then { now with tree := now.tree.erase place } else now) := by
  rw [removeIfPresent, bind_ok (execute_attempt _ now), execute_unlink, named]
  cases node : now.tree.get? place with
  | none => simp only [node]; rfl
  | some kind =>
    cases kind with
    | directory => exact absurd node clear
    | file file => simp only [node]; rfl
    | link target => simp only [node]; rfl

lemma execute_removeIfPresent_absent (missing : now.placeOf path false = .error (.absent path)) :
    (removeIfPresent path).execute now = (.ok (), now) := by
  rw [removeIfPresent, bind_ok (execute_attempt _ now), execute_unlink, missing]
  rfl

lemma execute_removeIfPresent_refused {err : Failure}
    (refused : now.placeOf path false = .error err) (other : err ≠ .absent path) :
    (removeIfPresent path).execute now = (.error err, now) := by
  obtain ⟨reason, rfl⟩ := exists_astray refused
  rw [removeIfPresent, bind_ok (execute_attempt _ now), execute_unlink, refused]
  cases reason with
  | absent => exact absurd rfl other
  | throughFile => rfl
  | tooManyLinks => rfl

lemma Cleared.removeIfPresent (cleared : Cleared w gone now) (sound : w.Sound)
    (harmless : ∀ place, w.placeOf path false = .ok place -> ¬ w.tree.LeadsToDirectory place) :
    (∃ next, (removeIfPresent path).execute now = (.ok (), next) /\
      Cleared w (fun place => gone place \/ w.placeOf path false = .ok place) next) \/
    ∃ err, w.placeOf path false = .error err /\ err ≠ .absent path /\
      (removeIfPresent path).execute now = (.error err, now) := by
  cases before : w.placeOf path false with
  | ok place =>
    have notDirectory : now.tree.get? place ≠ some .directory := by
      intro standing
      rcases cleared.sheds place with same | ⟨absent, _⟩
      · rw [same] at standing
        exact harmless place before (sound.tree.leadsToDirectory standing)
      · rw [absent] at standing
        cases standing
    have named : now.placeOf path false = .ok place := by
      rcases cleared.placeOf sound path with same | ⟨⟨err, astray⟩, _⟩
      · rw [same, before]
      · rw [before] at astray
        cases astray
    refine .inl ⟨_, execute_removeIfPresent_ok named notDirectory, ?_⟩
    have same : ∀ other, gone other \/ other = place ↔ gone other \/ Except.ok place = (Except.ok other : Except Failure Place) :=
      fun other => or_congr_right ⟨fun here => here ▸ rfl, fun here => (Except.ok.inj here).symm⟩
    cases present : now.tree.get? place with
    | none => exact (cleared.already (harmless place before) present).congr same
    | some node => exact (cleared.erase sound (harmless place before)).congr same
  | error err =>
    have unchanged : Cleared w (fun place => gone place \/ Except.error err = (Except.ok place)) now :=
      cleared.congr fun place => by simp
    rcases cleared.placeOf sound path with same | ⟨_, missing⟩
    · by_cases isAbsent : err = .absent path
      · refine .inl ⟨now, execute_removeIfPresent_absent ?_, unchanged⟩
        rw [same, before, isAbsent]
      · refine .inr ⟨err, rfl, isAbsent, execute_removeIfPresent_refused ?_ isAbsent⟩
        rw [same, before]
    · exact .inl ⟨now, execute_removeIfPresent_absent missing, unchanged⟩

def removeIf (wanted : String -> Bool) (path : String) : Job Unit := do
  if wanted path then removeIfPresent path

lemma Cleared.removeIf (cleared : Cleared w gone now) (sound : w.Sound) (harmless : wanted path = true ->
      ∀ place, w.placeOf path false = .ok place -> ¬ w.tree.LeadsToDirectory place) :
    (∃ next, (removeIf wanted path).execute now = (.ok (), next) /\
      Cleared w (fun place => gone place \/ wanted path = true /\ w.placeOf path false = .ok place) next) \/
    wanted path = true /\ ∃ err, w.placeOf path false = .error err /\ err ≠ .absent path /\
      (removeIf wanted path).execute now = (.error err, now) := by
  rw [Provenance.removeIf]
  cases isWanted : wanted path with
  | false => exact .inl ⟨now, rfl, cleared.congr fun place => by simp⟩
  | true =>
    rcases cleared.removeIfPresent sound (harmless isWanted) with ⟨next, ran, after⟩ | refused
    · exact .inl ⟨next, ran, after.congr fun place => by simp⟩
    · exact .inr ⟨rfl, refused⟩

lemma Cleared.removeEach (cleared : Cleared w gone now) (sound : w.Sound) (harmless : ∀ path ∈ paths, wanted path = true ->
      ∀ place, w.placeOf path false = .ok place -> ¬ w.tree.LeadsToDirectory place) :
    (∃ next, (paths.forM (Provenance.removeIf wanted)).execute now = (.ok (), next) /\ Cleared w (fun place => gone place \/
        ∃ path, path ∈ paths /\ wanted path = true /\ w.placeOf path false = .ok place) next) \/
    ∃ path err next, path ∈ paths /\ wanted path = true /\ w.placeOf path false = .error err /\ err ≠ .absent path /\
      (paths.forM (Provenance.removeIf wanted)).execute now = (.error err, next) := by
  induction paths generalizing gone now with
  | nil => exact .inl ⟨now, rfl, cleared.congr fun place => by simp⟩
  | cons path rest ih =>
    have unfolded : (path :: rest).forM (Provenance.removeIf wanted) =
        Provenance.removeIf wanted path >>= fun _ => rest.forM (Provenance.removeIf wanted) := rfl
    rw [unfolded]
    rcases cleared.removeIf sound (harmless path mem_cons_self) with
      ⟨between, ran, clearedPath⟩ | ⟨isWanted, err, astray, other, ran⟩
    · rw [bind_ok ran]
      rcases ih clearedPath fun other mem => harmless other (mem_cons_of_mem path mem) with
        ⟨next, onward, clearedRest⟩ | ⟨stray, err, next, mem, facts⟩
      · refine .inl ⟨next, onward, clearedRest.congr fun place => ?_⟩
        simp only [mem_cons, or_and_right, exists_or, or_assoc, exists_eq_left]
      · exact .inr ⟨stray, err, next, mem_cons_of_mem path mem, facts⟩
    · exact .inr ⟨path, err, now, mem_cons_self, isWanted, astray, other, bind_error ran⟩

/-! ## The files that are obsolete -/

/-- The command that tells which files are ignored. -/
def checkIgnore : List String :=
  ["git", "check-ignore", "--stdin"]

/-- The program that tells which files are ignored answers so and changes nothing. -/
structure GitAnswers (w : Workspace) (output : String) : Prop where
  present : "git" ∉ w.absentPrograms
  there : (w.ruleFor checkIgnore).missing = false
  quiet : (w.ruleFor checkIgnore).changes = []
  answers : (w.ruleFor checkIgnore).output = output

/-- A path of an old record that is to be removed: the current record does not have it, it does not belong to
a repository directory, it is in no line of the answer, and no excluded pattern matches it. -/
structure Obsolete (old current : Record) (excluded : List String) (output : String) (path : String) :
    Prop where
  listed : path ∈ old.generatedFiles
  dropped : path ∉ current.generatedFiles
  outside : ".git" ∉ (Path.ofString path).parts
  unignored : ∀ line ∈ split "\n" output, normal (trim line) ≠ normal path
  unmatched : ∀ pattern ∈ excluded, NamePattern.matchesName pattern path = false

instance (old current : Record) (excluded : List String) (output path : String) :
    Decidable (Obsolete old current excluded output path) :=
  decidable_of_iff (path ∈ old.generatedFiles /\ path ∉ current.generatedFiles /\ ".git" ∉ (Path.ofString path).parts /\
      (∀ line ∈ split "\n" output, normal (trim line) ≠ normal path) /\
      ∀ pattern ∈ excluded, NamePattern.matchesName pattern path = false)
    ⟨fun facts => ⟨facts.1, facts.2.1, facts.2.2.1, facts.2.2.2.1, facts.2.2.2.2⟩,
      fun obsolete => ⟨obsolete.listed, obsolete.dropped, obsolete.outside, obsolete.unignored, obsolete.unmatched⟩⟩

lemma mem_obsoleteFiles : path ∈ obsoleteFiles old current ↔ path ∈ old.generatedFiles /\ path ∉ current.generatedFiles := by
  simp [obsoleteFiles]

lemma execute_withoutIgnored (git : GitAnswers w output) (paths : List String) :
    (withoutIgnored paths).execute w = (.ok ((paths.filter outsideGit).filter fun path =>
          !(answeredPaths output).contains (normal path)),
        w.asked { words := checkIgnore, stdin := some (paths.filter outsideGit) }) := by
  have present : (hasProgram "git").execute w = (.ok true, w) := by
    simp [execute_hasProgram, git.present]
  have answer : (run checkIgnore none (some (paths.filter outsideGit))).execute w =
      (.ok ⟨(w.ruleFor checkIgnore).status, output⟩,
        w.asked { words := checkIgnore, stdin := some (paths.filter outsideGit) }) := by
    rw [execute_run, git.there, git.quiet, git.answers]
    rfl
  rw [withoutIgnored, bind_ok present]
  change execute (run checkIgnore none (some (paths.filter outsideGit)) >>= fun _ => _) w = _
  rw [bind_ok answer]
  rfl

lemma mem_withoutIgnored {excluded : List String} (members : ∀ path, path ∈ paths ↔ path ∈ obsoleteFiles old current) :
    (path ∈ (paths.filter outsideGit).filter fun path => !(answeredPaths output).contains (normal path)) /\
      (!isExcluded excluded path) = true ↔ Obsolete old current excluded output path := by
  have ignored : (!(answeredPaths output).contains (normal path)) = true ↔ ∀ line ∈ split "\n" output,
        normal (trim line) ≠ normal path := by
    simp [answeredPaths]
  have matched : (!isExcluded excluded path) = true ↔ ∀ pattern ∈ excluded, NamePattern.matchesName pattern path = false := by
    simp [isExcluded]
  have outside : outsideGit path = true ↔ ".git" ∉ (Path.ofString path).parts := by
    simp [outsideGit]
  rw [mem_filter, mem_filter, members, mem_obsoleteFiles, ignored, matched, outside]
  constructor
  · rintro ⟨⟨⟨⟨listed, dropped⟩, outside⟩, unignored⟩, unmatched⟩
    exact ⟨listed, dropped, outside, unignored, unmatched⟩
  · intro obsolete
    exact ⟨⟨⟨⟨obsolete.listed, obsolete.dropped⟩, obsolete.outside⟩, obsolete.unignored⟩, obsolete.unmatched⟩

/-- The nodes that the obsolete paths of an old record name. -/
def ObsoletePlace (w : Workspace) (old current : Record) (excluded : List String) (output : String) (place : Place) : Prop :=
  ∃ path, Obsolete old current excluded output path /\ w.placeOf path false = .ok place

/-- No obsolete path names a directory, or a link to one. -/
def NoDirectory (w : Workspace) (old current : Record) (excluded : List String) (output : String) : Prop :=
  ∀ place, ObsoletePlace w old current excluded output place -> ¬ w.tree.LeadsToDirectory place

lemma removeAmong_eq (git : GitAnswers w output) (paths : List String) : (removeAmong paths).execute w =
      (((paths.filter outsideGit).filter fun path => !(answeredPaths output).contains (normal path)).forM
        (removeIf fun path => !isExcluded w.session.excluded path)).execute
          (w.asked { words := checkIgnore, stdin := some (paths.filter outsideGit) }) := by
  rw [removeAmong, bind_ok (execute_session w), bind_ok (execute_withoutIgnored git paths)]
  rfl

lemma execute_removeAmong (sound : w.Sound) (git : GitAnswers w output)
    (members : ∀ path, path ∈ paths ↔ path ∈ obsoleteFiles old w.session.record)
    (noDirectory : NoDirectory w old w.session.record w.session.excluded output) :
    (∃ after, (removeAmong paths).execute w = (.ok (), after) /\
      Cleared (w.asked { words := checkIgnore, stdin := some (paths.filter outsideGit) })
        (ObsoletePlace w old w.session.record w.session.excluded output) after) \/
    ∃ path err after, Obsolete old w.session.record w.session.excluded output path /\
      w.placeOf path false = .error err /\ err ≠ .absent path /\ (removeAmong paths).execute w = (.error err, after) := by
  have soundAsked : (w.asked { words := checkIgnore, stdin := some (paths.filter outsideGit) }).Sound :=
    ⟨sound.tree, sound.standing⟩
  have remaining : ∀ path, (path ∈ (paths.filter outsideGit).filter fun path =>
          !(answeredPaths output).contains (normal path)) /\
        (!isExcluded w.session.excluded path) = true ↔
      Obsolete old w.session.record w.session.excluded output path :=
    fun path => mem_withoutIgnored members
  rw [removeAmong_eq git]
  rcases (Cleared.nothing soundAsked).removeEach soundAsked (fun path mem isWanted place named =>
      noDirectory place ⟨path, (remaining path).mp ⟨mem, isWanted⟩, named⟩) with
    ⟨after, ran, cleared⟩ | ⟨path, err, after, mem, isWanted, astray, other, ran⟩
  · refine .inl ⟨after, ran, cleared.congr fun place => ?_⟩
    simp only [false_or, <- and_assoc, remaining]
    rfl
  · exact .inr ⟨path, err, after, (remaining path).mp ⟨mem, isWanted⟩, astray, other, ran⟩

lemma session_removeIfPresent (path : String) (w : Workspace) : ((removeIfPresent path).execute w).2.session = w.session := by
  cases named : w.placeOf path false with
  | error err =>
    by_cases isAbsent : err = .absent path
    · rw [execute_removeIfPresent_absent (isAbsent ▸ named)]
    · rw [execute_removeIfPresent_refused named isAbsent]
  | ok place =>
    by_cases directory : w.tree.get? place = some .directory
    · rw [removeIfPresent, bind_ok (execute_attempt _ w), execute_unlink, named]
      simp only [directory]
      rfl
    · rw [execute_removeIfPresent_ok named directory]
      cases (w.tree.get? place).isSome <;> rfl

lemma session_removeEach (wanted : String -> Bool) (paths : List String) (w : Workspace) :
    ((paths.forM (removeIf wanted)).execute w).2.session = w.session := by
  induction paths generalizing w with
  | nil => rfl
  | cons path rest ih =>
    have first : ((removeIf wanted path).execute w).2.session = w.session := by
      rw [removeIf]
      cases wanted path with
      | true => exact session_removeIfPresent path w
      | false => rfl
    change Workspace.session (execute (removeIf wanted path >>= fun _ =>
      rest.forM (removeIf wanted)) w).2 = _
    rw [execute_bind]
    rcases ran : (removeIf wanted path).execute w with ⟨outcome, after⟩
    rw [ran] at first
    cases outcome with
    | error err => exact first
    | ok value => exact (ih after).trans first

lemma cleared_of_removeObsolete (sound : w.Sound) (git : GitAnswers w output)
    (noDirectory : NoDirectory w old w.session.record w.session.excluded output)
    (ran : (removeObsolete old).execute w = (.ok (), now)) : ∃ command, Cleared (w.asked command)
      (ObsoletePlace w old w.session.record w.session.excluded output) now := by
  rw [removeObsolete, bind_ok (execute_session w)] at ran
  rcases execute_removeAmong sound git (fun path => Iff.rfl) noDirectory with
    ⟨after, ended, cleared⟩ | ⟨path, err, after, _, _, _, failed⟩
  · rw [ran] at ended
    obtain ⟨_, rfl⟩ := Prod.mk.inj ended
    exact ⟨_, cleared⟩
  · rw [ran] at failed
    cases failed

lemma session_removeObsolete (git : GitAnswers w output) (old : Record) :
    ((removeObsolete old).execute w).2.session = w.session := by
  rw [removeObsolete, bind_ok (execute_session w), removeAmong_eq git]
  exact session_removeEach _ _ _

/-- A run that ends well, after which the nodes at some places are gone and nothing else has
changed. -/
def Removes (w : Workspace) (gone : Place -> Prop) (run : Except Failure Unit × Workspace) : Prop :=
  ∃ after, run = (.ok (), after) /\ (∀ place, gone place -> after.tree.get? place = none) /\
    ∀ place, ¬ gone place -> after.tree.get? place = w.tree.get? place

lemma execute_track_error {α : Type} {file : String} {job : Job α} {events : List Event}
    {watched : Option Path} {begun after : Workspace} {err : Failure}
    (started : (start file).execute w = (.ok (old, watched), begun)) (failed : job.execute begun = (.error err, after)) :
    (track file job events).execute w = (.error err, after) := by
  rw [track, bind_ok started]
  exact bind_error failed

/-- **Obsolete files, and nothing else, are removed.**  If no obsolete path names a directory or leads astray,
then the nodes that the obsolete paths name are gone, and everything else is as it was, in whatever order the
paths are gone through.  After a tracked job that fails nothing is removed or written. -/
theorem removeObsolete_exact (w : Workspace) (old : Record) (output : String) (sound : w.Sound)
    (git : GitAnswers w output) (noDirectory : NoDirectory w old w.session.record w.session.excluded output)
    (reachable : ∀ path failure, Obsolete old w.session.record w.session.excluded output path ->
      w.placeOf path false = .error failure -> failure = .absent path) :
    Removes w (ObsoletePlace w old w.session.record w.session.excluded output) ((removeObsolete old).execute w) /\
      (∀ paths, (∀ path, path ∈ paths ↔ path ∈ obsoleteFiles old w.session.record) ->
        Removes w (ObsoletePlace w old w.session.record w.session.excluded output)
          ((removeAmong paths).execute w)) /\
      ∀ (α : Type) (file : String) (job : Job α) (events : List Event) (known : Record)
        (watched : Option Path) (begun after : Workspace) (failure : Failure),
        (start file).execute w = (.ok (known, watched), begun) -> job.execute begun = (.error failure, after) ->
        (track file job events).execute w = (.error failure, after) := by
  have anyOrder : ∀ paths, (∀ path, path ∈ paths ↔ path ∈ obsoleteFiles old w.session.record) ->
      Removes w (ObsoletePlace w old w.session.record w.session.excluded output) ((removeAmong paths).execute w) := by
    intro paths members
    rcases execute_removeAmong sound git members noDirectory with
      ⟨after, ran, cleared⟩ | ⟨path, failure, after, obsolete, astray, other, _⟩
    · exact ⟨after, ran, cleared.absent, cleared.kept⟩
    · exact absurd (reachable path failure obsolete astray) other
  refine ⟨?_, anyOrder, ?_⟩
  · rw [removeObsolete, bind_ok (execute_session w)]
    exact anyOrder _ fun path => Iff.rfl
  · intro α file job events known watched begun after failure started failed
    exact execute_track_error started failed

/-- Files of an earlier run: one is still made, one is ignored, one belongs to a repository
directory, one matches a pattern, one is missing, and a file and a link to it are obsolete. -/
def outdated : Workspace where
  tree := ⟨[(["w"], .directory), (["w", "old"], .file { content := "1".toUTF8 }),
    (["w", "link"], .link "old"), (["w", "made"], .file { content := "2".toUTF8 }),
    (["w", "hidden"], .file { content := "3".toUTF8 }), (["w", ".git"], .directory),
    (["w", ".git", "config"], .file { content := "4".toUTF8 }),
    (["w", "kept.md"], .file { content := "5".toUTF8 })]⟩
  directory := ["w"]
  rules := [{ start := "git check-ignore", output := " ./hidden \n" }]
  session := { record := { generatedFiles := ["made"] }, excluded := ["*.md"] }

def outdatedRecord : Record :=
  { generatedFiles := ["made", "hidden", ".git/config", "kept.md", "missing", "old", "link"] }

set_option maxRecDepth 100000 in
lemma outdated_harmless : ∀ path ∈ outdatedRecord.generatedFiles,
    Obsolete outdatedRecord outdated.session.record outdated.session.excluded " ./hidden \n" path →
      (match outdated.placeOf path false with
        | .ok place => decide ¬ outdated.tree.LeadsToDirectory place
        | .error err => decide (err = .absent path)) = true := by
  decide +kernel

/-- A file and a link to it are removed, and all the others are left. -/
theorem outdated_removed : outdated.Sound /\ GitAnswers outdated " ./hidden \n" /\
      NoDirectory outdated outdatedRecord outdated.session.record outdated.session.excluded " ./hidden \n" /\
      Removes outdated (ObsoletePlace outdated outdatedRecord outdated.session.record outdated.session.excluded " ./hidden \n")
        ((removeObsolete outdatedRecord).execute outdated) := by
  have sound : outdated.Sound := by decide
  have git : GitAnswers outdated " ./hidden \n" := ⟨by decide, by decide, by decide, by decide⟩
  have noDirectory : NoDirectory outdated outdatedRecord outdated.session.record outdated.session.excluded " ./hidden \n" := by
    rintro place ⟨path, obsolete, named⟩
    have harmless := outdated_harmless path obsolete.listed obsolete
    simp only [named, decide_eq_true_eq] at harmless
    exact harmless
  refine ⟨sound, git, noDirectory, ?_⟩
  refine (removeObsolete_exact outdated outdatedRecord " ./hidden \n" sound git noDirectory ?_).1
  intro path failure obsolete astray
  have harmless := outdated_harmless path obsolete.listed obsolete
  simp only [astray, decide_eq_true_eq] at harmless
  exact harmless

def obstructed : Workspace where
  tree := ⟨[(["w"], .directory), (["w", "lib"], .file { content := "1".toUTF8 }), (["w", "old"], .file { content := "2".toUTF8 })]⟩
  directory := ["w"]

set_option maxRecDepth 100000 in
/-- An obsolete path through a file stops the removal, and an obsolete file is left. -/
theorem obstructed_left : obstructed.Sound /\ GitAnswers obstructed "" /\
      Obsolete { generatedFiles := ["lib/a", "old"] } obstructed.session.record obstructed.session.excluded "" "old" /\
      ((removeObsolete { generatedFiles := ["lib/a", "old"] }).execute obstructed).1 = .error (.notDirectory "lib/a") /\
      ((removeObsolete { generatedFiles := ["lib/a", "old"] }).execute obstructed).2.tree.get?
        ["w", "old"] = some (.file { content := "2".toUTF8 }) := by
  refine ⟨by decide, ⟨by decide, by decide, by decide, by decide⟩, ?_⟩
  decide +kernel

end Provenance
end Refinery
