import Refinery.Proofs.Provenance.Obsolete
import Refinery.Proofs.Transfer.Moving
import Refinery.Proofs.Workspace.Writing

namespace Refinery.Provenance

open List Job

/-!
# Files left out of a tracked move

A move notes the patterns of what it leaves out.  While moving they select paths below the source; while
removing they are matched against the whole recorded path.  So a file that was left out need not be spared.
-/

/-- Asking a repository for something changes no file. -/
def GitQuiet (w : Workspace) : Prop :=
  ∀ rest, (w.ruleFor ("git" :: rest)).changes = []

/-! ## What a part of a tracked job leaves as it was -/

structure Follows (noted : List String) (w later : Workspace) : Prop where
  sound : later.Sound
  grows : Tree.Grows w.tree later.tree
  directory : later.directory = w.directory
  rules : later.rules = w.rules
  excluded : later.session.excluded = w.session.excluded ++ noted
  removes : later.session.removesObsolete = w.session.removesObsolete
  writes : later.session.writesRecord = w.session.writesRecord

variable {α β : Type} {w between later : Workspace} {noted : List String} {name : String}
  {watched : Option Path} {events : List Event} {job : Job α} {old : Record} {writes : Bool}

lemma Follows.refl (sound : w.Sound) : Follows [] w w :=
  ⟨sound, Tree.Grows.refl w.tree, rfl, rfl, (append_nil _).symm, rfl, rfl⟩

lemma Follows.trans {more : List String} (first : Follows noted w between)
    (second : Follows more between later) : Follows (noted ++ more) w later where
  sound := second.sound
  grows := first.grows.trans second.grows
  directory := second.directory.trans first.directory
  rules := second.rules.trans first.rules
  excluded := by rw [second.excluded, first.excluded, append_assoc]
  removes := second.removes.trans first.removes
  writes := second.writes.trans first.writes

lemma Follows.ruleFor (follows : Follows noted w later) (words : List String) : later.ruleFor words = w.ruleFor words := by
  rw [Workspace.ruleFor, Workspace.ruleFor, follows.rules]

lemma Follows.gitQuiet (follows : Follows noted w later) (quiet : GitQuiet w) : GitQuiet later :=
  fun rest => by rw [follows.ruleFor, quiet rest]

lemma Follows.of_fileJob (file : FileJob writes job) (sound : w.Sound) : Follows [] w (job.execute w).2 := by
  have frame := file.frame w
  refine ⟨file.keeps sound, file.grows sound, ?_, ?_, ?_, ?_, ?_⟩ <;> rw [frame]
  simp

structure Advances (job : Job α) : Prop where
  follows : ∀ {w later : Workspace} {value : α}, w.Sound -> GitQuiet w -> job.execute w = (.ok value, later) -> Follows [] w later

namespace Advances

lemma of_fileJob (file : FileJob writes job) : Advances job := by
  refine ⟨fun {w later value} sound _ ran => ?_⟩
  have follows := Follows.of_fileJob file sound
  rwa [ran] at follows

lemma pure (value : α) : Advances (Pure.pure value : Job α) := by
  have file : FileJob false (Pure.pure value : Job α) := FileJob.pure value
  exact of_fileJob file

lemma bind {next : α -> Job β} (first : Advances job) (second : ∀ value, Advances (next value)) : Advances (job >>= next) := by
  refine ⟨fun {w later value} sound quiet ran => ?_⟩
  obtain ⟨middle, between, firstRan, secondRan⟩ := of_bind_ok ran
  have toMiddle := first.follows sound quiet firstRan
  exact toMiddle.trans ((second middle).follows toMiddle.sound (toMiddle.gitQuiet quiet) secondRan)

lemma run (rest : List String) (dir : Option String) (stdin : Option (List String)) :
    Advances (run ("git" :: rest) dir stdin) := by
  refine ⟨fun {w later value} sound quiet ran => ?_⟩
  rw [execute_run, quiet rest] at ran
  split at ran <;> cases ran
  exact ⟨⟨sound.tree, sound.standing⟩, Tree.Grows.refl w.tree, rfl, rfl, (append_nil _).symm, rfl, rfl⟩

lemma record (change : Record -> Record) : Advances (record change) := by
  refine ⟨fun {w later value} sound _ ran => ?_⟩
  cases ran
  exact ⟨⟨sound.tree, sound.standing⟩, Tree.Grows.refl w.tree, rfl, rfl, (append_nil _).symm, rfl, rfl⟩

lemma readOrEmpty (file : String) : Advances (Provenance.readOrEmpty file) := by
  have looks : FileJob false (Provenance.readOrEmpty file) := by
    refine (FileJob.readText file).attempt.bind fun outcome => ?_
    split
    · exact FileJob.ofExcept _
    · exact FileJob.pure ({} : Record)
    · exact FileJob.fail _
  exact of_fileJob looks

lemma answerOf (rest : List String) : Advances (Provenance.answerOf ("git" :: rest)) :=
  bind (run rest none none) fun _ => pure _

lemma addRepository (name dir : String) : Advances (Provenance.addRepository name dir) := by
  refine bind (run _ none none) fun status => ?_
  split
  · exact pure 0
  · exact bind (answerOf _) fun remote => bind (answerOf _) fun sha => bind (record _) fun _ => pure 1

lemma of_answer {answer : Workspace -> α} (looks : ∀ w, job.execute w = (.ok (answer w), w)) : Advances job := by
  refine ⟨fun {w later value} sound _ ran => ?_⟩
  rw [looks] at ran
  cases ran
  exact Follows.refl sound

lemma session : Advances session :=
  of_answer execute_session

lemma start (file : String) : Advances (Provenance.start file) := by
  have working : Advances workingDirectory := of_answer execute_workingDirectory
  refine bind (readOrEmpty file) fun old => bind (bind working fun _ => addRepository _ _) fun _ => ?_
  exact bind (of_fileJob (FileJob.makeDirectories _ _)) fun _ => bind session fun _ => pure _

end Advances

lemma gitAnswers_of_withoutIgnored {paths kept : List String} (quiet : GitQuiet w)
    (ran : (withoutIgnored paths).execute w = (.ok kept, later)) : GitAnswers w (w.ruleFor checkIgnore).output := by
  rw [withoutIgnored, bind_ok (execute_hasProgram "git" w)] at ran
  split at ran
  · cases ran
  next isAbsent =>
    obtain ⟨answer, between, asked, _⟩ := of_bind_ok ran
    rw [execute_run] at asked
    split at asked
    · cases asked
    next there => exact ⟨by simpa using isAbsent, Bool.eq_false_iff.mpr there, quiet _, rfl⟩

lemma follows_move {srcs : Selection} {dest : Option Path} {choices : List Choice}
    {merge : Option Merge} {required copied : Bool} (sound : w.Sound)
    (ran : (Transfer.move srcs dest (.many choices) merge required).execute w =
      (.ok copied, later)) : Follows (choices.map Choice.text') w later := by
  have alike := sound.noting (choices.map Choice.text')
  have visits : FileJob true (srcs.fold Path.here (Transfer.moveOne dest merge) (false, .many choices)) :=
    (FileJob.judgement true).foldSelection (I := fun _ _ => True) srcs Path.here
      (fun state path => FileJob.moveOne dest merge state path) _
  have noting : Follows (choices.map Choice.text') w (w.noting (choices.map Choice.text')) :=
    ⟨alike.otherSound, Tree.Grows.refl w.tree, rfl, rfl, rfl, rfl, rfl⟩
  rw [Transfer.move, Transfer.notedPatterns, bind_ok (execute_ofExcept _ w), bind_ok (Transfer.execute_noting _ w)] at ran
  obtain ⟨⟨done, left⟩, visited, folded, ending⟩ := of_bind_ok ran
  have follows := Follows.of_fileJob visits alike.otherSound
  rw [folded] at follows
  rw [<- append_nil (choices.map Choice.text')]
  dsimp only at ending
  split at ending <;> cases ending
  exact noting.trans follows

/-! ## The end of a tracked job -/

lemma Obsolete.congr {current other : Record} {excluded : List String} {output path : String}
    (same : current.generatedFiles = other.generatedFiles)
    (obsolete : Obsolete old current excluded output path) : Obsolete old other excluded output path :=
  ⟨obsolete.listed, same ▸ obsolete.dropped, obsolete.outside, obsolete.unignored, obsolete.unmatched⟩

lemma get?_writeText {text : String} (sound : w.Sound) (plain : IsPlain name)
    (clear : w.tree.get? (w.directory ++ [name]) = none \/ ∃ file, w.tree.get? (w.directory ++ [name]) = some (.file file))
    (ran : (writeText name text).execute w = (.ok (), later)) : (later.tree.get? (w.directory ++ [name])).isSome /\
      ∀ place, place ≠ w.directory ++ [name] -> later.tree.get? place = w.tree.get? place := by
  have leads : LeadsTo w Path.here w.directory := ⟨nofun, rfl, sound.standing⟩
  have whole : (Path.here.child name).toString = name := by
    simp [Path.toString, Path.child, Path.here, Anchor.text, Text.join]
  have here := leads.placeOf_child sound plain (noLink_of_clear clear)
  obtain ⟨place, file, loc, -, receives, rfl⟩ := writeText_ok sound ran
  rw [whole, loc] at here
  cases here
  refine ⟨?_, fun place other => ?_⟩
  · rw [Workspace.get?_put receives, if_pos rfl]
    rfl
  · rw [Workspace.get?_put receives, if_neg other]

def withRecord (w : Workspace) (record : Record) : Workspace :=
  { w with session := { w.session with record := record } }

lemma execute_forM_record (change : α -> Record -> Record) (items : List α) (w : Workspace) :
    ∃ record, (items.forM fun item => Job.record (change item)).execute w = (.ok (), withRecord w record) := by
  induction items generalizing w with
  | nil => exact ⟨w.session.record, rfl⟩
  | cons item rest ih =>
    obtain ⟨record, ran⟩ := ih (withRecord w (change item w.session.record))
    refine ⟨record, ?_⟩
    exact (bind_ok (execute_record (change item) w)).trans ran

def writeLast (name : String) : Job Unit := do
  if (<- session).writesRecord then write name

lemma exists_removal (quiet : GitQuiet w) (tracks : w.session.removesObsolete = true)
    (ran : (finish name old watched events).execute w = (.ok (), later)) :
    GitAnswers w (w.ruleFor checkIgnore).output /\ ∃ command record cleaned,
      (removeObsolete old).execute (withRecord (w.asked command) record) = (.ok (), cleaned) /\ (writeLast name).execute
          (withRecord cleaned cleaned.session.record.forgetLocalPaths.sortSources) = (.ok (), later) := by
  rw [finish, bind_ok (execute_session w), tracks, if_pos rfl] at ran
  cases watched with
  | none => cases ran
  | some dir =>
    rw [bind_ok (execute_need_some _ dir w)] at ran
    obtain ⟨touched, _, seen, onTouched⟩ := of_bind_ok ran
    rw [execute_ofExcept] at seen
    obtain ⟨_, rfl⟩ := Prod.mk.inj seen
    obtain ⟨kept, _, asked, onKept⟩ := of_bind_ok onTouched
    have git := gitAnswers_of_withoutIgnored quiet asked
    rw [execute_withoutIgnored git] at asked
    obtain ⟨_, rfl⟩ := Prod.mk.inj asked
    rcases execute_forM_record (fun file record => record.addGeneratedFile file) kept
      (w.asked { words := checkIgnore, stdin := some (touched.filter outsideGit) }) with
      ⟨record, recorded⟩
    rw [bind_ok recorded] at onKept
    obtain ⟨_, cleaned, removed, onCleaned⟩ := of_bind_ok onKept
    refine ⟨git, _, record, cleaned, removed, ?_⟩
    rwa [bind_ok (execute_record _ cleaned)] at onCleaned

lemma session_writeLast (name : String) (w : Workspace) : ((writeLast name).execute w).2.session = w.session := by
  have kept := congrArg Workspace.session ((FileJob.writeText name w.session.record.print).frame w)
  rw [writeLast, bind_ok (execute_session w)]
  cases w.session.writesRecord with
  | false => rfl
  | true =>
    rwa [if_pos rfl, write, bind_ok (execute_session w)]

lemma writeLast_view (sound : w.Sound) (plain : IsPlain name) (clear : w.tree.get? (w.directory ++ [name]) = none \/
      ∃ file, w.tree.get? (w.directory ++ [name]) = some (.file file))
    (ran : (writeLast name).execute w = (.ok (), later)) (place : Place) : (later.tree.get? place).isSome ↔
      place = w.directory ++ [name] /\ w.session.writesRecord = true \/ (w.tree.get? place).isSome := by
  rw [writeLast, bind_ok (execute_session w)] at ran
  cases writes : w.session.writesRecord <;> rw [writes] at ran
  · cases ran
    simp
  · rw [if_pos rfl, write, bind_ok (execute_session w)] at ran
    obtain ⟨there, elsewhere⟩ := get?_writeText sound plain clear ran
    by_cases here : place = w.directory ++ [name]
    · rw [here]
      simp [there]
    · rw [elsewhere place here]
      simp [here]

lemma exists_cleaned (sound : w.Sound) (quiet : GitQuiet w) (tracks : w.session.removesObsolete = true)
    (ran : (finish name old watched events).execute w = (.ok (), later))
    (noDirectory : NoDirectory w old later.session.record w.session.excluded (w.ruleFor checkIgnore).output) :
    ∃ cleaned : Workspace, cleaned.Sound /\ cleaned.directory = w.directory /\
      cleaned.session.writesRecord = w.session.writesRecord /\ Tree.Sheds w.tree cleaned.tree /\
      (∀ place, (cleaned.tree.get? place).isSome ↔ (w.tree.get? place).isSome /\
        ¬ ObsoletePlace w old later.session.record w.session.excluded (w.ruleFor checkIgnore).output place) /\
      (writeLast name).execute cleaned = (.ok (), later) := by
  obtain ⟨git, command, record, cleaned, removed, written⟩ := exists_removal quiet tracks ran
  let current := withRecord (w.asked command) record
  have soundCurrent : current.Sound := ⟨sound.tree, sound.standing⟩
  have gitCurrent : GitAnswers current (w.ruleFor checkIgnore).output :=
    ⟨git.present, git.there, git.quiet, git.answers⟩
  have sessionCleaned : cleaned.session = current.session := by
    have kept := session_removeObsolete gitCurrent old
    rwa [removed] at kept
  have sameFiles : later.session.record.generatedFiles = record.generatedFiles := by
    have kept := session_writeLast name (withRecord cleaned cleaned.session.record.forgetLocalPaths.sortSources)
    rw [written] at kept
    rw [kept]
    rw [sessionCleaned]
    rfl
  have samePlaces : ∀ place, ObsoletePlace current old record w.session.excluded (w.ruleFor checkIgnore).output place ↔
        ObsoletePlace w old later.session.record w.session.excluded (w.ruleFor checkIgnore).output place :=
    fun place => exists_congr fun path =>
      and_congr_left fun _ => ⟨Obsolete.congr sameFiles.symm, Obsolete.congr sameFiles⟩
  rcases cleared_of_removeObsolete soundCurrent gitCurrent
    (fun place obsolete => noDirectory place ((samePlaces place).mp obsolete)) removed with
    ⟨asked, cleared⟩
  have soundCleaned : cleaned.Sound := cleared.keeps ⟨sound.tree, sound.standing⟩
  refine ⟨withRecord cleaned cleaned.session.record.forgetLocalPaths.sortSources,
    ⟨soundCleaned.tree, soundCleaned.standing⟩, ?_, ?_, cleared.sheds, fun place => ?_, written⟩
  · rw [cleared.frame]
    rfl
  · change cleaned.session.writesRecord = w.session.writesRecord
    rw [sessionCleaned]
    rfl
  · rw [<- samePlaces]
    exact cleared.isSome_iff place

lemma finish_view (sound : w.Sound) (quiet : GitQuiet w) (tracks : w.session.removesObsolete = true)
    (plain : IsPlain name) (clear : w.tree.get? (w.directory ++ [name]) = none \/
      ∃ file, w.tree.get? (w.directory ++ [name]) = some (.file file))
    (ran : (finish name old watched events).execute w = (.ok (), later))
    (noDirectory : NoDirectory w old later.session.record w.session.excluded
      (w.ruleFor checkIgnore).output) (place : Place) : (later.tree.get? place).isSome ↔
      place = w.directory ++ [name] /\ w.session.writesRecord = true \/
      (w.tree.get? place).isSome /\ ¬ ObsoletePlace w old later.session.record w.session.excluded
        (w.ruleFor checkIgnore).output place := by
  obtain ⟨cleaned, soundCleaned, dir, writes, sheds, view, written⟩ := exists_cleaned sound quiet tracks ran noDirectory
  have clearCleaned : cleaned.tree.get? (cleaned.directory ++ [name]) = none \/
      ∃ file, cleaned.tree.get? (cleaned.directory ++ [name]) = some (.file file) := by
    rw [dir]
    rcases sheds (w.directory ++ [name]) with same | ⟨absent, _⟩
    · rwa [same]
    · exact .inl absent
  rw [writeLast_view soundCleaned plain clearCleaned written place, dir, writes, view]

/-- **When a tracked move spares a file.**  A file from before the move is there afterwards exactly if it is
the record, which is written, or no obsolete path names it: every path of the old record that does is in the
new one, belongs to a repository directory, is ignored, or matches a noted pattern as a whole. -/
theorem tracked_move_keeps_iff (w begun moved after : Workspace) (name : String) (source : Path)
    (choices : List Choice) (events : List Event) (old : Record) (watched : Option Path) (copied : Bool)
    (place : Place) (file : FileNode) (sound : w.Sound) (quiet : GitQuiet w)
    (tracks : w.session.removesObsolete = true) (plain : IsPlain name)
    (recorded : ∃ record, w.tree.get? (w.directory ++ [name]) = some (.file record))
    (there : w.tree.get? place = some (.file file)) (started : (start name).execute w = (.ok (old, watched), begun))
    (ran : (Transfer.move (.many [.path source]) none (.many choices)).execute begun = (.ok copied, moved))
    (ended : (finish name old watched events).execute moved = (.ok (), after))
    (noDirectory : NoDirectory moved old after.session.record
      (w.session.excluded ++ choices.map Choice.text') (w.ruleFor checkIgnore).output) :
    (track name (Transfer.move (.many [.path source]) none (.many choices)) events).execute w =
        (.ok copied, after) /\ ((after.tree.get? place).isSome ↔
        place = w.directory ++ [name] /\ w.session.writesRecord = true \/
        ∀ path, moved.placeOf path false = .ok place ->
          ¬ Obsolete old after.session.record (w.session.excluded ++ choices.map Choice.text')
            (w.ruleFor checkIgnore).output path) := by
  have toBegun := (Advances.start name).follows sound quiet started
  have toMoved : Follows (choices.map Choice.text') w moved :=
    toBegun.trans (follows_move toBegun.sound ran)
  refine ⟨?_, ?_⟩
  · rw [track, bind_ok started]
    exact (bind_ok ran).trans (bind_ok ended)
  · have clear : moved.tree.get? (moved.directory ++ [name]) = none \/
        ∃ record, moved.tree.get? (moved.directory ++ [name]) = some (.file record) := by
      rcases recorded with ⟨record, found⟩
      rw [toMoved.directory]
      exact .inr (toMoved.grows.file found)
    have present : (moved.tree.get? place).isSome := by
      rcases toMoved.grows.file there with ⟨other, found⟩
      rw [found]
      rfl
    rw [<- toMoved.excluded, <- toMoved.ruleFor] at noDirectory ⊢
    rw [finish_view toMoved.sound (toMoved.gitQuiet quiet) (toMoved.removes.trans tracks) plain clear
      ended noDirectory place, toMoved.directory, toMoved.writes]
    refine or_congr Iff.rfl ?_
    rw [and_iff_right present, ObsoletePlace, not_exists]
    exact forall_congr' fun path => ⟨fun free named obsolete => free ⟨obsolete, named⟩, fun free both => free both.2 both.1⟩

def leftOut : Workspace where
  tree := ⟨[(["w"], .directory), (["w", "s"], .directory), (["w", "s", "docs"], .directory),
    (["w", "s", "docs", "a"], .file { content := "1".toUTF8 }), (["w", "docs"], .directory),
    (["w", "docs", "a"], .file { content := "0".toUTF8 }),
    (["w", "m"], .file { content := "\x7b\"generatedFiles\": [\"docs/a\"]\x7d".toUTF8 })]⟩
  directory := ["w"]
  session := { roots := [⟨.relative, ["s"]⟩], removesObsolete := true }

def leftOutRecord : Record :=
  { generatedFiles := ["docs/a"] }

def moveOthers : Job Bool :=
  Transfer.move (.many [.path ⟨.relative, ["s"]⟩]) none (.many [.text "docs/*"])

def leftOutBegun : Workspace :=
  ((start "m").execute leftOut).2

def leftOutMoved : Workspace :=
  (moveOthers.execute leftOutBegun).2

def leftOutEnded : Workspace :=
  ((finish "m" leftOutRecord (some Path.here) []).execute leftOutMoved).2

lemma eq_pair_of_fst {run : Except Failure α × Workspace} {value : α} (ended : run.1 = .ok value) : run = (.ok value, run.2) :=
  Prod.ext ended rfl

set_option maxRecDepth 100000 in
/-- A pattern that matches the recorded path of the file spares it. -/
theorem leftOut_kept : leftOut.Sound /\ GitQuiet leftOut /\
      (start "m").execute leftOut = (.ok (leftOutRecord, some Path.here), leftOutBegun) /\
      moveOthers.execute leftOutBegun = (.ok false, leftOutMoved) /\
      (finish "m" leftOutRecord (some Path.here) []).execute leftOutMoved = (.ok (), leftOutEnded) /\
      (track "m" moveOthers).execute leftOut = (.ok false, leftOutEnded) /\ ((leftOutEnded.tree.get? ["w", "docs", "a"]).isSome ↔
        ["w", "docs", "a"] = leftOut.directory ++ ["m"] /\ leftOut.session.writesRecord = true \/
        ∀ path, leftOutMoved.placeOf path false = .ok ["w", "docs", "a"] -> ¬ Obsolete leftOutRecord leftOutEnded.session.record
            (leftOut.session.excluded ++ [Choice.text "docs/*"].map Choice.text') (leftOut.ruleFor checkIgnore).output path) := by
  have sound : leftOut.Sound := by decide
  have quiet : GitQuiet leftOut := fun rest => rfl
  have started : (start "m").execute leftOut = (.ok (leftOutRecord, some Path.here), leftOutBegun) :=
    eq_pair_of_fst (by decide +kernel)
  have ran : moveOthers.execute leftOutBegun = (.ok false, leftOutMoved) :=
    eq_pair_of_fst (by decide +kernel)
  have ended : (finish "m" leftOutRecord (some Path.here) []).execute leftOutMoved =
      (.ok (), leftOutEnded) := eq_pair_of_fst (by decide +kernel)
  have matched : NamePattern.matchesName "docs/*" "docs/a" = true := by decide +kernel
  have noDirectory : NoDirectory leftOutMoved leftOutRecord leftOutEnded.session.record
      (leftOut.session.excluded ++ [Choice.text "docs/*"].map Choice.text')
      (leftOut.ruleFor checkIgnore).output := by
    rintro place ⟨path, obsolete, _⟩
    have unmatched := obsolete.unmatched "docs/*" (by simp [Choice.text'])
    rw [List.mem_singleton.mp obsolete.listed, matched] at unmatched
    cases unmatched
  exact ⟨sound, quiet, started, ran, ended,
    tracked_move_keeps_iff leftOut leftOutBegun leftOutMoved leftOutEnded "m" ⟨.relative, ["s"]⟩
      [.text "docs/*"] [] leftOutRecord (some Path.here) false ["w", "docs", "a"]
      { content := "0".toUTF8 } sound quiet (by decide) (by decide) ⟨_, rfl⟩ (by decide) started ran ended
      noDirectory⟩

set_option maxRecDepth 100000 in
/-- A pattern that selects its directory leaves the file out of the move, and it is removed as obsolete. -/
theorem leftOut_removed : ((Transfer.move (.many [.path ⟨.relative, ["s"]⟩]) none (.many [])).execute leftOut).1 = .ok true /\
      ((track "m" (Transfer.move (.many [.path ⟨.relative, ["s"]⟩]) none (.many [.text "docs"]))).execute leftOut).1 = .ok false /\
      ((track "m" (Transfer.move (.many [.path ⟨.relative, ["s"]⟩]) none
        (.many [.text "docs"]))).execute leftOut).2.tree.get? ["w", "docs", "a"] = none := by
  decide +kernel

end Refinery.Provenance
