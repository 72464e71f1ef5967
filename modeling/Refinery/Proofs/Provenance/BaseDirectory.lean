import Refinery.Proofs.Provenance.Excluded

namespace Refinery.Provenance

open Workspace Job Refinery.Tree

/-!
# Where obsolete files are removed

Files are recorded by their paths from the directory of the record, but removed by these paths from the
working directory.
-/

variable {α : Type} {w later : Workspace} {name : String}

/-- A relative path of plain names that passes over no link. -/
structure Straight (w : Workspace) (path : String) : Prop where
  relative : (pathOf path).isAbsolute = false
  plain : ∀ name ∈ (pathOf path).names, IsPlain name
  direct : ∀ early, early <+: (pathOf path).names -> early ≠ (pathOf path).names ->
    ∀ target, w.tree.get? (w.directory ++ early) ≠ some (.link target)

lemma Straight.place_eq {path : String} {place : Place} (straight : Straight w path)
    (named : w.placeOf path false = .ok place) : place = w.directory ++ (pathOf path).names := by
  have start : origin w.directory (pathOf path) = w.directory := by
    rw [origin, straight.relative, if_neg Bool.false_ne_true]
  rw [<- start]
  refine locate_straight straight.plain (fun early inside passed => ?_) (locate_of_placeOf named)
  rw [start]
  exact straight.direct early inside (passed.resolve_left Bool.false_ne_true)

/-- What was at a place is gone. -/
def Gone (before after : Workspace) (place : Place) : Prop :=
  (before.tree.get? place).isSome /\ after.tree.get? place = none

lemma isSome_writeText {text : String} (sound : w.Sound)
    (ran : (writeText name text).execute w = (.ok (), later)) (place : Place) : (later.tree.get? place).isSome ↔
      later.placeOf name true = .ok place \/ (w.tree.get? place).isSome := by
  have grows : Grows w.tree later.tree := by
    have grown := (FileJob.writeText name text).grows sound
    rwa [ran] at grown
  cases enc : Text.encodable text with
  | false =>
    rw [writeText, enc] at ran
    rcases of_bind_ok ran with ⟨_, _, _, failed⟩
    cases failed
  | true =>
    rw [writeText, enc, if_pos rfl, execute_writeBytes] at ran
    rcases writing_ok (congrArg Prod.fst ran) with ⟨goal, file, named, clear, put⟩
    have top : goal ≠ [] := by
      rintro rfl
      exact clear rfl
    rw [put] at ran
    rcases Prod.mk.inj ran with ⟨_, rfl⟩
    have view : ∀ other, (w.tree.insert goal (.file file)).get? other =
        if other = goal then some (.file file) else w.tree.get? other :=
      fun other => get?_insert _ _ _ _ top
    have still : (w.put (some (goal, .file file))).placeOf name true = .ok goal := by
      rw [placeOf_eq_ok_iff] at named ⊢
      refine ⟨named.1, grows.locate_put named.2 fun target linked => ?_⟩
      change (w.tree.insert goal (.file file)).get? goal = _ at linked
      rw [view, if_pos rfl] at linked
      cases linked
    rw [still]
    change ((w.tree.insert goal (.file file)).get? place).isSome ↔ _
    rw [view]
    by_cases here : place = goal
    · simp [here]
    · simp [here, Ne.symm here]

lemma isSome_writeLast (sound : w.Sound) (ran : (writeLast name).execute w = (.ok (), later)) (place : Place) :
    (later.tree.get? place).isSome ↔ (w.session.writesRecord = true /\ later.placeOf name true = .ok place) \/
        (w.tree.get? place).isSome := by
  rw [writeLast, bind_ok (execute_session w)] at ran
  cases writes : w.session.writesRecord <;> rw [writes] at ran
  · cases ran
    simp
  · rw [if_pos rfl, write, bind_ok (execute_session w)] at ran
    rw [isSome_writeText sound ran place]
    simp

lemma gone_finish_iff {old : Record} {watched : Option Path} {events : List Event}
    (sound : w.Sound) (quiet : GitQuiet w) (tracks : w.session.removesObsolete = true)
    (ran : (finish name old watched events).execute w = (.ok (), later))
    (noDirectory : NoDirectory w old later.session.record w.session.excluded
      (w.ruleFor checkIgnore).output) (place : Place) : Gone w later place ↔ (w.tree.get? place).isSome /\
      ObsoletePlace w old later.session.record w.session.excluded (w.ruleFor checkIgnore).output place /\
      ¬ (w.session.writesRecord = true /\ later.placeOf name true = .ok place) := by
  rcases exists_cleaned sound quiet tracks ran noDirectory with ⟨cleaned, soundCleaned, _, writes, _, view, written⟩
  have left := isSome_writeLast soundCleaned written place
  rw [writes, view] at left
  rw [Gone, <- Option.not_isSome_iff_eq_none, left]
  tauto

/-- **Obsolete files are looked up from the working directory.**  What is gone at the end are the nodes that
the obsolete paths name from there, except for the record.  If these paths are straight, it is below the
directory of the record whenever the working directory is. -/
theorem tracked_removal_iff (w begun worked after : Workspace) (name : String) (job : Job α) (value : α)
    (events : List Event) (old : Record) (watched : Option Path)
    (started : (start name).execute w = (.ok (old, watched), begun)) (ran : job.execute begun = (.ok value, worked))
    (ended : (finish name old watched events).execute worked = (.ok (), after))
    (sound : worked.Sound) (quiet : GitQuiet worked) (tracks : worked.session.removesObsolete = true)
    (noDirectory : NoDirectory worked old after.session.record worked.session.excluded
      (worked.ruleFor checkIgnore).output) : (track name job events).execute w = (.ok value, after) /\
      (∀ place, Gone worked after place ↔ (worked.tree.get? place).isSome /\
        ObsoletePlace worked old after.session.record worked.session.excluded
          (worked.ruleFor checkIgnore).output place /\
        ¬ (worked.session.writesRecord = true /\ after.placeOf name true = .ok place)) /\
      ((∀ path, Obsolete old after.session.record worked.session.excluded
          (worked.ruleFor checkIgnore).output path -> Straight worked path) -> ∀ place, Gone worked after place ->
          (∃ path, path ∈ old.generatedFiles /\ place = worked.directory ++ (pathOf path).names) /\
          ∀ base, worked.tree.locate worked.directory (Path.ofString name).parent = .ok base ->
            base <+: worked.directory -> base <+: place) := by
  have gone := gone_finish_iff sound quiet tracks ended noDirectory
  refine ⟨?_, gone, ?_⟩
  · rw [track, bind_ok started]
    exact (bind_ok ran).trans (bind_ok ended)
  · intro straight place isGone
    rcases ((gone place).mp isGone).2.1 with ⟨path, obsolete, named⟩
    have here := (straight path obsolete).place_eq named
    refine ⟨⟨path, obsolete.listed, here⟩, fun base _ above => ?_⟩
    rw [here]
    exact above.trans (List.prefix_append _ _)

def nested : Workspace where
  tree := ⟨[(["w"], .directory), (["w", "old"], .file { content := "1".toUTF8 }),
    (["w", "lib"], .directory), (["w", "lib", "old"], .file { content := "2".toUTF8 }),
    (["w", "lib", "m"], .file { content := "\x7b\"generatedFiles\": [\"old\"]\x7d".toUTF8 })]⟩
  directory := ["w"]
  session := { removesObsolete := true }

def nestedRecord : Record :=
  { generatedFiles := ["old"] }

def nestedBegun : Workspace :=
  ((start "lib/m").execute nested).2

def nestedEnded : Workspace :=
  ((finish "lib/m" nestedRecord (some ⟨.relative, ["lib"]⟩) []).execute nestedBegun).2

set_option maxRecDepth 100000 in
/-- The file of the working directory is gone. -/
theorem nested_gone : nestedBegun.Sound /\ GitQuiet nestedBegun /\ (start "lib/m").execute nested =
        (.ok (nestedRecord, some ⟨.relative, ["lib"]⟩), nestedBegun) /\
      (finish "lib/m" nestedRecord (some ⟨.relative, ["lib"]⟩) []).execute nestedBegun = (.ok (), nestedEnded) /\
      (track "lib/m" (pure ())).execute nested = (.ok (), nestedEnded) /\
      (Gone nestedBegun nestedEnded ["w", "old"] ↔ (nestedBegun.tree.get? ["w", "old"]).isSome /\
        ObsoletePlace nestedBegun nestedRecord nestedEnded.session.record
          nestedBegun.session.excluded (nestedBegun.ruleFor checkIgnore).output ["w", "old"] /\
        ¬ (nestedBegun.session.writesRecord = true /\ nestedEnded.placeOf "lib/m" true = .ok ["w", "old"])) := by
  have started : (start "lib/m").execute nested =
      (.ok (nestedRecord, some ⟨.relative, ["lib"]⟩), nestedBegun) := eq_pair_of_fst (by decide +kernel)
  have ended : (finish "lib/m" nestedRecord (some ⟨.relative, ["lib"]⟩) []).execute nestedBegun =
      (.ok (), nestedEnded) := eq_pair_of_fst (by decide +kernel)
  have begins := (Advances.start "lib/m").follows (w := nested) (by decide) (fun rest => rfl) started
  have quiet : GitQuiet nestedBegun := begins.gitQuiet fun rest => rfl
  have noDirectory : NoDirectory nestedBegun nestedRecord nestedEnded.session.record
      nestedBegun.session.excluded (nestedBegun.ruleFor checkIgnore).output := by
    rintro place ⟨path, obsolete, named⟩
    have reached : nestedBegun.placeOf "old" false = .ok ["w", "old"] := by decide +kernel
    rw [List.mem_singleton.mp obsolete.listed, reached] at named
    cases named
    decide +kernel
  rcases tracked_removal_iff nested nestedBegun nestedBegun nestedEnded "lib/m" (pure ()) () []
    nestedRecord (some ⟨.relative, ["lib"]⟩) started (execute_pure () nestedBegun) ended
    begins.sound quiet begins.removes noDirectory with ⟨tracked, gone, _⟩
  exact ⟨begins.sound, quiet, started, ended, tracked, gone ["w", "old"]⟩

set_option maxRecDepth 100000 in
/-- The recorded file is left, and one is removed that is not below the directory of the record. -/
theorem nested_misplaced : nested.tree.locate nested.directory (Path.ofString "lib/m").parent = .ok ["w", "lib"] /\
      ((track "lib/m" (pure ())).execute nested).1 = .ok () /\
      ((track "lib/m" (pure ())).execute nested).2.tree.get? ["w", "old"] = none /\
      (((track "lib/m" (pure ())).execute nested).2.tree.get? ["w", "lib", "old"]).isSome = true := by
  decide +kernel

end Refinery.Provenance
