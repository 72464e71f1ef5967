import Refinery.Proofs.Replacement.OrderIndependence

namespace Refinery

open List Job Workspace

/-!
# The script among the files

A search by a text passes over the running script, by the spelling of the path that was found.  Without links
a path of plain names has but one spelling, so a text without double dots never leads to the script.  A path
is not compared at all.
-/

variable {s : Substitution} {w v : Workspace} {place : Place} {path script : Path} {found : List Path}
  {count : Nat}

/-! ## Files that no path leads to -/

lemma Substitution.visit_aside (rewritten : w.Rewritten v) (aside : w.filePlace? path ≠ some place) :
    ((s.visit count path).execute v).2.tree.get? place = v.tree.get? place := by
  cases reached : v.filePlace? path with
  | none => rw [execute_visit_nothing reached]
  | some other =>
    have apart : place ≠ other := by
      rintro rfl
      exact aside ((rewritten.filePlace? path).symm.trans reached)
    rcases filePlace?_eq_some_iff.mp reached with ⟨loc, file, there⟩
    rcases execute_inFile (s := s) loc there with ⟨after, ran, wrote, -⟩
    have kept : after.tree.get? place = v.tree.get? place := by
      rcases wrote with rfl | ⟨new, rfl⟩
      · rfl
      · rw [get?_put_file there, if_neg apart]
    rw [execute_visit_file reached, execute_bind, ran]
    cases s.onFile file <;> exact kept

lemma Substitution.foldlM_aside (rewritten : w.Rewritten v) (aside : ∀ path ∈ found, w.filePlace? path ≠ some place) :
    ((found.foldlM s.visit count).execute v).2.tree.get? place = v.tree.get? place := by
  induction found generalizing v count with
  | nil => rfl
  | cons path rest ih =>
    have first : ((s.visit count path).execute v).2.tree.get? place = v.tree.get? place :=
      s.visit_aside rewritten (aside path mem_cons_self)
    have still := s.keeps_visit w count path v rewritten
    rw [foldlM_cons, execute_bind]
    rcases ran : (s.visit count path).execute v with ⟨outcome, between⟩
    rw [ran] at first still
    cases outcome with
    | error err => exact first
    | ok total => exact (ih still fun other mem => aside other (mem_cons_of_mem path mem)).trans first

/-! ## Paths that are not the script -/

/-- A script by plain names in a tree without links. -/
structure PlainScript (w : Workspace) (script : Path) : Prop where
  named : w.script = script
  plain : ∀ name ∈ script.names, IsPlain name
  single : script.anchor ≠ .doubleSlash
  linkFree : ∀ place target, w.tree.get? place ≠ some (.link target)

lemma PlainScript.aside (plain : PlainScript w script) (loc : w.placeOf w.script true = .ok place)
    (under : Path.here.Under path) (other : w.notScript path = true) : w.filePlace? path ≠ some place := by
  intro reached
  rcases under with ⟨names, plainNames, rfl⟩
  have place_eq (path : Path) (plainNames : ∀ name ∈ path.names, IsPlain name)
      (reaches : w.placeOf path true = .ok place) : place = Tree.origin w.directory path ++ path.names := by
    have loc := locate_of_placeOf reaches
    rw [Path.pathOf_toString fun name mem => (plainNames name mem).1] at loc
    exact Tree.locate_straight plainNames (fun _ _ _ => plain.linkFree _) loc
  rw [plain.named] at loc
  have first := place_eq script plain.plain loc
  have second := place_eq ⟨.relative, names⟩ plainNames (filePlace?_eq_some_iff.mp reached).1
  refine of_decide_eq_true other ?_
  rw [plain.named, Path.ofString_toString fun name mem => (plain.plain name mem).1]
  rcases script with ⟨anchor, scriptNames⟩
  cases anchor with
  | relative =>
    have same : names = scriptNames := append_cancel_left (second.symm.trans first)
    rw [same]
    rfl
  | slash =>
    have whole : scriptNames = w.directory ++ names := first.symm.trans second
    rw [whole]
    rfl
  | doubleSlash => exact absurd rfl plain.single

namespace Replacement

variable {srcs : Selection} {before after : String} {flags : Pattern.Flags}

/-- **A replacement by texts leaves the script alone,** however the run ends, if the texts have no double dots
and there is no link. -/
theorem replaceIn_script (sound : w.Sound) (plain : PlainScript w script)
    (located : w.placeOf w.script true = .ok place)
    (texts : ∀ choice ∈ sources.choices, ∃ pattern, choice = .text pattern) (tame : TameChoices sources.choices) :
    ((replaceIn sources before after flags).execute w).2.tree.get? place = w.tree.get? place := by
  have here : LeadsTo w Path.here w.directory := ⟨by decide, rfl, sound.standing⟩
  have entered : Glob.Entered w Path.here Path.here := ⟨sound, here.proper, .refl _, here.isDirectory⟩
  have ordered : Ordered w (Glob.Entered w Path.here Path.here /\ TameChoices sources.choices)
      (fun path => Path.here.Under path /\ w.notScript path = true)
      (fun visit state => sources.fold Path.here visit state) := by
    refine .flatMap fun choice member => ?_
    rcases texts choice member with ⟨pattern, rfl⟩
    exact (Choice.text_ordered w Path.here pattern).mono fun sure => ⟨sure.1, sure.2 _ member⟩
  rcases ordered with ⟨found, failure, yields, holds⟩
  rcases holds ⟨entered, tame⟩ with ⟨rfl, good⟩
  rw [replaceIn]
  cases parsed : Substitution.parse before after flags with
  | error reason => rfl
  | ok s =>
    rw [bind_ok (execute_ofExcept (.ok s) w)]
    change ((sources.fold Path.here s.visit 0).execute w).2.tree.get? place = _
    rw [yields.runs (s.keeps_visit w) 0 (.refl sound)]
    change ((found.foldlM s.visit 0 >>= pure).execute w).2.tree.get? place = _
    rw [bind_pure]
    exact s.foldlM_aside (.refl sound) fun path member =>
      plain.aside located (good path member).1 (good path member).2

def scripted : Workspace where
  tree := ⟨[(["w"], .directory), (["w", "synth.py"], .file { content := "a".toUTF8 }),
    (["w", "b.py"], .file { content := "a".toUTF8 })]⟩
  directory := ["w"]
  script := "synth.py"

/-- Texts that find the script change the other file only. -/
theorem scripted_spared : ((replaceIn (.many [.text "*.py", .text "synth.py"]) "a" "b").execute scripted).1.toOption = some 1 /\
    ((replaceIn (.many [.text "*.py", .text "synth.py"]) "a" "b").execute scripted).2.tree.get?
      ["w", "synth.py"] = some (.file { content := "a".toUTF8 }) := by
  have plain : PlainScript scripted ⟨.relative, ["synth.py"]⟩ := by
    refine ⟨by decide, by decide, by decide, fun place target found => ?_⟩
    have member := Tree.mem_entries_of_get? (by rintro rfl; cases found) found
    simp [scripted] at member
  refine ⟨by decide +kernel, replaceIn_script (by decide) plain rfl ?_ ?_⟩
  · intro choice member
    rcases List.mem_pair.mp member with rfl | rfl <;> exact ⟨_, rfl⟩
  · intro choice member
    rcases List.mem_pair.mp member with rfl | rfl <;> exact ⟨⟨_, rfl⟩, by decide⟩

/-- The script is rewritten by its path, and by a text with another spelling. -/
theorem scripted_rewritten : ((replaceIn (.one (.path ⟨.relative, ["synth.py"]⟩)) "a" "b").execute scripted).1.toOption = some 1 /\
    ((replaceIn (.one (.text "../w/synth.py")) "a" "b").execute scripted).1.toOption = some 1 /\
    (((replaceIn (.one (.path ⟨.relative, ["synth.py"]⟩)) "a" "b").execute scripted).2.fileAt
      "synth.py").toOption.bind (fun file => String.fromUTF8? file.content) = some "b" := by
  decide +kernel

end Replacement
end Refinery
