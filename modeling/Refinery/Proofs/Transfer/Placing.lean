import Refinery.Proofs.Merge.Settling
import Refinery.Proofs.Transfer.Moving

namespace Refinery

open Text Workspace PathText Job

/-!
# Placing a file

A merge reads both files, sets the permission bits and writes; if a step fails, the new file is copied.
Nothing but that place changes, and the bytes there are those that `Merge.outcome` tells.
-/

namespace Job

variable {w : Workspace} {path : String} {place : Place} {file : FileNode}

section

variable (located : w.placeOf path true = .ok place) (found : w.tree.get? place = some (.file file))
include located found

lemma execute_readText : (readText path).execute w = ((Merge.decoded? file.content).elim (.error .undecodable) .ok, w) := by
  rw [readText, bind_ok (execute_readBytes located found), decode, Merge.decoded?]
  cases String.fromUTF8? file.content <;> rfl

lemma execute_modeOf : (modeOf path).execute w = (.ok file.mode, w) := by
  rw [modeOf, bind_ok (execute_nodeAt? _ w), nodeAt?_of_placeOf located, found]
  rfl

end

lemma execute_copyFile_into {source destination : String} (standing : w.isDirectory destination = true)
    (clear : w.isDirectory (join destination (PathText.base source)) = false) :
    (copyFile source destination).execute w = (copyFile source (join destination (PathText.base source))).execute w := by
  rw [copyFile, copyFile, bind_ok (execute_isDirectory _ w), bind_ok (execute_isDirectory _ w), standing, clear]
  rfl

lemma execute_copyFile_refused {source destination : String} {origin : Place}
    (standing : w.isDirectory destination = true) (located : w.placeOf source true = .ok origin)
    (found : w.tree.get? origin = some (.file file))
    (reached : w.placeOf (join destination (PathText.base source)) true = .ok place)
    (inner : w.tree.get? place = some .directory) : (copyFile source destination).execute w =
      (.error (.isDirectory (join destination (PathText.base source))), w) := by
  have apart : place ≠ origin := by
    rintro rfl
    rw [found] at inner
    cases inner
  have refused : (copyContent source (join destination (PathText.base source))).execute w =
      (.error (.isDirectory (join destination (PathText.base source))), w) := by
    rw [copyContent, bind_ok (execute_sameFile _ _ w), sameFile_of_ne located reached apart]
    change (readBytes source >>= fun content => _).execute w = _
    rw [bind_ok (execute_readBytes located found), execute_writeBytes]
    simp only [writing, reached, inner]
    rfl
  rw [copyFile, bind_ok (execute_isDirectory _ w), standing, if_pos rfl]
  exact bind_error refused

end Job

namespace Workspace

def withFile (w : Workspace) (place : Place) (file : FileNode) : Workspace :=
  w.put (some (place, .file file))

variable {w : Workspace} {path : String} {origin place : Place} {old file : FileNode}

section

variable (there : w.tree.get? place = some (.file old))
include there

lemma get?_withFile (other : Place) : (w.withFile place file).tree.get? other =
      if other = place then some (.file file) else w.tree.get? other := by
  refine Tree.get?_insert _ _ _ _ ?_
  rintro rfl
  cases there

lemma withFile_withFile (next : FileNode) : Tree.PutAt w.tree place next ((w.withFile place file).withFile place next).tree := by
  have now : (w.withFile place file).tree.get? place = some (.file file) := by
    rw [get?_withFile there, if_pos rfl]
  exact Tree.PutAt.again (get?_withFile there) (get?_withFile now)

lemma grows_withFile (file : FileNode) : Tree.Grows w.tree (w.withFile place file).tree := by
  refine Tree.grows_insert ?_ fun node found => ?_
  · rintro rfl
    cases there
  · rw [there] at found
    cases found
    trivial

end

lemma Sound.withFile (sound : w.Sound) (there : w.tree.get? place = some (.file old))
    (file : FileNode) : (w.withFile place file).Sound := by
  have named : place ≠ [] := by
    rintro rfl
    cases there
  refine ⟨?_, (grows_withFile there file).directory sound.standing⟩
  exact sound.tree.insert named (sound.tree.isPlain there) (sound.tree.above named there) (by rw [there]; simp)

lemma placeOf_withFile (there : w.tree.get? place = some (.file old))
    (located : w.placeOf path true = .ok origin) (present : (w.tree.get? origin).isSome)
    (file : FileNode) : (w.withFile place file).placeOf path true = .ok origin := by
  rw [placeOf_eq_ok_iff] at located ⊢
  exact ⟨located.1, (grows_withFile there file).locate located.2 present⟩

end Workspace

namespace Transfer

/-! ## Where a file is -/

/-- A file, and another one that it is copied or merged to. -/
structure Meets (w : Workspace) (source destination : Path) (origin place : Place)
    (new old : FileNode) : Prop where
  sound : w.Sound
  located : w.placeOf source true = .ok origin
  found : w.tree.get? origin = some (.file new)
  reached : w.placeOf destination true = .ok place
  there : w.tree.get? place = some (.file old)
  apart : place ≠ origin

/-- The workspace with another file at a place, and nothing else changed. -/
structure Replaced (w : Workspace) (place : Place) (file : FileNode) (next : Workspace) : Prop where
  frame : next = { w with tree := next.tree }
  put : Tree.PutAt w.tree place file next.tree

variable {w next : Workspace} {source destination : Path} {origin place : Place} {new old file : FileNode}
  {merge : Option Merge} {text name : String}

namespace Meets

variable (meets : Meets w source destination origin place new old)
include meets

lemma replaced_self : Replaced w place old w := by
  refine ⟨rfl, fun other => ?_⟩
  split
  next here => rw [here, meets.there]
  · rfl

lemma withFile (file : FileNode) : Meets (w.withFile place file) source destination origin place new file where
  sound := meets.sound.withFile meets.there file
  located := placeOf_withFile meets.there meets.located (by rw [meets.found]; rfl) file
  found := by rw [get?_withFile meets.there, if_neg (Ne.symm meets.apart), meets.found]
  reached := placeOf_withFile meets.there meets.reached (by rw [meets.there]; rfl) file
  there := by rw [get?_withFile meets.there, if_pos rfl]
  apart := meets.apart

lemma copyFile : ∃ tree, (copyFile source destination).execute w = (.ok (), { w with tree := tree }) /\
      Tree.PutAt w.tree place new tree :=
  execute_copyFile_located meets.sound meets.located meets.found meets.reached meets.apart (.inr ⟨old, meets.there⟩)

lemma nodeAt? : w.nodeAt? destination = some (.file old) := by
  rw [nodeAt?_of_placeOf meets.reached, meets.there]

lemma setMode (mode : Nat) : (setMode destination mode).execute w = (.ok (), w.withFile place { old with mode }) := by
  rw [execute_setMode, settingMode, meets.reached]
  simp only [meets.there]
  rfl

lemma writeBytes (content : ByteArray) : (writeBytes destination content).execute w =
      (.ok (), w.withFile place { old with content, age := 0 }) := by
  rw [execute_writeBytes, writing, meets.reached]
  simp only [meets.there]
  rfl

lemma touch : (Job.touch destination).execute w = (.ok (), w.withFile place { old with age := 0 }) := by
  rw [Job.touch, Job.bind_ok (Job.execute_nodeAt? _ w), meets.nodeAt?]
  exact meets.writeBytes old.content

lemma writeText_encodable (enc : encodable text = true) : (writeText destination text).execute w =
      (.ok (), w.withFile place { old with content := text.toUTF8, age := 0 }) := by
  rw [writeText, if_pos enc]
  exact meets.writeBytes _

lemma writeText_unencodable (unencodable : ¬ encodable text = true) : (writeText destination text).execute w =
      (.error .unencodable, w.withFile place { old with content := ByteArray.empty, age := 0 }) := by
  rw [writeText, if_neg unencodable, bind_ok (meets.writeBytes _)]
  rfl

lemma replaced_twice (first second : FileNode) : Replaced w place second ((w.withFile place first).withFile place second) :=
  ⟨rfl, withFile_withFile meets.there second⟩

lemma writeMerged (merged text : String) : ∃ result file,
      (if merged ≠ text then writeText destination merged else Job.touch destination).execute w =
        (result, w.withFile place file) /\ (∀ bytes, (if merged = text then some old.content
          else if encodable merged then some merged.toUTF8 else none) = some bytes ->
        result = .ok () /\ file.content = bytes /\ file.mode = old.mode) /\ ((if merged = text then some old.content
          else if encodable merged then some merged.toUTF8 else none) = none -> ∃ err, result = .error err) := by
  by_cases same : merged = text
  · rw [if_neg (not_not_intro same), if_pos same]
    refine ⟨_, _, meets.touch, ?_, nofun⟩
    rintro bytes ⟨⟩
    exact ⟨rfl, rfl, rfl⟩
  · rw [if_pos same, if_neg same]
    split
    next enc =>
      refine ⟨_, _, meets.writeText_encodable enc, ?_, nofun⟩
      rintro bytes ⟨⟩
      exact ⟨rfl, rfl, rfl⟩
    next enc =>
      exact ⟨_, _, meets.writeText_unencodable enc, nofun, fun _ => ⟨_, rfl⟩⟩

lemma mergeFile (merge : Merge) : ∃ result next file, (Transfer.mergeFile source destination merge).execute w = (result, next) /\
      Replaced w place file next /\ Meets next source destination origin place new file /\
      (∀ bytes, Merge.mergedBytes? merge destination new.content old.content = some bytes ->
        result = .ok () /\ file.content = bytes /\ file.mode = new.mode) /\
      (Merge.mergedBytes? merge destination new.content old.content = none -> ∃ err, result = .error err) := by
  have readNew := execute_readText meets.located meets.found
  have readOld := execute_readText meets.reached meets.there
  rw [Transfer.mergeFile]
  cases source? : Merge.decoded? new.content with
  | none =>
    rw [source?] at readNew
    refine ⟨_, w, old, bind_error readNew, meets.replaced_self, meets, ?_, ?_⟩
    · simp [Merge.mergedBytes?, source?]
    · exact fun _ => ⟨_, rfl⟩
  | some sourceText =>
    rw [source?] at readNew
    rw [bind_ok readNew]
    cases destination? : Merge.decoded? old.content with
    | none =>
      rw [destination?] at readOld
      refine ⟨_, w, old, bind_error readOld, meets.replaced_self, meets, ?_, ?_⟩
      · simp [Merge.mergedBytes?, destination?]
      · exact fun _ => ⟨_, rfl⟩
    | some destinationText =>
      rw [destination?] at readOld
      rw [bind_ok readOld]
      have answered := execute_ofExcept (merge sourceText destinationText destination) w
      cases merges : merge sourceText destinationText destination with
      | error err =>
        rw [merges] at answered
        refine ⟨_, w, old, bind_error answered, meets.replaced_self, meets, ?_, ?_⟩
        · simp [Merge.mergedBytes?, source?, destination?, merges]
        · exact fun _ => ⟨_, rfl⟩
      | ok merged =>
        rw [merges] at answered
        rw [bind_ok answered, bind_ok (execute_modeOf meets.located meets.found), bind_ok (meets.setMode new.mode)]
        have onward := meets.withFile { old with mode := new.mode }
        obtain ⟨result, file, ran, wrote, failed⟩ := onward.writeMerged merged destinationText
        refine ⟨result, _, file, ran, meets.replaced_twice _ file, onward.withFile file, ?_, ?_⟩
        · simpa [Merge.mergedBytes?, source?, destination?, merges] using wrote
        · simpa [Merge.mergedBytes?, source?, destination?, merges] using failed

end Meets

def arriving (merge : Option Merge) (path : Path) (new old : ByteArray) : ByteArray :=
  match merge with
  | none => new
  | some merge => merge.outcome path new old

/-- A merge that has nothing left to do on its own results, or none. -/
def Steadies (merge : Option Merge) : Prop :=
  ∀ used, merge = some used -> used.Settles

lemma Steadies.arriving_self (steadies : Steadies merge) (path : Path) (new : ByteArray) : arriving merge path new new = new := by
  cases merge with
  | none => rfl
  | some used => exact (steadies used rfl).outcome_self

lemma Steadies.arriving_arriving (steadies : Steadies merge) (path : Path) (new old : ByteArray) :
    arriving merge path new (arriving merge path new old) = arriving merge path new old := by
  cases merge with
  | none => rfl
  | some used => exact (steadies used rfl).outcome_outcome

lemma Meets.placeFile (meets : Meets w source destination origin place new old) (merge : Option Merge) :
    ∃ tree file, (Transfer.placeFile source destination merge).execute w = (.ok (), { w with tree := tree }) /\
      Tree.PutAt w.tree place file tree /\ file.mode = new.mode /\
      file.content = arriving merge destination new.content old.content /\ (merge = none -> file = new) := by
  cases merge with
  | none =>
    obtain ⟨tree, copied, put⟩ := meets.copyFile
    exact ⟨tree, new, copied, put, rfl, rfl, fun _ => rfl⟩
  | some merge =>
    have isFile : (isFile destination).execute w = (.ok true, w) := by
      rw [execute_isFile, meets.nodeAt?]
      rfl
    obtain ⟨result, next, file, ran, replaced, onward, merged, failed⟩ := meets.mergeFile merge
    rw [Transfer.placeFile, Job.bind_ok isFile, if_pos rfl, Job.bind_ok (execute_attempt _ w), ran, arriving, Merge.outcome]
    cases bytes? : Merge.mergedBytes? merge destination new.content old.content with
    | some bytes =>
      obtain ⟨rfl, content, mode⟩ := merged bytes bytes?
      refine ⟨next.tree, file, ?_, replaced.put, mode, content, by simp⟩
      rw [<- replaced.frame]
      rfl
    | none =>
      obtain ⟨err, rfl⟩ := failed bytes?
      obtain ⟨tree, copied, put⟩ := onward.copyFile
      refine ⟨tree, new, ?_, replaced.put.again put, rfl, rfl, by simp⟩
      rw [copied, replaced.frame]

/-! ## Where no file is -/

lemma execute_placeFile_of_not_file (merge : Option Merge)
    (notFile : ((w.nodeAt? destination).map Node.isFile).getD false = false) :
    (placeFile source destination merge).execute w = (copyFile source destination).execute w := by
  cases merge with
  | none => rfl
  | some merge =>
    rw [placeFile, bind_ok (execute_isFile _ w), notFile]
    rfl

lemma execute_placeFile_new (merge : Option Merge) (sound : w.Sound)
    (located : w.placeOf source true = .ok origin) (found : w.tree.get? origin = some (.file new))
    (reached : w.placeOf destination true = .ok place) (absent : w.tree.get? place = none) :
    ∃ tree, (placeFile source destination merge).execute w = (.ok (), { w with tree := tree }) /\
      Tree.PutAt w.tree place new tree := by
  have apart : place ≠ origin := by
    rintro rfl
    rw [found] at absent
    cases absent
  rw [execute_placeFile_of_not_file merge]
  · exact execute_copyFile_located sound located found reached apart (.inl absent)
  · rw [nodeAt?_of_placeOf reached, absent]
    rfl

structure Inside (w : Workspace) (source destination : Path) (origin inner : Place) (new : FileNode) :
    Prop where
  sound : w.Sound
  located : w.placeOf source true = .ok origin
  found : w.tree.get? origin = some (.file new)
  standing : w.isDirectory destination = true
  reached : w.placeOf (join destination (PathText.base source)) true = .ok inner
  noLink : ∀ target, w.tree.get? inner ≠ some (.link target)

namespace Inside

variable {inner : Place}

lemma of_leads (leads : Job.LeadsTo w destination place) (sound : w.Sound)
    (located : w.placeOf source true = .ok origin) (found : w.tree.get? origin = some (.file new))
    (plain : IsPlain name) (named : PathText.base source = name)
    (noLink : ∀ target, w.tree.get? (place ++ [name]) ≠ some (.link target)) :
    Inside w source destination origin (place ++ [name]) new := by
  refine ⟨sound, located, found, leads.isDirectory, ?_, noLink⟩
  have path := Path.pathOf_join leads.proper plain.1
  rw [named, Workspace.placeOf_eq_ok_iff, path]
  refine ⟨fun empty => ?_, leads.locate_child sound plain true noLink⟩
  rw [empty] at path
  have names := congrArg Path.names path
  simp [Path.child, pathOf, Path.ofString, Path.namesOf, Text.split, splitFrom] at names

variable (inside : Inside w source destination origin inner new)
include inside

lemma notFile : ((w.nodeAt? destination).map Node.isFile).getD false = false := by
  rw [isDirectory_eq_true_iff.mp inside.standing]
  rfl

lemma placeFile (merge : Option Merge) (apart : inner ≠ origin) (clear : w.tree.get? inner ≠ some .directory) :
    ∃ tree, (Transfer.placeFile source destination merge).execute w = (.ok (), { w with tree := tree }) /\
      Tree.PutAt w.tree inner new tree := by
  have free : w.tree.get? inner = none \/ ∃ old, w.tree.get? inner = some (.file old) := by
    cases there : w.tree.get? inner with
    | none => exact .inl rfl
    | some node =>
      cases node with
      | file old => exact .inr ⟨old, rfl⟩
      | directory => exact absurd there clear
      | link target => exact absurd there (inside.noLink target)
  have notDirectory : w.isDirectory (join destination (PathText.base source)) = false := by
    rwa [<- Bool.not_eq_true, isDirectory_eq_true_iff, nodeAt?_of_placeOf inside.reached]
  rw [execute_placeFile_of_not_file merge inside.notFile, execute_copyFile_into inside.standing notDirectory]
  exact execute_copyFile_located inside.sound inside.located inside.found inside.reached apart free

lemma placeFile_refused (merge : Option Merge) (standing : w.tree.get? inner = some .directory) :
    (Transfer.placeFile source destination merge).execute w =
      (.error (.isDirectory (join destination (PathText.base source))), w) := by
  rw [execute_placeFile_of_not_file merge inside.notFile]
  exact execute_copyFile_refused inside.standing inside.located inside.found inside.reached standing

end Inside

/-! ## The two places where files are merged -/

lemma Meets.isDirectory (meets : Meets w source destination origin place new old) : w.isDirectory source = false := by
  rw [<- Bool.not_eq_true, isDirectory_eq_true_iff, nodeAt?_of_placeOf meets.located, meets.found]
  simp

end Transfer
end Refinery
