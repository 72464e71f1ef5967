import Refinery.Proofs.Transfer.Carrying

namespace Refinery

open List Job Workspace

/-!
# Files that a merge keeps

A merge may keep the files whose paths match a pattern.  It is asked only where a file comes to a file and
both can be read as text; otherwise the new file is copied.
-/

namespace Merge

variable {patterns : List String} {path : Path} {pattern : String}

def Spares (patterns : List String) (path : Path) : Prop :=
  ∃ before pattern after, patterns = before ++ pattern :: after /\ (∀ each ∈ before, path.matches? each = some false) /\
    path.matches? pattern = some true

lemma keepMatching_of_spares (spares : Spares patterns path) (src dest : String) :
    keepMatching patterns src dest path = .ok dest := by
  obtain ⟨before, pattern, after, rfl, missed, hit⟩ := spares
  induction before with
  | nil => simp only [nil_append, keepMatching, hit]
  | cons first rest ih =>
    simp only [cons_append, keepMatching, missed first mem_cons_self]
    exact ih fun each mem => missed each (mem_cons_of_mem first mem)

lemma keepMatching_of_matched (mem : pattern ∈ patterns)
    (hit : path.matches? pattern = some true) (unspared : ¬ Spares patterns path) (src dest : String) :
    ∃ err, keepMatching patterns src dest path = .error err := by
  induction patterns with
  | nil => cases mem
  | cons first rest ih =>
    cases answer : path.matches? first with
    | none => exact ⟨.badValue, by simp only [keepMatching, answer]⟩
    | some matched =>
      cases matched with
      | true => exact absurd ⟨[], first, rest, rfl, by simp, answer⟩ unspared
      | false =>
        have later : pattern ∈ rest := by
          refine (mem_cons.mp mem).resolve_left ?_
          rintro rfl
          rw [hit] at answer
          cases answer
        have unsparedRest : ¬ Spares rest path := by
          rintro ⟨before, found, after, rfl, missed, matches_⟩
          refine unspared ⟨first :: before, found, after, rfl, ?_, matches_⟩
          intro each inside
          rcases mem_cons.mp inside with rfl | others
          · exact answer
          · exact missed each others
        simp only [keepMatching, answer]
        exact ih later unsparedRest

def Keeps (patterns : List String) (path : Path) (new old : ByteArray) : Prop :=
  Spares patterns path /\ (decoded? new).isSome /\ (decoded? old).isSome

lemma outcome_of_keeps {new old : ByteArray} (keeps : Keeps patterns path new old) :
    outcome (keepMatching patterns) path new old = old := by
  obtain ⟨spares, readNew, readOld⟩ := keeps
  obtain ⟨src, decodedNew⟩ := Option.isSome_iff_exists.mp readNew
  obtain ⟨dest, decodedOld⟩ := Option.isSome_iff_exists.mp readOld
  exact outcome_of_merged decodedNew decodedOld (keepMatching_of_spares spares src dest)

lemma outcome_of_matched {new old : ByteArray} (mem : pattern ∈ patterns)
    (hit : path.matches? pattern = some true) (lost : ¬ Keeps patterns path new old) :
    outcome (keepMatching patterns) path new old = new := by
  cases readNew : decoded? new with
  | none => simp [outcome, mergedBytes?, readNew]
  | some src =>
    cases readOld : decoded? old with
    | none => simp [outcome, mergedBytes?, readNew, readOld]
    | some dest =>
      have unspared : ¬ Spares patterns path := by
        intro spares
        exact lost ⟨spares, by rw [readNew]; rfl, by rw [readOld]; rfl⟩
      obtain ⟨err, merges⟩ := keepMatching_of_matched mem hit unspared src dest
      simp [outcome, mergedBytes?, readNew, readOld, merges]

end Merge

namespace Transfer

variable {w now : Workspace} {src dest : Path} {home : Place} {aim : Aim}
  {merge : Option Merge} {stop other : Stop} {new : FileNode} {tree after : Tree} {done : List Stop}

/-! ## What comes where -/

def Comes (w : Workspace) (home : Place) (destination : Path) (aim : Aim) (path : Path) (place : Place)
    (asked : Bool) (new : FileNode) : Prop :=
  ∃ stop : Stop, w.tree.get? (home ++ stop.names) = some (.file new) /\ place = slot w.tree (aim.goal ++ stop.names) stop.2 /\
    asked = !isDirectoryAt w.tree (aim.goal ++ stop.names) /\
    path = if asked then (Path.mk destination.anchor (destination.names ++ stop.1)).child stop.2
      else ((Path.mk destination.anchor (destination.names ++ stop.1)).child stop.2).child stop.2

/-- The ways in which a source is sent to a destination, with what comes to which path and whether a merge is
asked: a directory, a file onto a file, or a file into a directory. -/
inductive Sent (w : Workspace) (source destination : Path) :
    (Path -> Place -> Bool -> FileNode -> Prop) -> Prop
  | directory {home : Place} {aim : Aim} (errand : Errand w source home destination aim) :
      Sent w source destination (Comes w home destination aim)
  | onto {origin goal : Place} {new old : FileNode}
      (meets : Meets w source destination origin goal new old) :
      Sent w source destination fun path place asked file =>
        path = destination /\ place = goal /\ asked = true /\ file = new
  | into {origin inner : Place} {new : FileNode}
      (inside : Inside w source destination origin inner new) (apart : inner ≠ origin)
      (clear : w.tree.get? inner ≠ some .directory) :
      Sent w source destination fun path place asked file =>
        path = destination.child (PathText.base source) /\ place = inner /\ asked = false /\ file = new

/-- What becomes of a file that was there: it has its bytes if every file that comes to it is one that the
merge keeps it from, and once all have come, the bytes of one that its path matches and that does not. -/
structure Fate (patterns : List String) (comes : Path -> Place -> Bool -> FileNode -> Prop)
    (place : Place) (old : FileNode) (answer : Except Failure Bool) (file : FileNode) : Prop where
  kept : (∀ path asked new, comes path place asked new -> asked = true /\ Merge.Keeps patterns path new.content old.content) ->
    file.content = old.content
  copied : ∀ path asked new, comes path place asked new -> (∃ pattern, pattern ∈ patterns /\ path.matches? pattern = some true) ->
    ¬ (asked = true /\ Merge.Keeps patterns path new.content old.content) ->
    (∃ done, answer = .ok done) -> file.content = new.content

lemma execute_move_file (sound : w.Sound) (literal : src.Literal) {origin : Place}
    (loc : w.placeOf src true = .ok origin) (found : w.tree.get? origin = some (.file new))
    (dest : Path) (merge : Option Merge) : (move (.many [.path src]) (some dest) .nothing merge).execute w =
      (placeFile src dest merge >>= fun _ => pure true).execute w := by
  have node := nodeAt?_of_placeOf loc
  have given : Given w src := by
    refine ⟨literal, ?_⟩
    rw [<- nodeAt?_toString literal.proper, node, found]
    rfl
  have notDirectory : w.isDirectory src = false := by
    rw [Workspace.isDirectory, node, found]
    rfl
  have looked : (exclusionsAt .nothing src).execute w = (.ok [], w) := rfl
  rw [execute_move_one sound given dest rfl looked merge, noting_nil, copyOne, bind_ok (execute_isDirectory _ w), notDirectory]
  rfl

section Kept

variable {patterns : List String} {place : Place} {old : FileNode}

lemma landing_kept (there : w.tree.get? (aim.goal ++ stop.names) = some (.file old)) :
    landing w.tree dest aim (some (Merge.keepMatching patterns)) stop new = (Merge.keepMatching patterns).outcome
        ((Path.mk dest.anchor (dest.names ++ stop.1)).child stop.2) new.content old.content := by
  rw [landing, there]
  rfl

lemma Errand.kept (errand : Errand w src home dest aim) (literal : src.Literal)
    (there : w.tree.get? place = some (.file old)) : ∃ answer after file, (move (.many [.path src]) (some dest) .nothing
        (some (Merge.keepMatching patterns))).execute w = (answer, after) /\
      after.tree.get? place = some (.file file) /\ Fate patterns (Comes w home dest aim) place old answer file := by
  have steadies : Steadies (some (Merge.keepMatching patterns)) := by
    intro used same
    cases same
    exact Merge.settles_keepMatching patterns
  have trip := errand.trip steadies
  obtain ⟨early, late, answer, after, parts, ran, carried, ended⟩ := trip.run trip.files trip.nothing false
  have moved := (errand.execute_move trip.nothing literal steadies).trans ran
  by_cases put : ∃ stop, stop ∈ early /\ place = slot w.tree (aim.goal ++ stop.names) stop.2
  · rcases put with ⟨stop, mem, here⟩
    obtain ⟨new, found⟩ := trip.files stop (parts ▸ mem_append_left late mem)
    rcases carried.put stop new (.inr ⟨mem, rfl⟩) found with ⟨file, thereAfter, -, content, -⟩
    refine ⟨answer, after, file, moved, here ▸ thereAfter, ⟨fun keeps => ?_, ?_⟩⟩
    · rcases keeps _ _ new ⟨stop, found, here, rfl, rfl⟩ with ⟨asked, kept⟩
      have direct : isDirectoryAt w.tree (aim.goal ++ stop.names) = false := by simpa using asked
      rw [slot, direct] at here
      rw [if_pos asked] at kept
      rw [content, landing_kept (by rw [<- there, here]; rfl), Merge.outcome_of_keeps kept]
    · rintro path asked otherNew ⟨other, otherFound, otherHere, rfl, rfl⟩ ⟨pattern, inside, hit⟩ lost -
      have same := eq_of_slot errand.sound.tree found otherFound (here.symm.trans otherHere)
      subst same
      cases found.symm.trans otherFound
      rw [content]
      by_cases standing : isDirectoryAt w.tree (aim.goal ++ stop.names) = true
      · rw [landing, isDirectoryAt_eq_true_iff.mp standing]
      · have direct : isDirectoryAt w.tree (aim.goal ++ stop.names) = false := by simpa using standing
        rw [slot, direct] at here
        rw [direct] at hit lost
        rw [landing_kept (by rw [<- there, here]; rfl)]
        exact Merge.outcome_of_matched inside hit fun kept => lost ⟨rfl, kept⟩
  · refine ⟨answer, after, old, moved, ?_, ⟨fun _ => rfl, ?_⟩⟩
    · rw [carried.kept, there]
      · rintro ⟨absent, _⟩
        cases there.symm.trans absent
      · rintro stop (nothing | ⟨mem, -⟩) here
        · exact nothing
        · exact put ⟨stop, mem, here⟩
    · rintro path asked new ⟨stop, found, here, rfl, rfl⟩ - - ⟨ok, rfl⟩
      rcases ended with ⟨rfl, -⟩ | ⟨_, _, _, _, _, _, failed⟩
      · have mem : stop ∈ itinerary w.tree home (w.tree.size + 1000) [] :=
          mem_itinerary_of_file errand.sound.tree found nil_prefix (by omega)
        rw [parts, append_nil] at mem
        exact absurd ⟨stop, mem, here⟩ put
      · cases failed

end Kept

/-- **Which files a merge that keeps matching files keeps.**  A file of the destination has its bytes in the
end if the merge is asked about it, the first pattern that tells matches its path, and both files can be read
as text.  Otherwise, although its path matches a pattern, it has the bytes of the new file once the move has
ended well.  A file that nothing comes to has its bytes always. -/
theorem move_keepMatching (w : Workspace) (source destination : Path) (patterns : List String)
    (comes : Path -> Place -> Bool -> FileNode -> Prop) (place : Place) (old : FileNode)
    (literal : source.Literal) (sent : Sent w source destination comes)
    (there : w.tree.get? place = some (.file old)) : ∃ answer after file,
      (move (.many [.path source]) (some destination) .nothing
        (some (Merge.keepMatching patterns))).execute w = (answer, after) /\
      after.tree.get? place = some (.file file) /\ Fate patterns comes place old answer file := by
  cases sent with
  | directory errand => exact errand.kept literal there
  | @onto origin goal new target meets =>
    rcases meets.placeFile (some (Merge.keepMatching patterns)) with ⟨tree, file, placed, put, -, content, -⟩
    have moved := (execute_move_file meets.sound literal meets.located meets.found destination
      (some (Merge.keepMatching patterns))).trans (Job.bind_ok placed)
    by_cases here : place = goal
    · subst here
      rw [meets.there] at there
      cases there
      refine ⟨_, _, file, moved, by rw [put, if_pos rfl], ⟨fun keeps => ?_, ?_⟩⟩
      · rw [content]
        exact Merge.outcome_of_keeps (keeps _ _ _ ⟨rfl, rfl, rfl, rfl⟩).2
      · rintro path asked new' ⟨rfl, _, rfl, rfl⟩ ⟨pattern, member, hit⟩ lost _
        rw [content]
        exact Merge.outcome_of_matched member hit fun kept => lost ⟨rfl, kept⟩
    · refine ⟨_, _, old, moved, by rw [put, if_neg here, there], ⟨fun _ => rfl, ?_⟩⟩
      rintro path asked new' ⟨_, equal, _⟩
      exact absurd equal here
  | @into origin inner new inside apart clear =>
    rcases inside.placeFile (some (Merge.keepMatching patterns)) apart clear with ⟨tree, placed, put⟩
    have moved := (execute_move_file inside.sound literal inside.located inside.found destination
      (some (Merge.keepMatching patterns))).trans (Job.bind_ok placed)
    by_cases here : place = inner
    · subst here
      refine ⟨_, _, new, moved, by rw [put, if_pos rfl], ⟨fun keeps => ?_, ?_⟩⟩
      · cases (keeps _ _ _ ⟨rfl, rfl, rfl, rfl⟩).1
      · rintro path asked new' ⟨_, _, _, rfl⟩ _ _ _
        rfl
    · refine ⟨_, _, old, moved, by rw [put, if_neg here, there], ⟨fun _ => rfl, ?_⟩⟩
      rintro path asked new' ⟨_, equal, _⟩
      exact absurd equal here

def guarded : Workspace where
  tree := ⟨[(["w"], .directory), (["w", "s"], .directory), (["w", "s", "a.txt"], .file { content := "1".toUTF8 }),
    (["w", "s", "b.txt"], .file { content := "2".toUTF8 }),
    (["w", "out"], .directory), (["w", "out", "a.txt"], .file { content := "0".toUTF8 })]⟩
  directory := ["w"]

lemma errand_guarded : Errand guarded ⟨.relative, ["s"]⟩ ["w", "s"] ⟨.relative, ["out"]⟩ ⟨["out"], ["w", "out"], []⟩ where
  sound := by decide
  leads := ⟨by decide, by decide, by decide⟩
  named := by decide
  linkFree rest target linked := by
    have mem := Tree.mem_entries_of_get? (by simp) linked
    simp [guarded] at mem
  names := rfl
  anchored := ⟨by decide, by decide, by decide⟩
  plain := by simp
  free start _ target linked := by
    have mem := Tree.mem_entries_of_get? (by simp) linked
    simp [guarded] at mem
  apart rest file _ := by simp [Aim.goal]

/-- The first file is moved to where it is kept. -/
theorem guarded_kept : Path.Literal ⟨.relative, ["s"]⟩ /\ Sent guarded ⟨.relative, ["s"]⟩ ⟨.relative, ["out"]⟩
        (Comes guarded ["w", "s"] ⟨.relative, ["out"]⟩ ⟨["out"], ["w", "out"], []⟩) /\
      guarded.tree.get? ["w", "out", "a.txt"] = some (.file { content := "0".toUTF8 }) /\ ∃ answer after file,
        (move (.many [.path ⟨.relative, ["s"]⟩]) (some ⟨.relative, ["out"]⟩) .nothing
          (some (Merge.keepMatching ["a.txt"]))).execute guarded = (answer, after) /\
        after.tree.get? ["w", "out", "a.txt"] = some (.file file) /\
        Fate ["a.txt"] (Comes guarded ["w", "s"] ⟨.relative, ["out"]⟩ ⟨["out"], ["w", "out"], []⟩)
          ["w", "out", "a.txt"] { content := "0".toUTF8 } answer file := by
  have literal : Path.Literal ⟨.relative, ["s"]⟩ := by decide
  exact ⟨literal, .directory errand_guarded, rfl,
    move_keepMatching guarded ⟨.relative, ["s"]⟩ ⟨.relative, ["out"]⟩ ["a.txt"] _ _ _ literal (.directory errand_guarded) rfl⟩

def unreadable : Workspace where
  tree := ⟨[(["w"], .directory), (["w", "s"], .directory), (["w", "s", "a.txt"], .file { content := "1".toUTF8 }),
    (["w", "out"], .directory), (["w", "out", "a.txt"], .file { content := ⟨#[255]⟩ })]⟩
  directory := ["w"]

/-- A path was moved with a merge that should keep the file. -/
def kept (w : Workspace) (names : List String) : Workspace :=
  ((move (.many [.path ⟨.relative, names⟩]) (some ⟨.relative, ["out"]⟩) .nothing (some (Merge.keepMatching ["a.txt"]))).execute w).2

set_option maxRecDepth 100000 in
/-- A file whose path matches is lost if it is no text, and also if the new file is moved into its
directory. -/
theorem matching_overwritten : (Path.mk .relative ["out", "a.txt"]).matches? "a.txt" = some true /\
      unreadable.textAt ["w", "out", "a.txt"] = none /\ (kept unreadable ["s"]).textAt ["w", "out", "a.txt"] = some "1" /\
      guarded.textAt ["w", "out", "a.txt"] = some "0" /\ (kept guarded ["s"]).textAt ["w", "out", "a.txt"] = some "0" /\
      (kept guarded ["s", "a.txt"]).textAt ["w", "out", "a.txt"] = some "1" := by
  decide +kernel

end Transfer
end Refinery
