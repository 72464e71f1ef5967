import Refinery.Proofs.Transfer.Carrying

namespace Refinery

open List Job Workspace Refinery.Tree

/-!
# Moving twice

A file that was carried is carried again to where it is, and what was in the way of a file is in its way
again.  So the second run changes nothing but the age of files.
-/

/-! ## Trees that differ in ages -/

def Node.ageless : Node -> Node
  | .file stored => .file { stored with age := 0 }
  | node => node

/-- The trees have the same nodes, with the same bytes and permission bits. -/
def Tree.SameButAge (first second : Tree) : Prop :=
  ∀ place, (first.get? place).map Node.ageless = (second.get? place).map Node.ageless

lemma Tree.SameButAge.refl (tree : Tree) : SameButAge tree tree :=
  fun _ => rfl

namespace Transfer

variable {w now once twice : Workspace} {src dest : Path} {home : Place} {aim : Aim}
  {merge : Option Merge} {stop : Stop} {new : FileNode} {start : List String} {target : String}
  {done : Stop -> Prop}

/-! ## The second run -/

section

variable (errand : Errand w src home dest aim)
  (carried : Carried w src home dest aim merge done once)
include errand carried

lemma Errand.next : Errand once src home dest aim where
  sound := carried.sound
  leads := (carried.bound errand.bound).leads
  named := errand.named
  linkFree rest target := by
    rw [errand.get?_home carried]
    exact errand.linkFree rest target
  names := errand.names
  anchored := (carried.bound errand.bound).anchored
  plain := errand.plain
  free start inside target linked := by
    by_cases put : ∃ stop, done stop /\ aim.base ++ start = slot w.tree (aim.goal ++ stop.names) stop.2
    · rcases put with ⟨stop, isDone, here⟩
      obtain ⟨new, found⟩ := (carried.free stop isDone).file
      obtain ⟨file, there, _⟩ := carried.put stop new isDone found
      rw [<- here, linked] at there
      cases there
    · by_cases paved : Paved w aim done (aim.base ++ start)
      · cases linked.symm.trans (carried.made _ paved)
      · rw [carried.kept _ paved fun stop isDone same => put ⟨stop, isDone, same⟩] at linked
        exact errand.free start inside target linked
  apart rest file found := by
    rw [errand.get?_home carried] at found
    exact errand.apart rest file found

lemma Errand.sameButAge (steadies : Steadies merge) (again : Carried once src home dest aim merge done twice) :
    SameButAge once.tree twice.tree := by
  intro place
  by_cases put : ∃ stop, done stop /\ place = slot w.tree (aim.goal ++ stop.names) stop.2
  · rcases put with ⟨stop, isDone, rfl⟩
    obtain ⟨new, found⟩ := (carried.free stop isDone).file
    obtain ⟨file, there, mode, content, -⟩ := carried.put stop new isDone found
    obtain ⟨file', thereAgain, mode', content', -⟩ := again.put stop new isDone (carried.get?_source found)
    rw [carried.slot_eq errand.sound found] at thereAgain
    rw [carried.landing_eq errand.sound found steadies] at content'
    rw [there, thereAgain]
    simp [Node.ageless, mode, mode', content, content']
  · rw [again.kept]
    · rintro ⟨absent, stop, isDone, early⟩
      by_cases before : w.tree.get? place = none
      · cases absent.symm.trans (carried.made place ⟨before, stop, isDone, early⟩)
      · rcases Option.ne_none_iff_exists'.mp before with ⟨node, found⟩
        obtain ⟨other, there, _⟩ := carried.grows place node found
        cases absent.symm.trans there
    · intro stop isDone
      obtain ⟨new, found⟩ := (carried.free stop isDone).file
      rw [carried.slot_eq errand.sound found]
      exact fun here => put ⟨stop, isDone, here⟩

end

lemma Errand.run_twice (errand : Errand w src home dest aim) (steadies : Steadies merge) :
    let run := (itinerary w.tree home (w.tree.size + 1000) []).foldlM (carry src dest [] merge) false
    ∃ done outcome once twice, run.execute w = (outcome, once) /\ run.execute once = (outcome, twice) /\
      Carried w src home dest aim merge done once /\ SameButAge once.tree twice.tree := by
  intro run
  have trip := errand.trip steadies
  obtain ⟨early, late, outcome, once, parts, ran, carried, ended⟩ := trip.run trip.files trip.nothing false
  have next := errand.next carried
  have tripAgain := next.trip steadies
  have files : ∀ stop ∈ early, ∃ new, once.tree.get? (home ++ stop.names) = some (.file new) := by
    intro stop mem
    obtain ⟨new, found⟩ := trip.files stop (parts ▸ mem_append_left late mem)
    exact ⟨new, carried.get?_source found⟩
  obtain ⟨front, back, outcome', twice, parts', again, carriedAgain, endedAgain⟩ := tripAgain.run files tripAgain.nothing false
  have whole : back = [] /\ outcome' = .ok (false || early.any fun _ => true) := by
    rcases endedAgain with ⟨rfl, rfl⟩ | ⟨stop, rest, err, rfl, -, refused, -⟩
    · rw [parts', append_nil]
      exact ⟨rfl, rfl⟩
    · have mem : stop ∈ early := by simp [parts']
      have free := carried.free stop (.inr ⟨mem, rfl⟩)
      obtain ⟨new, found⟩ := free.file
      exact absurd refused (carried.takes errand.sound found free.takes).not_refused
  obtain ⟨rfl, rfl⟩ := whole
  rw [append_nil] at parts'
  subst parts'
  refine ⟨_, outcome, once, twice, ran, ?_, carried, errand.sameButAge carried steadies carriedAgain⟩
  dsimp only [run]
  rcases ended with ⟨rfl, rfl⟩ | ⟨stop, rest, err, rfl, -, refused, rfl⟩
  · rw [parts, append_nil, again]
    rfl
  · rcases trip.files stop (by simp [parts]) with ⟨new, found⟩
    rw [parts, foldlM_append, bind_ok again, foldlM_cons]
    exact bind_error (tripAgain.carry_refused (carried.get?_source found) carriedAgain next.bound
      (carried.refused errand.sound found refused) rfl _)

/-! ## Destinations -/

/-- A destination that lies at a place: some of its names lead to a directory, and the others go on from
there, past no link but such as lead to no directory.  Below the place no link is. -/
structure Aims (w : Workspace) (destination : Path) (aim : Aim) : Prop where
  names : destination.names = aim.upper ++ aim.missing
  anchored : LeadsTo w ⟨destination.anchor, aim.upper⟩ aim.base
  plain : ∀ name ∈ aim.missing, IsPlain name
  dead : ∀ start target, start <+: aim.missing -> w.tree.get? (aim.base ++ start) = some (.link target) ->
    w.isDirectory (Path.mk destination.anchor (aim.upper ++ start)) = false
  below : ∀ rest target, rest ≠ [] -> w.tree.get? (aim.goal ++ rest) ≠ some (.link target)

section

variable (aims : Aims w dest aim) (sound : w.Sound)
include aims sound

lemma Aims.execute_carry_dead (leads : LeadsTo w src home) (found : w.tree.get? (home ++ stop.names) = some (.file new))
    (early : start <+: aim.missing) (linked : w.tree.get? (aim.base ++ start) = some (.link target))
    (merge : Option Merge) (copied : Bool) : ∃ err, (carry src dest [] merge copied stop).execute w = (.error err, w) := by
  obtain ⟨rest, parts⟩ := early
  rcases eq_nil_or_concat start with empty | ⟨front, first, whole⟩
  · rw [empty, append_nil, aims.anchored.standing] at linked
    cases linked
  · rw [concat_eq_append] at whole
    subst whole
    rw [<- append_assoc] at linked
    have inDirectory := sound.tree.way [first] (by simp) linked
    have leadsFront := aims.anchored.below sound inDirectory
    have missing : aim.missing = front ++ first :: rest := by
      rw [<- parts, append_assoc]
      rfl
    have plain : ∀ name ∈ first :: (rest ++ stop.1), IsPlain name := by
      intro name mem
      rcases mem_append.mp (cons_append ▸ mem) with inside | later
      · exact aims.plain name (missing ▸ mem_append_right front inside)
      · exact sound.tree.isPlain found name (by simp [Stop.names, later])
    have notDirectory := aims.dead (front ++ [first]) target ⟨rest, parts⟩ (by rwa [<- append_assoc])
    rw [<- append_assoc] at notDirectory
    obtain ⟨err, blocked⟩ := leadsFront.execute_blocked_link sound plain linked notDirectory
    have names : aim.upper ++ front ++ first :: (rest ++ stop.1) = dest.names ++ stop.1 := by
      rw [aims.names, missing]
      simp
    rw [names] at blocked
    have decided : (isExcluded [] ⟨src.anchor, src.names ++ stop.1⟩
        ⟨src.anchor, src.names ++ stop.names⟩).execute w = (.ok false, w) := rfl
    refine ⟨err, (execute_carry leads sound found decided copied).trans ?_⟩
    exact bind_error (bind_error blocked)

lemma Aims.execute_move_dead (literal : src.Literal) (leads : LeadsTo w src home)
    (linkFree : ∀ rest target, w.tree.get? (home ++ rest) ≠ some (.link target)) (early : start <+: aim.missing)
    (linked : w.tree.get? (aim.base ++ start) = some (.link target)) (merge : Option Merge) : ∃ answer,
      (move (.many [.path src]) (some dest) .nothing merge).execute w = (answer, w) := by
  have steady : ∀ now, now = w -> Steady w src home now := by
    rintro now rfl
    exact .of_same sound leads literal.named (fun _ => rfl) linkFree
  have stopped : ∀ stop new, w.tree.get? (home ++ stop.names) = some (.file new) -> ∀ copied, ∃ err,
        (carry src dest [] merge copied stop).execute w = (.error err, w) :=
    fun stop new found => aims.execute_carry_dead sound leads found early linked merge
  have keeps : ∀ stop file, w.tree.get? (home ++ stop.names) = some (.file file) -> ∀ copied now answer next, now = w ->
        (carry src dest [] merge copied stop).execute now = (.ok answer, next) -> next = w := by
    rintro stop new found copied now answer next rfl ran
    obtain ⟨err, refused⟩ := stopped stop new found copied
    rw [refused] at ran
    cases ran
  have walked := Steady.execute_copyDirectory sound steady keeps leads.standing (fun _ => rfl) rfl
  rw [execute_move_leads sound literal leads dest rfl rfl merge, noting_nil, walked]
  rcases stops : itinerary w.tree home (w.tree.size + 1000) [] with _ | ⟨stop, rest⟩
  · exact ⟨.ok false, rfl⟩
  · have mem : stop ∈ itinerary w.tree home (w.tree.size + 1000) [] := by
      rw [stops]
      exact mem_cons_self
    obtain ⟨new, found⟩ := files_itinerary sound.tree linkFree mem
    obtain ⟨err, refused⟩ := stopped stop new found false
    rw [foldlM_cons, bind_error refused]
    exact ⟨_, rfl⟩

lemma Aims.errand (literal : src.Literal) (leads : LeadsTo w src home)
    (linkFree : ∀ rest target, w.tree.get? (home ++ rest) ≠ some (.link target))
    (apart : ¬ home <+: aim.goal /\ ¬ aim.goal <+: home) (free : ∀ start target, start <+: aim.missing ->
      w.tree.get? (aim.base ++ start) ≠ some (.link target)) : Errand w src home dest aim where
  sound := sound
  leads := leads
  named := literal.named
  linkFree := linkFree
  names := aims.names
  anchored := aims.anchored
  plain := aims.plain
  free := by
    rintro start (early | ⟨rest, rfl⟩) target
    · exact free start target early
    · by_cases last : rest = []
      · rw [last, append_nil]
        exact free _ target (prefix_refl _)
      · rw [<- goal_append]
        exact aims.below rest target last
  apart := by
    intro rest file _ early
    rcases prefix_or_prefix_of_prefix early (prefix_append aim.goal rest) with inside | outside
    · exact apart.1 inside
    · exact apart.2 outside

end

/-- The merges in use, and no merge. -/
def InUse (merge : Option Merge) : Prop :=
  merge = none \/ merge = some Merge.gem \/ merge = some Merge.year \/ ∃ patterns, merge = some (Merge.keepMatching patterns)

lemma InUse.steadies (inUse : InUse merge) : Steadies merge := by
  intro used same
  rcases inUse with rfl | rfl | rfl | ⟨patterns, rfl⟩
  · cases same
  · cases same
    exact Merge.settles_gem
  · cases same
    exact Merge.settles_year
  · cases same
    exact Merge.settles_keepMatching patterns

/-- **Moving again changes nothing.**  For a directory without links, a destination apart from it that no link
is below, no exclusions, and no merge or one in use, a second move answers as the first did, and leaves every
node with its bytes and permission bits.  Neither has to end well, and the destination may be new. -/
theorem move_twice (w : Workspace) (source destination : Path) (home : Place) (aim : Aim)
    (merge : Option Merge) (sound : w.Sound) (literal : source.Literal) (leads : LeadsTo w source home)
    (linkFree : ∀ rest target, w.tree.get? (home ++ rest) ≠ some (.link target))
    (aims : Aims w destination aim) (apart : ¬ home <+: aim.goal /\ ¬ aim.goal <+: home) (inUse : InUse merge) :
    ∃ answer once twice,
      (move (.many [.path source]) (some destination) .nothing merge).execute w = (answer, once) /\
      (move (.many [.path source]) (some destination) .nothing merge).execute once = (answer, twice) /\
      SameButAge once.tree twice.tree := by
  by_cases dead : ∃ start target, start <+: aim.missing /\ w.tree.get? (aim.base ++ start) = some (.link target)
  · -- The first move changes nothing, so the second is the same.
    rcases dead with ⟨start, target, early, linked⟩
    rcases aims.execute_move_dead sound literal leads linkFree early linked merge with ⟨answer, moved⟩
    exact ⟨answer, w, w, moved, moved, SameButAge.refl w.tree⟩
  · have free : ∀ start target, start <+: aim.missing -> w.tree.get? (aim.base ++ start) ≠ some (.link target) :=
      fun start target early linked => dead ⟨start, target, early, linked⟩
    have errand := aims.errand sound literal leads linkFree apart free
    rcases errand.run_twice inUse.steadies with ⟨done, answer, once, twice, first, second, carried, same⟩
    refine ⟨answer, once, twice, ?_, ?_, same⟩
    · rw [errand.execute_move (errand.trip inUse.steadies).nothing literal inUse.steadies, first]
    · rw [errand.execute_move carried literal inUse.steadies, second]

def renewed : Workspace where
  tree := ⟨[(["w"], .directory), (["w", "s"], .directory),
    (["w", "s", "a.rb"], .file { content := "# Copyright 2023 Google LLC\n".toUTF8, mode := 0o755 }),
    (["w", "s", "b.bin"], .file { content := ⟨#[255]⟩ }),
    (["w", "s", "docs"], .directory), (["w", "s", "docs", "c.md"], .file { content := "1".toUTF8 }),
    (["w", "out"], .directory),
    (["w", "out", "a.rb"], .file { content := "# Copyright 2019 Google LLC\r\n".toUTF8 }),
    (["w", "out", "b.bin"], .file { content := "2".toUTF8 })]⟩
  directory := ["w"]

lemma aims_renewed : Aims renewed ⟨.relative, ["out"]⟩ ⟨["out"], ["w", "out"], []⟩ := by
  have linkFree : ∀ rest target, renewed.tree.get? (["w", "out"] ++ rest) ≠ some (.link target) := by
    intro rest target linked
    have mem := mem_entries_of_get? (by simp) linked
    simp [renewed] at mem
  refine ⟨rfl, ⟨by decide, by decide, by decide⟩, by simp, ?_, ?_⟩
  · intro start target _ linked
    exact absurd linked (linkFree start target)
  · intro rest target _ linked
    exact linkFree rest target linked

/-- A directory is moved twice to where some of its files are. -/
theorem renewed_twice : renewed.Sound /\ Path.Literal ⟨.relative, ["s"]⟩ /\ LeadsTo renewed ⟨.relative, ["s"]⟩ ["w", "s"] /\
      (∀ rest target, renewed.tree.get? (["w", "s"] ++ rest) ≠ some (.link target)) /\
      Aims renewed ⟨.relative, ["out"]⟩ ⟨["out"], ["w", "out"], []⟩ /\ InUse (some Merge.gem) /\ ∃ answer once twice,
        (move (.many [.path ⟨.relative, ["s"]⟩]) (some ⟨.relative, ["out"]⟩) .nothing
          (some Merge.gem)).execute renewed = (answer, once) /\
        (move (.many [.path ⟨.relative, ["s"]⟩]) (some ⟨.relative, ["out"]⟩) .nothing
          (some Merge.gem)).execute once = (answer, twice) /\ SameButAge once.tree twice.tree := by
  have sound : renewed.Sound := by decide
  have literal : Path.Literal ⟨.relative, ["s"]⟩ := by decide
  have leads : LeadsTo renewed ⟨.relative, ["s"]⟩ ["w", "s"] := ⟨by decide, by decide, by decide⟩
  have linkFree : ∀ rest target, renewed.tree.get? (["w", "s"] ++ rest) ≠ some (.link target) := by
    intro rest target linked
    have member := mem_entries_of_get? (by simp) linked
    simp [renewed] at member
  have apart : ¬ ["w", "s"] <+: ["w", "out"] ++ [] /\ ¬ ["w", "out"] ++ [] <+: ["w", "s"] := by decide
  exact ⟨sound, literal, leads, linkFree, aims_renewed, .inr (.inl rfl),
    move_twice renewed ⟨.relative, ["s"]⟩ ⟨.relative, ["out"]⟩ ["w", "s"] ⟨["out"], ["w", "out"], []⟩
      (some Merge.gem) sound literal leads linkFree aims_renewed apart (.inr (.inl rfl))⟩

def crossed : Workspace where
  tree := ⟨[(["w"], .directory), (["w", "s"], .directory), (["w", "s", "version.rb"], .file { content := "x = 1\n".toUTF8 }),
    (["w", "s", "z.rb"], .file { content := "# Copyright 2023 Google LLC\n".toUTF8 }),
    (["w", "out"], .directory), (["w", "out", "version.rb"], .link "z.rb"),
    (["w", "out", "z.rb"], .file
      { content := "# Copyright 2019 Google LLC\n  VERSION = \"1.0\"\n".toUTF8 })]⟩
  directory := ["w"]

def crossedOver (w : Workspace) : Workspace :=
  ((move (.many [.path ⟨.relative, ["s"]⟩]) (some ⟨.relative, ["out"]⟩) .nothing (some Merge.gem)).execute w).2

set_option maxRecDepth 100000 in
/-- Over a link two files come to one place, and the second move finds there what the first did not. -/
theorem crossed_unsettled : crossed.Sound /\ Path.Literal ⟨.relative, ["s"]⟩ /\ crossed.tree.get? ["w", "out"] = some .directory /\
      (∀ rest target, crossed.tree.get? (["w", "s"] ++ rest) ≠ some (.link target)) /\
      (crossedOver crossed).textAt ["w", "out", "z.rb"] = some "# Copyright 2019 Google LLC\n" /\
      (crossedOver (crossedOver crossed)).textAt ["w", "out", "z.rb"] = some "# Copyright 2023 Google LLC\n" := by
  refine ⟨by decide, by decide, by decide, ?_, by decide +kernel, by decide +kernel⟩
  intro rest target linked
  have member := mem_entries_of_get? (by simp) linked
  simp [crossed] at member

end Transfer
end Refinery
