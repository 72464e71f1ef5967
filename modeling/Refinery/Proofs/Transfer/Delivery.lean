import Refinery.Proofs.Transfer.Itinerary
import Refinery.Proofs.Transfer.Placing

namespace Refinery.Transfer

open List Job Workspace Refinery.Tree

/-!
# Carrying one file

Either something is in the way, and then nothing changes and the failure tells what it was; or directories are
made on the way and the file is put, merged with a file that is there, into a directory that is there, or
where nothing was.
-/

/-- Some names of a destination lead to a directory, and the others go on from there. -/
structure Aim where
  upper : List String
  base : Place
  missing : List String

/-- The place of the destination. -/
def Aim.goal (aim : Aim) : Place :=
  aim.base ++ aim.missing

def slot (tree : Tree) (place : Place) (name : String) : Place :=
  if isDirectoryAt tree place then place ++ [name] else place

/-- What is in the way of a file, and its failure: a file where a directory should be, or a directory that has
a directory by the name of the file. -/
inductive Refused (tree : Tree) (destination : Path) (aim : Aim) (stop : Stop) : Failure -> Prop
  | blocked {early rest : List String} {first : String} {file : FileNode}
      (parts : aim.missing ++ stop.1 = early ++ first :: rest)
      (there : tree.get? (aim.base ++ (early ++ [first])) = some (.file file)) :
      Refused tree destination aim stop (blockage ⟨destination.anchor, aim.upper ++ early⟩ first (fun _ => .throughFile) rest)
  | full (standing : tree.get? (aim.goal ++ stop.names) = some .directory)
      (inner : tree.get? (aim.goal ++ stop.names ++ [stop.2]) = some .directory) :
      Refused tree destination aim stop
        (.isDirectory (((Path.mk destination.anchor (destination.names ++ stop.1)).child stop.2).child stop.2))

def landing (tree : Tree) (destination : Path) (aim : Aim) (merge : Option Merge) (stop : Stop) (new : FileNode) : ByteArray :=
  match tree.get? (aim.goal ++ stop.names) with
  | some (.file old) =>
    arriving merge ((Path.mk destination.anchor (destination.names ++ stop.1)).child stop.2) new.content old.content
  | _ => new.content

variable {w now : Workspace} {src dest : Path} {home : Place} {aim : Aim} {merge : Option Merge}
  {stop : Stop} {new file : FileNode} {err : Failure} {tree : Tree}

lemma goal_append (aim : Aim) (rest : List String) : aim.goal ++ rest = aim.base ++ (aim.missing ++ rest) := by
  rw [Aim.goal, append_assoc]

lemma goal_names (aim : Aim) (stop : Stop) : aim.goal ++ stop.1 ++ [stop.2] = aim.goal ++ stop.names := by
  rw [Stop.names, append_assoc]

lemma slot_eq (tree : Tree) (place : Place) (name : String) : ∃ more, slot tree place name = place ++ more := by
  rw [slot]
  by_cases standing : isDirectoryAt tree place = true
  · exact ⟨[name], by rw [if_pos standing]⟩
  · exact ⟨[], by rw [if_neg standing, append_nil]⟩

lemma Steadies.arriving_landing (steadies : Steadies merge) :
    arriving merge ((Path.mk dest.anchor (dest.names ++ stop.1)).child stop.2) new.content
        (landing tree dest aim merge stop new) = landing tree dest aim merge stop new := by
  rw [landing]
  cases tree.get? (aim.goal ++ stop.names) with
  | none => exact steadies.arriving_self _ _
  | some node =>
    cases node with
    | file old => exact steadies.arriving_arriving _ _ _
    | directory => exact steadies.arriving_self _ _
    | link target => exact steadies.arriving_self _ _

lemma base_stop (src : Path) (isName : IsName stop.2) :
    PathText.base (Path.mk src.anchor (src.names ++ stop.names)) = stop.2 := by
  have child : Path.mk src.anchor (src.names ++ stop.names) = (Path.mk src.anchor (src.names ++ stop.1)).child stop.2 := by
    simp [Stop.names, Path.child]
  rw [child]
  exact Path.base_toString _ isName

/-! ## One file in any workspace -/

structure Bound (now : Workspace) (source : Path) (home : Place) (destination : Path) (aim : Aim) :
    Prop where
  sound : now.Sound
  leads : Job.LeadsTo now source home
  names : destination.names = aim.upper ++ aim.missing
  anchored : Job.LeadsTo now ⟨destination.anchor, aim.upper⟩ aim.base
  plain : ∀ name ∈ aim.missing, IsPlain name

structure Takes (tree : Tree) (aim : Aim) (stop : Stop) : Prop where
  way : ∀ start, start <+: aim.missing ++ stop.1 ->
    tree.get? (aim.base ++ start) = none \/ tree.get? (aim.base ++ start) = some .directory
  noLink : ∀ target, tree.get? (aim.goal ++ stop.names) ≠ some (.link target)
  clear : tree.get? (slot tree (aim.goal ++ stop.names) stop.2) = none \/
    ∃ old, tree.get? (slot tree (aim.goal ++ stop.names) stop.2) = some (.file old)

namespace Bound

section

variable (bound : Bound now src home dest aim)
include bound

lemma leads_way {way : List String} (standing : now.tree.get? (aim.goal ++ way) = some .directory) :
    LeadsTo now ⟨dest.anchor, dest.names ++ way⟩ (aim.goal ++ way) := by
  rw [goal_append] at standing ⊢
  have below := bound.anchored.below bound.sound standing
  rwa [<- append_assoc, <- bound.names] at below

variable (found : now.tree.get? (home ++ stop.names) = some (.file new))
include found

lemma located : now.placeOf (Path.mk src.anchor (src.names ++ stop.names)) true = .ok (home ++ stop.names) :=
  placeOf_of_locate (bound.leads.proper_below bound.sound found) (bound.leads.locate_below bound.sound found rfl)

lemma isPlain : IsPlain stop.2 :=
  bound.sound.tree.isPlain found stop.2 (by simp [Stop.names])

lemma isPlain_way : ∀ name ∈ aim.missing ++ stop.1, IsPlain name := by
  intro name mem
  rcases mem_append.mp mem with upper | later
  · exact bound.plain name upper
  · exact bound.sound.tree.isPlain found name (by simp [Stop.names, later])

lemma inside (standing : now.tree.get? (aim.goal ++ stop.names) = some .directory)
    (noLink : ∀ target, now.tree.get? (aim.goal ++ stop.names ++ [stop.2]) ≠ some (.link target)) :
    Inside now ⟨src.anchor, src.names ++ stop.names⟩ ((Path.mk dest.anchor (dest.names ++ stop.1)).child stop.2)
      (home ++ stop.names) (aim.goal ++ stop.names ++ [stop.2]) new := by
  have leads := bound.leads_way standing
  rw [Stop.names, <- append_assoc] at leads
  exact .of_leads leads bound.sound (bound.located found) found (bound.isPlain found) (base_stop src (bound.isPlain found).1) noLink

lemma execute_refused (refused : Refused now.tree dest aim stop err) (merge : Option Merge) :
    (deliver src dest merge stop).execute now = (.error err, now) := by
  cases refused with
  | @blocked early rest first file parts there =>
    have inDirectory : now.tree.get? (aim.base ++ early) = some .directory := by
      rw [<- append_assoc] at there
      exact bound.sound.tree.way [first] (by simp) there
    have leads := bound.anchored.below bound.sound inDirectory
    have plain : ∀ name ∈ first :: rest, IsPlain name := by
      intro name mem
      refine bound.isPlain_way found name ?_
      rw [parts]
      exact mem_append_right early mem
    rw [<- append_assoc] at there
    have blocked := leads.execute_blocked_file bound.sound plain there
    have whole : aim.upper ++ early ++ first :: rest = dest.names ++ stop.1 := by
      rw [bound.names, append_assoc, <- parts, append_assoc]
    rw [whole] at blocked
    exact bind_error blocked
  | full standing inner =>
    have above : now.tree.get? (aim.goal ++ stop.1) = some .directory := by
      rw [<- goal_names] at standing
      exact bound.sound.tree.way [stop.2] (by simp) standing
    have makes := (bound.leads_way above).execute_makeDirectories bound.sound
    have leads := bound.leads_way standing
    rw [Stop.names, <- append_assoc] at leads
    have joined : PathText.join ((Path.mk dest.anchor (dest.names ++ stop.1)).child stop.2) stop.2 =
          (((Path.mk dest.anchor (dest.names ++ stop.1)).child stop.2).child stop.2) :=
      Path.join_toString leads.proper (by simp [Path.child]) (bound.isPlain found).1
    have refused := (bound.inside found standing (by rw [inner]; simp)).placeFile_refused merge inner
    rw [base_stop src (bound.isPlain found).1, joined] at refused
    exact (bind_ok makes).trans refused

lemma execute_placeFile (takes : Takes now.tree aim stop) (standing : now.tree.get? (aim.goal ++ stop.1) = some .directory)
    (apart : slot now.tree (aim.goal ++ stop.names) stop.2 ≠ home ++ stop.names) (merge : Option Merge) :
    ∃ tree file, (placeFile ⟨src.anchor, src.names ++ stop.names⟩
        ((Path.mk dest.anchor (dest.names ++ stop.1)).child stop.2) merge).execute now = (.ok (), { now with tree := tree }) /\
      PutAt now.tree (slot now.tree (aim.goal ++ stop.names) stop.2) file tree /\
      file.mode = new.mode /\ file.content = landing now.tree dest aim merge stop new /\ (merge = none -> file = new) := by
  have loc := bound.located found
  have reached := (bound.leads_way standing).placeOf_child bound.sound (bound.isPlain found) fun target => by
    rw [goal_names]
    exact takes.noLink target
  rw [goal_names] at reached
  have clear := takes.clear
  rw [slot, isDirectoryAt] at clear apart ⊢
  rw [landing]
  cases there : now.tree.get? (aim.goal ++ stop.names) with
  | none =>
    obtain ⟨tree, placed, put⟩ := execute_placeFile_new merge bound.sound loc found reached there
    exact ⟨tree, new, placed, put, rfl, rfl, fun _ => rfl⟩
  | some node =>
    rw [there] at clear apart
    cases node with
    | link target => exact absurd there (takes.noLink target)
    | file old =>
      have meets : Meets now _ _ _ _ new old := ⟨bound.sound, loc, found, reached, there, apart⟩
      obtain ⟨tree, file, placed, put, mode, content, same⟩ := meets.placeFile merge
      exact ⟨tree, file, placed, put, mode, content, same⟩
    | directory =>
      have noLink : ∀ target, now.tree.get? (aim.goal ++ stop.names ++ [stop.2]) ≠ some (.link target) := by
        intro target linked
        rcases clear with absent | ⟨old, taken⟩
        · cases linked.symm.trans absent
        · cases linked.symm.trans taken
      have notDirectory : now.tree.get? (aim.goal ++ stop.names ++ [stop.2]) ≠ some .directory := by
        intro inner
        rcases clear with absent | ⟨old, taken⟩
        · cases inner.symm.trans absent
        · cases inner.symm.trans taken
      obtain ⟨tree, placed, put⟩ := (bound.inside found there noLink).placeFile merge apart notDirectory
      exact ⟨tree, new, placed, put, rfl, rfl, fun _ => rfl⟩

end

lemma made_below {between : Tree} (made : Made now.tree (aim.goal ++ stop.1) between) (more : List String) :
    between.get? (aim.goal ++ stop.names ++ more) = now.tree.get? (aim.goal ++ stop.names ++ more) := by
  apply made.of_not_prefix
  intro early
  have short := early.length_le
  simp only [Stop.names, length_append, length_singleton] at short
  omega

lemma execute_deliver (bound : Bound now src home dest aim)
    (found : now.tree.get? (home ++ stop.names) = some (.file new)) (takes : Takes now.tree aim stop)
    (apart : slot now.tree (aim.goal ++ stop.names) stop.2 ≠ home ++ stop.names) (merge : Option Merge) :
    ∃ between tree file, (deliver src dest merge stop).execute now = (.ok (), { now with tree := tree }) /\
      Made now.tree (aim.goal ++ stop.1) between /\
      PutAt between (slot now.tree (aim.goal ++ stop.names) stop.2) file tree /\
      Sound { now with tree := tree } /\ Grows now.tree tree /\
      file.mode = new.mode /\ file.content = landing now.tree dest aim merge stop new /\ (merge = none -> file = new) := by
  rcases execute_makeDirectories bound.sound bound.anchored (bound.isPlain_way found)
    (fun start early _ => takes.way start early) with ⟨between, makes, made⟩
  rw [<- append_assoc, <- bound.names] at makes
  rw [<- goal_append] at made
  have making : FileJob true (makeDirectories (Path.mk dest.anchor (dest.names ++ stop.1))) :=
    FileJob.makeDirectories _ _
  have sound := making.keeps bound.sound
  have grows := making.grows bound.sound
  rw [makes] at sound grows
  have onward : Bound { now with tree := between } src home dest aim :=
    ⟨sound, bound.leads.grown grows rfl, bound.names, bound.anchored.grown grows rfl, bound.plain⟩
  have sameHere := made_below made []
  rw [append_nil] at sameHere
  have sameSlot : slot between (aim.goal ++ stop.names) stop.2 = slot now.tree (aim.goal ++ stop.names) stop.2 := by
    rw [slot, slot, isDirectoryAt, isDirectoryAt, sameHere]
  have sameLanding : landing between dest aim merge stop new = landing now.tree dest aim merge stop new := by
    rw [landing, landing, sameHere]
  have takesBetween : Takes between aim stop := by
    refine ⟨fun start early => ?_, by rw [sameHere]; exact takes.noLink, ?_⟩
    · rw [made]
      split_ifs with new
      · exact .inr rfl
      · exact takes.way start early
    · rw [sameSlot]
      obtain ⟨more, place⟩ := slot_eq now.tree (aim.goal ++ stop.names) stop.2
      have clear := takes.clear
      rw [place] at clear ⊢
      rwa [made_below made]
  have standing : between.get? (aim.goal ++ stop.1) = some .directory := by
    refine made.standing ?_
    rw [goal_append]
    exact takes.way _ (prefix_refl _)
  have foundBetween : between.get? (home ++ stop.names) = some (.file new) := by
    rw [made.of_present (by rw [found]; simp), found]
  rcases onward.execute_placeFile foundBetween takesBetween standing (by rwa [sameSlot]) merge with
    ⟨tree, file, placed, put, mode, content, same⟩
  have placing : FileJob true (placeFile ⟨src.anchor, src.names ++ stop.names⟩
    ((Path.mk dest.anchor (dest.names ++ stop.1)).child stop.2) merge) :=
    FileJob.placeFile _ _ _
  have soundAfter := placing.keeps sound
  have growsAfter := placing.grows sound
  rw [placed] at soundAfter growsAfter
  rw [sameSlot] at put
  exact ⟨between, tree, file, (bind_ok makes).trans placed, made, put, soundAfter,
    grows.trans growsAfter, mode, content.trans sameLanding, same⟩

end Bound

lemma Takes.not_refused (takes : Takes tree aim stop) : ¬ Refused tree dest aim stop err := by
  intro refused
  cases refused with
  | @blocked early rest first file parts there =>
    rcases takes.way (early ++ [first]) ⟨rest, by simp [parts]⟩ with absent | standing
    · cases there.symm.trans absent
    · cases there.symm.trans standing
  | full standing inner =>
    have clear := takes.clear
    rw [slot, if_pos (isDirectoryAt_eq_true_iff.mpr standing), inner] at clear
    simp at clear

end Refinery.Transfer
