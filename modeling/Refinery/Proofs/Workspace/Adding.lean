import Refinery.Proofs.Path.Folder
import Refinery.Proofs.Workspace.Copying
import Refinery.Proofs.Workspace.Writing

namespace Refinery

open List Job Workspace Text Refinery.Tree

/-!
# Jobs that only add

A workspace is extended if nodes are added and none is changed.  Making directories extends it however it
ends, and so does writing a file where none was.  New links never appear, so a path that leads to a node keeps
leading to it.
-/

namespace Workspace

structure Extended (w v : Workspace) : Prop where
  sound : v.Sound
  frame : v = { w with tree := v.tree, journal := v.journal }
  kept : ∀ place node, w.tree.get? place = some node -> v.tree.get? place = some node
  links : ∀ place target, v.tree.get? place = some (.link target) -> w.tree.get? place = some (.link target)

namespace Extended

variable {w v u : Workspace} {path : String} {place : Place} {node : Node}

lemma refl (sound : w.Sound) : w.Extended w :=
  ⟨sound, rfl, fun _ _ found => found, fun _ _ found => found⟩

lemma trans (first : w.Extended v) (second : v.Extended u) : w.Extended u := by
  refine ⟨second.sound, ?_, fun place node found => second.kept place node (first.kept place node found),
    fun place target found => first.links place target (second.links place target found)⟩
  rw [second.frame, first.frame]

lemma directory (extended : w.Extended v) : v.directory = w.directory := by
  rw [extended.frame]

lemma grows (extended : w.Extended v) : Grows w.tree v.tree :=
  fun place node found => ⟨node, extended.kept place node found, Kin.refl node⟩

variable {follow : Bool}

lemma placeOf (extended : w.Extended v) (loc : w.placeOf path follow = .ok place)
    (present : w.tree.get? place = some node) : v.placeOf path follow = .ok place := by
  rw [placeOf_eq_ok_iff] at loc ⊢
  refine ⟨loc.1, ?_⟩
  rw [extended.directory]
  exact extended.grows.locate loc.2 (by rw [present]; rfl)

lemma fileAt (extended : w.Extended v) {file : FileNode} (there : w.fileAt path = .ok file) : v.fileAt path = .ok file := by
  obtain ⟨place, loc, found⟩ := fileAt_eq_ok_iff.mp there
  exact fileAt_eq_ok_iff.mpr ⟨place, extended.placeOf loc found, extended.kept place _ found⟩

lemma put (sound : w.Sound) (isOpen : w.tree.Open place) (missing : w.tree.get? place = none)
    (noLink : node.isLink = false) : w.Extended (w.put (some (place, node))) := by
  have receives : w.tree.Receives place node := isOpen.receives_new missing
  have view (other : Place) : (w.put (some (place, node))).tree.get? other =
      if other = place then some node else w.tree.get? other :=
    get?_insert w.tree place other node receives.named
  have kept : ∀ other old, w.tree.get? other = some old -> (w.put (some (place, node))).tree.get? other = some old := by
    intro other old found
    rw [view, if_neg, found]
    rintro rfl
    cases missing.symm.trans found
  refine ⟨⟨?_, kept _ _ sound.standing⟩, rfl, kept, ?_⟩
  · exact sound.tree.insert receives.named isOpen.plain isOpen.inDirectory receives.clear
  · intro other target found
    rw [view] at found
    split at found
    · cases found
      cases noLink
    · exact found

end Extended

def Printed (w v : Workspace) : Prop :=
  v = { w with journal := v.journal }

namespace Printed

variable {α β : Type} {w v u : Workspace} {job : Job α}

lemma refl (w : Workspace) : Printed w w :=
  rfl

lemma print (printed : Printed w v) {line : String} (printing : (printLine line).execute v = (.ok (), u)) : Printed w u := by
  cases printing
  rw [printed]
  rfl

lemma extended (printed : Printed w v) (sound : w.Sound) : w.Extended v := by
  rw [printed]
  exact ⟨⟨sound.tree, sound.standing⟩, rfl, fun _ _ found => found, fun _ _ found => found⟩

lemma look (printed : Printed w v) (sound : w.Sound) (file : FileJob false job) {value : α}
    (answers : (job.execute w).1 = .ok value) (next : α -> Job β) : (job >>= next).execute v = (next value).execute v := by
  have alike : w.Alike v := by
    refine ⟨sound, (printed.extended sound).sound, ?_, ?_, ?_, ?_⟩ <;> rw [printed]
    exact fun _ => rfl
  have still := file.idle rfl v
  have same := file.answer alike
  rw [answers] at same
  have whole : job.execute v = (.ok value, v) := Prod.ext same.symm still
  exact bind_ok whole

end Printed

structure AddedAt (w : Workspace) (places : List Place) (v : Workspace) : Prop where
  extended : w.Extended v
  only : ∀ place, w.tree.get? place = none -> place ∉ places -> v.tree.get? place = none

namespace AddedAt

variable {w v u : Workspace} {places : List Place} {path : String} {place : Place}

lemma of_printed (printed : w.Printed v) (sound : w.Sound) : w.AddedAt [] v := by
  refine ⟨printed.extended sound, ?_⟩
  intro place missing _
  rwa [printed]

variable (added : w.AddedAt places v)
include added

lemma print (printed : v.Printed u) : w.AddedAt places u := by
  refine ⟨added.extended.trans (printed.extended added.extended.sound), ?_⟩
  intro place missing other
  rw [printed]
  exact added.only place missing other

lemma isDirectory (dir : w.isDirectory path = true) : v.isDirectory path = true :=
  isDirectory_of_grows added.extended.grows added.extended.directory dir

lemma vacant (loc : w.placeOf path follow = .ok place) (missing : w.tree.get? place = none) (other : place ∉ places) :
    v.placeOf path follow = .ok place /\ v.tree.get? place = none := by
  have still := added.only place missing other
  refine ⟨?_, still⟩
  rw [placeOf_eq_ok_iff] at loc ⊢
  refine ⟨loc.1, ?_⟩
  rw [added.extended.directory]
  exact added.extended.grows.locate_put loc.2 (by rw [still]; simp)

lemma put {file : FileNode} (isOpen : v.tree.Open place) (missing : v.tree.get? place = none) :
    w.AddedAt (place :: places) (v.put (some (place, .file file))) := by
  refine ⟨added.extended.trans (.put added.extended.sound isOpen missing rfl), ?_⟩
  intro other absent elsewhere
  rw [mem_cons, not_or] at elsewhere
  have named : place ≠ [] := by
    rintro rfl
    cases missing
  exact (get?_insert v.tree place other (.file file) named).trans
    ((if_neg elsewhere.1).trans (added.only other absent elsewhere.2))

lemma list (sound : w.Sound) (elsewhere : ∀ name, place ++ [name] ∉ places) : v.tree.list place = w.tree.list place := by
  apply added.extended.sound.tree.list_of_names sound.tree
  intro name
  cases found : w.tree.get? (place ++ [name]) with
  | some node => rw [added.extended.kept _ node found]
  | none => rw [added.only _ found (elsewhere name)]

end AddedAt

end Workspace

namespace Job

/-! ## Making directories -/

variable {α β : Type} {job : Job α}

def Extends (job : Job α) : Prop :=
  ∀ w : Workspace, w.Sound -> w.Extended (job.execute w).2

namespace Extends

lemma printLine (text : String) : Extends (printLine text) :=
  fun _ sound => ⟨⟨sound.tree, sound.standing⟩, rfl, fun _ _ found => found, fun _ _ found => found⟩

lemma makeDirectory (path : String) : Extends (makeDirectory path) := by
  intro w sound
  rw [execute_makeDirectory, making]
  split
  · exact .refl sound
  next place reached =>
    split
    · exact .refl sound
    next found => exact .put sound (sound.isOpen reached) found rfl

end Extends

variable {w v : Workspace}

lemma makeEach_next {mayExist : Bool} {path : String} {rest : List String} (sound : w.Sound)
    (further : rest ≠ []) (made : (makeEach mayExist (path :: rest)).execute w = (.ok (), v)) :
    ∃ between, w.Extended between /\ (makeEach mayExist rest).execute between = (.ok (), v) := by
  rw [execute_makeEach_more _ _ _ further] at made
  split at made
  · exact ⟨w, .refl sound, made⟩
  · have extended := Extends.makeDirectory path w sound
    rw [execute_makeDirectory] at extended
    split at made <;> simp_all
    all_goals exact ⟨_, extended, made⟩

lemma makeEach_last {paths : List String} {last : String} (sound : w.Sound)
    (made : (makeEach false (paths ++ [last])).execute w = (.ok (), v)) : ∃ between place, w.Extended between /\
      between.placeOf (trimRightBy (· == '/') last) false = .ok place /\
      between.tree.get? place = none /\ v = between.put (some (place, .directory)) := by
  induction paths generalizing w with
  | nil =>
    rw [nil_append, execute_makeEach_last, making] at made
    split at made <;> cases made
    next ended =>
      split at ended
      · cases ended
      next place reached =>
        split at ended <;> cases ended
        next missing => exact ⟨w, place, .refl sound, reached, missing, rfl⟩
  | cons path rest ih =>
    obtain ⟨between, first, later⟩ := makeEach_next sound (by simp) made
    obtain ⟨further, place, second, facts⟩ := ih first.sound later
    exact ⟨further, place, first.trans second, facts⟩

lemma makeDirectories_last {path : String} (sound : w.Sound)
    (made : (makeDirectories path false).execute w = (.ok (), v)) : ∃ between place, w.Extended between /\
      between.placeOf (trimRightBy (· == '/') path) false = .ok place /\
      between.tree.get? place = none /\ v = between.put (some (place, .directory)) := by
  rw [makeDirectories] at made
  split at made
  · cases made
  · exact makeEach_last sound made

end Job

/-! ## Writing a file into its folder -/

namespace Tree

variable {tree : Tree} {place start cwd : Place} {names : List String} {budget : Nat} {path : Path}

lemma route_follow (walked : tree.route false budget start names = .ok place)
    (missing : tree.get? place = none) : tree.route true budget start names = .ok place := by
  induction budget generalizing start names with
  | zero => cases walked
  | succ budget ih =>
    rw [route]
    rcases stretch_self tree start names with same | ⟨self, arrived, there⟩
    · rcases route_cases walked with arrived | ⟨above, target, rest, atLink, onward⟩
      · rw [<- same, arrived]
      · rw [<- same, atLink]
        exact ih onward
    · rw [route, arrived] at walked
      cases walked
      rw [missing] at there
      cases there

lemma locate_eq {other : Path} (absolute : path.isAbsolute = other.isAbsolute) (names : path.names = other.names) :
    tree.locate cwd path follow = tree.locate cwd other follow := by
  rw [locate, locate, absolute, names]

lemma locate_dot (sound : tree.Sound) (standing : tree.get? cwd = some .directory)
    (loc : tree.locate cwd ⟨path.anchor, path.names ++ ["."]⟩ follow = .ok place) : tree.get? place = some .directory := by
  have further : ["."] ≠ [] := cons_ne_nil _ _
  obtain ⟨middle, reached, dir⟩ := locate_append_ok sound standing further loc
  obtain ⟨left, -, onward⟩ := route_append follow sound (get?_origin standing path) further reached dir
  change tree.route follow (linkBudget + 1) (origin cwd path) (path.names ++ ["."]) = _ at loc
  rw [onward, route] at loc
  cases loc
  exact dir

lemma locate_named {name : String} (sound : tree.Sound) (standing : tree.get? cwd = some .directory) (plain : IsPlain name)
    (noLink : ∀ place target, tree.get? (place ++ [name]) ≠ some (.link target))
    (loc : tree.locate cwd ⟨path.anchor, path.names ++ [name]⟩ = .ok place) : ∃ above, place = above ++ [name] := by
  obtain ⟨above, reached, dir⟩ := locate_append_ok sound standing (by simp) loc
  refine ⟨above, Except.ok.inj (loc.symm.trans ?_)⟩
  exact locate_below sound standing reached dir (by simp) (sound.open_child dir plain) fun _ => noLink above

end Tree

namespace Job

variable {w v : Workspace} {s name : String}

lemma locate_folder {place : Place} (sound : w.Sound) (isName : IsName name)
    (reached : w.placeOf (trimRightBy (· == '/') (PathText.directory (s ++ "/" ++ name))) false =
      .ok place) (missing : w.tree.get? place = none) :
    w.tree.locate w.directory (Path.ofString (PathText.directory (s ++ "/" ++ name))) false = .ok place := by
  rcases Path.directory_cases s isName.2.2 with ⟨count, slashes, folder⟩ | ⟨count, -, -, trimmed⟩
  · have nothing : trimRightBy (· == '/') (s ++ "/") = "" := by
      have chars : (s ++ "/").toList = List.replicate (count + 1) '/' := by
        rw [String.toList_append, slashes, String.toList_ofList, replicate_succ']
        rfl
      rw [trimRightBy, chars]
      simp
    rw [folder, nothing] at reached
    cases reached
  · rw [trimmed] at reached
    have walked := locate_of_placeOf reached
    rw [pathOf] at walked
    by_cases asDirectory : (!(Path.ofString (PathText.directory (s ++ "/" ++ name))).names.isEmpty &&
        (endsWith (PathText.directory (s ++ "/" ++ name)) "/" ||
          endsWith (PathText.directory (s ++ "/" ++ name)) "/.")) = true
    · rw [if_pos asDirectory] at walked
      rw [locate_dot sound.tree sound.standing walked] at missing
      cases missing
    · rwa [if_neg asDirectory] at walked

lemma placeOf_child {follow : Bool} {place : Place} (sound : w.Sound) (plain : IsPlain name)
    (loc : w.tree.locate w.directory (Path.ofString (PathText.directory (s ++ "/" ++ name))) = .ok place)
    (standing : w.tree.get? place = some .directory)
    (noLink : follow = true -> ∀ target, w.tree.get? (place ++ [name]) ≠ some (.link target)) :
    w.placeOf (s ++ "/" ++ name) follow = .ok (place ++ [name]) := by
  have below := locate_below sound.tree sound.standing loc standing (cons_ne_nil name [])
    (sound.tree.open_child standing plain) noLink
  have absolute := Path.isAbsolute_folder s plain.1
  rw [placeOf_eq_ok_iff, Path.pathOf_child s plain.1]
  refine ⟨fun empty => ?_, ?_⟩
  · have chars := congrArg String.toList empty
    simp at chars
  · rw [<- below]
    apply locate_eq
    · simp only [Path.isAbsolute] at absolute ⊢
      rw [absolute]
    · rw [Path.names_folder s plain.1]

lemma placeOf_in_made (sound : w.Sound) (plain : IsPlain name)
    (made : (makeDirectories (PathText.directory (s ++ "/" ++ name)) false).execute w = (.ok (), v)) :
    w.Extended v /\ ∃ folder, v.placeOf (s ++ "/" ++ name) true = .ok (folder ++ [name]) /\
      v.tree.get? (folder ++ [name]) = none := by
  obtain ⟨between, place, extended, reached, missing, rfl⟩ := makeDirectories_last sound made
  have last : between.Extended (between.put (some (place, .directory))) :=
    .put extended.sound (extended.sound.isOpen reached) missing rfl
  have loc : between.tree.locate between.directory (Path.ofString (PathText.directory (s ++ "/" ++ name))) = .ok place :=
    route_follow (locate_folder extended.sound plain.1 reached missing) missing
  have view (other : Place) : (between.put (some (place, .directory))).tree.get? other =
      if other = place then some .directory else between.tree.get? other := by
    refine get?_insert between.tree place other .directory ?_
    rintro rfl
    cases missing
  have standing : (between.put (some (place, .directory))).tree.get? place = some .directory := by
    rw [view, if_pos rfl]
  have clear : (between.put (some (place, .directory))).tree.get? (place ++ [name]) = none := by
    rw [view, if_neg (by simp)]
    by_contra present
    obtain ⟨node, found⟩ := Option.ne_none_iff_exists'.mp present
    exact extended.sound.tree.present_of_prefix found (prefix_append _ _) missing
  refine ⟨extended.trans last, place, ?_, clear⟩
  exact placeOf_child last.sound plain (last.grows.locate_put loc (by simp [standing])) standing (by simp [clear])

lemma isDirectory_made {path : String} (sound : w.Sound)
    (made : (makeDirectories (PathText.directory path) false).execute w = (.ok (), v)) :
    w.Extended v /\ v.isDirectory (PathText.directory path) = true := by
  obtain ⟨between, place, extended, reached, missing, rfl⟩ := makeDirectories_last sound made
  have last : between.Extended (between.put (some (place, .directory))) :=
    .put extended.sound (extended.sound.isOpen reached) missing rfl
  refine ⟨extended.trans last, ?_⟩
  rcases PathText.trimRightBy_directory path with same | nothing
  · rw [same, placeOf_eq_ok_iff] at reached
    have standing : (between.put (some (place, .directory))).tree.get? place = some .directory := by
      refine (get?_insert between.tree place place .directory ?_).trans (if_pos rfl)
      rintro rfl
      cases missing
    have leads := last.grows.locate_put (route_follow reached.2 missing) (by simp [standing])
    rw [isDirectory_eq_true_iff, nodeAt?_of_placeOf (placeOf_eq_ok_iff.mpr ⟨reached.1, leads⟩), standing]
  · rw [nothing] at reached
    cases reached

lemma writeText_new {path text : String} (notFile : ((w.nodeAt? path).map Node.isFile).getD false = false)
    (wrote : (writeText path text).execute w = (.ok (), v)) :
    ∃ place, w.placeOf path true = .ok place /\ w.tree.get? place = none /\
      v = w.put (some (place, .file { content := text.toUTF8 })) := by
  rw [writeText] at wrote
  split at wrote
  · rw [execute_writeBytes, writing] at wrote
    split at wrote
    · cases wrote
    next place reached =>
      rw [nodeAt?_of_placeOf reached] at notFile
      split at wrote <;> cases wrote
      next found =>
        rw [found] at notFile
        cases notFile
      next found => exact ⟨place, reached, found, rfl⟩
  · rcases of_bind_ok wrote with ⟨_, _, _, failed⟩
    cases failed

end Job

end Refinery
