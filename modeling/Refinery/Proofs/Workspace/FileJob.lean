import Refinery.Proofs.Workspace.Reading
import Refinery.Transfer

namespace Refinery

open Job Refinery.Tree Workspace Roots

/-!
# Jobs on files

`FileJob` puts four properties together, for the jobs that copying uses and the ways to put them together:
they change nothing but the tree, see no more of the workspace than its view, the working directory, the roots
and the script, never take a node away, and keep the workspace sound.
-/

/-- A tree that is sound, and a working directory that is one. -/
structure Workspace.Sound (w : Workspace) : Prop where
  tree : w.tree.Sound
  standing : w.tree.get? w.directory = some .directory

instance (w : Workspace) : Decidable w.Sound :=
  decidable_of_iff (w.tree.Sound /\ w.tree.get? w.directory = some .directory)
    ⟨fun facts => ⟨facts.1, facts.2⟩, fun sound => ⟨sound.tree, sound.standing⟩⟩

structure Workspace.Alike (w v : Workspace) : Prop where
  sound : w.Sound
  otherSound : v.Sound
  same : Same w.tree v.tree
  directory : w.directory = v.directory
  roots : w.session.roots = v.session.roots
  script : w.script = v.script

structure FileJob {α : Type} (writes : Bool) (job : Job α) : Prop where
  idle : writes = false -> ∀ w, (job.execute w).2 = w
  frame : ∀ w, (job.execute w).2 = { w with tree := (job.execute w).2.tree }
  answer : ∀ {w v}, w.Alike v -> (job.execute w).1 = (job.execute v).1
  view : ∀ {w v}, w.Alike v -> Same (job.execute w).2.tree (job.execute v).2.tree
  grows : ∀ {w}, w.Sound -> Grows w.tree (job.execute w).2.tree
  sound : ∀ {w}, w.Sound -> (job.execute w).2.tree.Sound

namespace FileJob

variable {α β σ : Type} {writes : Bool} {job : Job α} {w v : Workspace}

lemma keeps (file : FileJob writes job) (sound : w.Sound) : (job.execute w).2.Sound := by
  refine ⟨file.sound sound, ?_⟩
  rw [file.frame w]
  exact (file.grows sound).directory sound.standing

lemma alike (file : FileJob writes job) (alike : w.Alike v) : (job.execute w).2.Alike (job.execute v).2 := by
  refine ⟨file.keeps alike.sound, file.keeps alike.otherSound, file.view alike, ?_, ?_, ?_⟩
  · rw [file.frame w, file.frame v]
    exact alike.directory
  · rw [file.frame w, file.frame v]
    exact alike.roots
  · rw [file.frame w, file.frame v]
    exact alike.script

/-! ## Putting jobs together -/

lemma of_look (answer : Workspace -> Except Failure α) (runs : ∀ w, job.execute w = (answer w, w))
    (blind : ∀ {w v}, w.Alike v -> answer w = answer v) : FileJob writes job := by
  have outcome : ∀ w, (job.execute w).1 = answer w := fun w => congrArg Prod.fst (runs w)
  have still : ∀ w, (job.execute w).2 = w := fun w => congrArg Prod.snd (runs w)
  refine ⟨fun _ => still, ?_, ?_, ?_, ?_, ?_⟩ <;> intros <;> simp only [outcome, still]
  case refine_2 alike => exact blind alike
  case refine_3 alike => exact alike.same
  case refine_4 w _ => exact Grows.refl w.tree
  case refine_5 sound => exact sound.tree

lemma pure (value : α) : FileJob writes (Pure.pure value : Job α) :=
  of_look (fun _ => .ok value) (fun _ => rfl) fun _ => rfl

lemma fail (err : Failure) : FileJob writes (fail err : Job α) :=
  of_look (fun _ => .error err) (fun _ => rfl) fun _ => rfl

lemma ofExcept (outcome : Except Failure α) : FileJob writes (Job.ofExcept outcome) :=
  of_look (fun _ => outcome) (fun w => execute_ofExcept outcome w) fun _ => rfl

lemma need (err : Failure) (value : Option α) : FileJob writes (need err value) := by
  cases value with
  | none => exact fail err
  | some value => exact pure value

lemma bind_after {next : α -> Job β} {P : Workspace -> Prop} (stops : P (job.execute w).2)
    (goes : ∀ value, P ((next value).execute (job.execute w).2).2) : P ((job >>= next).execute w).2 := by
  rw [execute_bind]
  generalize job.execute w = run at stops goes
  rcases run with ⟨err | value, after⟩
  · exact stops
  · exact goes value

lemma bind {next : α -> Job β} (first : FileJob writes job)
    (second : ∀ value, FileJob writes (next value)) : FileJob writes (job >>= next) := by
  have both : ∀ {w v}, w.Alike v -> ((job >>= next).execute w).1 = ((job >>= next).execute v).1 /\
        Same ((job >>= next).execute w).2.tree ((job >>= next).execute v).2.tree := by
    intro w v alike
    have answers := first.answer alike
    have onward := first.alike alike
    rw [execute_bind, execute_bind]
    generalize job.execute w = run, job.execute v = other at answers onward
    rcases run with ⟨err | value, after⟩ <;> rcases other with ⟨_, _⟩ <;> cases answers
    · exact ⟨rfl, onward.same⟩
    · exact ⟨(second value).answer onward, (second value).view onward⟩
  refine ⟨fun still w => ?_, fun w => ?_, fun alike => (both alike).1, fun alike => (both alike).2,
    fun {w} sound => ?_, fun {w} sound => ?_⟩
  · refine bind_after (P := (· = w)) (first.idle still w) fun value => ?_
    rw [(second value).idle still, first.idle still]
  · refine bind_after (P := fun after => after = { w with tree := after.tree }) (first.frame w) fun value => ?_
    rw [(second value).frame, first.frame]
  · exact bind_after (P := fun after => Grows w.tree after.tree) (first.grows sound) fun value =>
      (first.grows sound).trans ((second value).grows (first.keeps sound))
  · exact bind_after (P := fun after => after.tree.Sound) (first.sound sound) fun value =>
      (second value).sound (first.keeps sound)

lemma attempt (file : FileJob writes job) : FileJob writes (attempt job) := by
  refine ⟨?_, ?_, ?_, ?_, ?_, ?_⟩ <;> simp only [execute_attempt]
  · exact file.idle
  · exact file.frame
  · exact fun alike => congrArg Except.ok (file.answer alike)
  · exact file.view
  · exact file.grows
  · exact file.sound

end FileJob

/-! ## Looking -/

namespace Workspace
namespace Alike

variable {w v : Workspace}

variable (alike : w.Alike v)
include alike

lemma locate (path : Path) (follow : Bool) : w.tree.locate w.directory path follow = v.tree.locate v.directory path follow := by
  rw [alike.directory, locate_congr alike.same]

lemma placeOf (path : String) (follow : Bool) : w.placeOf path follow = v.placeOf path follow := by
  rw [Workspace.placeOf, Workspace.placeOf, alike.locate]

lemma nodeAt? (path : String) : w.nodeAt? path = v.nodeAt? path := by
  rw [Workspace.nodeAt?, Workspace.nodeAt?, alike.directory, Tree.find?_congr alike.same]

lemma isLink (path : String) : w.isLink path = v.isLink path := by
  rw [Workspace.isLink, Workspace.isLink, alike.directory, Tree.findSelf?_congr alike.same]

lemma fileAt (path : String) : w.fileAt path = v.fileAt path := by
  simp only [Workspace.fileAt, alike.placeOf, alike.same _]

lemma list (path : String) : w.list path = v.list path := by
  have listed : ∀ place, w.tree.list place = v.tree.list place := fun place =>
    alike.sound.tree.list_congr alike.otherSound.tree fun _ => alike.same _
  simp only [Workspace.list, alike.placeOf, alike.same _, listed]

lemma sameFile (first second : String) : w.sameFile first second = v.sameFile first second := by
  simp only [Workspace.sameFile, alike.locate, alike.same _]

end Alike
end Workspace

lemma Roots.execute_relativize_eq (path : Path) (w : Workspace) : (relativize path).execute w =
      ((relativize? w.session.roots path).elim (.error (.complaint (.untracked path))) .ok, w) := by
  simp only [relativize, execute_bind, execute_session]
  cases relativize? w.session.roots path <;> rfl

namespace FileJob

variable {α β σ : Type} {writes : Bool} {job : Job α}

lemma placeOf (path : String) (follow : Bool) : FileJob writes (placeOf path follow) :=
  of_look (fun w => w.placeOf path follow) (fun w => execute_placeOf path follow w) fun alike => alike.placeOf path follow

lemma nodeAt? (path : String) : FileJob writes (nodeAt? path) :=
  of_look (fun w => .ok (w.nodeAt? path)) (fun _ => rfl) fun alike => by rw [alike.nodeAt?]

lemma exists? (path : String) : FileJob writes (exists? path) :=
  (nodeAt? path).bind fun node => pure node.isSome

lemma isFile (path : String) : FileJob writes (isFile path) :=
  (nodeAt? path).bind fun node => pure ((node.map Node.isFile).getD false)

lemma isDirectory (path : String) : FileJob writes (isDirectory path) :=
  (nodeAt? path).bind fun node => pure ((node.map Node.isDirectory).getD false)

lemma isLink (path : String) : FileJob writes (isLink path) :=
  of_look (fun w => .ok (w.isLink path)) (fun _ => rfl) fun alike => by rw [alike.isLink]

lemma fileAt (path : String) : FileJob writes (fileAt path) :=
  of_look (fun w => w.fileAt path) (fun w => execute_fileAt path w) fun alike => alike.fileAt path

lemma list (path : String) : FileJob writes (list path) :=
  of_look (fun w => w.list path) (fun w => execute_list path w) fun alike => alike.list path

lemma children (path : Path) : FileJob writes (children path) :=
  (list path).bind fun names => pure (names.map path.child)

lemma sameFile (first second : String) : FileJob writes (sameFile first second) :=
  of_look (fun w => .ok (w.sameFile first second)) (fun w => execute_sameFile first second w)
    fun alike => by rw [alike.sameFile]

lemma depthLimit : FileJob writes depthLimit :=
  of_look (fun w => .ok (w.tree.size + 1000)) (fun _ => rfl) fun alike => by
    rw [alike.sound.tree.size_congr alike.otherSound.tree alike.same]

lemma readBytes (path : String) : FileJob writes (readBytes path) :=
  (fileAt path).bind fun file => pure file.content

lemma decode (bytes : ByteArray) : FileJob writes (decode bytes) := by
  rw [Job.decode]
  cases String.fromUTF8? bytes with
  | none => exact fail _
  | some text => exact pure _

lemma readText (path : String) : FileJob writes (readText path) :=
  (readBytes path).bind decode

lemma modeOf (path : String) : FileJob writes (modeOf path) := by
  refine (nodeAt? path).bind fun node => ?_
  cases node with
  | none => exact (placeOf path true).bind fun _ => fail _
  | some node => cases node <;> exact pure _

lemma relativize (path : Path) : FileJob writes (relativize path) := by
  refine of_look _ (execute_relativize_eq path) fun alike => ?_
  rw [alike.roots]

/-! ## Putting nodes -/

end FileJob

structure Tree.Receives (tree : Tree) (place : Place) (node : Node) : Prop where
  isOpen : tree.Open place
  clear : tree.get? place ≠ some .directory
  kin : ∀ old, tree.get? place = some old -> Kin old node

variable {place : Place} {path : String} {follow : Bool} {tree : Tree} {node : Node}

lemma Tree.Receives.named (receives : tree.Receives place node) : place ≠ [] := by
  rintro rfl
  exact receives.clear rfl

lemma Tree.Open.receives_new (isOpen : tree.Open place) (absent : tree.get? place = none) : tree.Receives place node := by
  refine ⟨isOpen, by rw [absent]; simp, ?_⟩
  intro old present
  rw [absent] at present
  cases present

lemma Tree.Open.receives_file {before after : FileNode}
    (isOpen : tree.Open place) (found : tree.get? place = some (.file before)) : tree.Receives place (.file after) := by
  refine ⟨isOpen, by rw [found]; simp, ?_⟩
  intro old present
  rw [found] at present
  cases present
  trivial

/-- The workspace after a node was put at a place, if one was. -/
def Workspace.put (w : Workspace) : Option (Place × Node) -> Workspace
  | none => w
  | some (place, node) => { w with tree := w.tree.insert place node }

namespace FileJob

variable {α β σ : Type} {writes : Bool} {job : Job α}

lemma of_put (plan : Workspace -> Except Failure α × Option (Place × Node))
    (runs : ∀ w, job.execute w = ((plan w).1, w.put (plan w).2)) (blind : ∀ {w v}, w.Alike v -> plan w = plan v)
    (fits : ∀ {w place node}, w.Sound -> (plan w).2 = some (place, node) -> w.tree.Receives place node) : FileJob true job := by
  refine ⟨nofun, ?_, ?_, ?_, ?_, ?_⟩
  · intro w
    rw [runs]
    rcases (plan w).2 with _ | ⟨place, node⟩ <;> rfl
  · intro w v alike
    rw [runs, runs, blind alike]
  · intro w v alike
    rw [runs, runs, blind alike]
    rcases made : (plan v).2 with _ | ⟨place, node⟩
    · exact alike.same
    · have receives := fits alike.otherSound made
      intro other
      simp only [put, get?_insert _ _ _ _ receives.named, alike.same other]
  · intro w sound
    rw [runs]
    rcases made : (plan w).2 with _ | ⟨place, node⟩
    · exact Grows.refl w.tree
    · have receives := fits sound made
      exact grows_insert receives.named receives.kin
  · intro w sound
    rw [runs]
    rcases made : (plan w).2 with _ | ⟨place, node⟩
    · exact sound.tree
    · have receives := fits sound made
      exact sound.tree.insert receives.named receives.isOpen.plain receives.isOpen.inDirectory receives.clear

end FileJob

namespace Workspace

variable {w : Workspace}

lemma placeOf_eq_ok_iff : w.placeOf path follow = .ok place ↔
      path ≠ "" /\ w.tree.locate w.directory (pathOf path) follow = .ok place := by
  rw [placeOf]
  by_cases empty : path = ""
  · simp [empty]
  · cases w.tree.locate w.directory (pathOf path) follow <;> simp [empty, Except.mapError]

lemma locate_of_placeOf (found : w.placeOf path follow = .ok place) :
    w.tree.locate w.directory (pathOf path) follow = .ok place :=
  (placeOf_eq_ok_iff.mp found).2

lemma nodeAt?_of_placeOf (found : w.placeOf path true = .ok place) : w.nodeAt? path = w.tree.get? place := by
  rw [placeOf_eq_ok_iff] at found
  rw [nodeAt?, if_neg found.1, find?, found.2]

lemma filePlace?_eq_some_iff : w.filePlace? path = some place ↔
    w.placeOf path true = .ok place /\ ∃ file, w.tree.get? place = some (.file file) := by
  rw [filePlace?]
  cases w.placeOf path true with
  | error err => simp
  | ok reached =>
    simp only [Except.ok.injEq]
    constructor
    · intro equal
      split at equal <;> cases equal
      next file found => exact ⟨rfl, file, found⟩
    · rintro ⟨rfl, file, found⟩
      simp only [found]

lemma nodeAt?_eq_some_iff : w.nodeAt? path = some node ↔ ∃ place, w.placeOf path true = .ok place /\ w.tree.get? place = some node := by
  rw [nodeAt?, placeOf, find?]
  by_cases empty : path = ""
  · simp [empty]
  · cases w.tree.locate w.directory (pathOf path) <;> simp [empty, Except.mapError]

lemma isFile_eq (w : Workspace) (path : String) : ((w.nodeAt? path).map Node.isFile).getD false = (w.filePlace? path).isSome := by
  rw [filePlace?, placeOf, nodeAt?, find?]
  by_cases empty : path = ""
  · simp [empty]
  · cases w.tree.locate w.directory (pathOf path) with
    | error reason => simp [empty, Except.mapError]
    | ok place =>
      simp only [empty, if_false, Except.mapError]
      cases w.tree.get? place with
      | none => rfl
      | some node => cases node <;> rfl

lemma fileAt_eq_ok_iff {file : FileNode} : w.fileAt path = .ok file ↔
      ∃ place, w.placeOf path true = .ok place /\ w.tree.get? place = some (.file file) := by
  rw [fileAt]
  constructor
  · intro read
    split at read
    · cases read
    next place found =>
      split at read <;> cases read
      next there => exact ⟨place, found, there⟩
  · rintro ⟨place, found, there⟩
    simp only [found, there]

lemma sameFile_of_ne {first second : String} {origin : Place}
    (loc : w.placeOf first true = .ok origin) (reached : w.placeOf second true = .ok place)
    (apart : place ≠ origin) : w.sameFile first second = false := by
  simp only [sameFile, locate_of_placeOf loc, locate_of_placeOf reached]
  simp [Ne.symm apart]

lemma Sound.isOpen (sound : w.Sound) (found : w.placeOf path follow = .ok place) : w.tree.Open place :=
  locate_open sound.tree sound.standing (Path.walkable_pathOf path) (locate_of_placeOf found)

def writing (w : Workspace) (path : String) (content : ByteArray) : Except Failure Unit × Option (Place × Node) :=
  match w.placeOf path true with
  | .error failure => (.error failure, none)
  | .ok place =>
    match w.tree.get? place with
    | some .directory => (.error (.isDirectory path), none)
    | some (.file file) => (.ok (), some (place, .file { file with content, age := 0 }))
    | some (.link _) => (.error (.linkLoop path), none)
    | none => (.ok (), some (place, .file { content }))

lemma writing_ok {content : ByteArray} (written : (w.writing path content).1 = .ok ()) :
    ∃ place file, w.placeOf path true = .ok place /\ w.tree.get? place ≠ some .directory /\
      (w.writing path content).2 = some (place, .file file) := by
  unfold writing at written ⊢
  split at written
  · cases written
  next place found =>
    refine ⟨place, ?_⟩
    split at written <;> cases written
    next file there => exact ⟨{ file with content, age := 0 }, found, by simp [there], rfl⟩
    next there => exact ⟨{ content }, found, by simp [there], rfl⟩

def settingMode (w : Workspace) (path : String) (mode : Nat) : Except Failure Unit × Option (Place × Node) :=
  match w.placeOf path true with
  | .error failure => (.error failure, none)
  | .ok place =>
    match w.tree.get? place with
    | some (.file file) => (.ok (), some (place, .file { file with mode }))
    | some _ => (.ok (), none)
    | none => (.error (.absent path), none)

def making (w : Workspace) (path : String) : Except Failure Unit × Option (Place × Node) :=
  match w.placeOf (Text.trimRightBy (· == '/') path) false with
  | .error failure => (.error failure, none)
  | .ok place =>
    match w.tree.get? place with
    | some _ => (.error (.occupied path), none)
    | none => (.ok (), some (place, .directory))

def copyingStatus (w : Workspace) (source destination : String) : Except Failure Unit × Option (Place × Node) :=
  match w.fileAt source with
  | .error failure => (.error failure, none)
  | .ok file =>
    match w.placeOf destination true with
    | .error failure => (.error failure, none)
    | .ok place =>
      match w.tree.get? place with
      | some (.file copy) =>
        (.ok (), some (place, .file { copy with mode := file.mode, age := file.age }))
      | _ => (.ok (), none)

end Workspace

namespace Job

lemma execute_writeBytes (path : String) (content : ByteArray) (w : Workspace) :
    (writeBytes path content).execute w = ((w.writing path content).1, w.put (w.writing path content).2) := by
  simp only [writeBytes, writing, execute_bind, execute_placeOf]
  cases w.placeOf path true with
  | error err => rfl
  | ok place =>
    simp only [execute_get]
    cases w.tree.get? place with
    | none => rfl
    | some node => cases node <;> rfl

lemma execute_setMode (path : String) (mode : Nat) (w : Workspace) : (setMode path mode).execute w =
      ((w.settingMode path mode).1, w.put (w.settingMode path mode).2) := by
  simp only [setMode, settingMode, execute_bind, execute_placeOf]
  cases w.placeOf path true with
  | error err => rfl
  | ok place =>
    simp only [execute_get]
    cases w.tree.get? place with
    | none => rfl
    | some node => cases node <;> rfl

lemma execute_makeDirectory (path : String) (w : Workspace) :
    (makeDirectory path).execute w = ((w.making path).1, w.put (w.making path).2) := by
  simp only [makeDirectory, making, execute_bind, execute_placeOf]
  cases w.placeOf (Text.trimRightBy (· == '/') path) false with
  | error err => rfl
  | ok place =>
    simp only [execute_get]
    cases w.tree.get? place with
    | none => rfl
    | some node => rfl

lemma execute_copyStatus (src dest : String) (w : Workspace) : (copyStatus src dest).execute w =
      ((w.copyingStatus src dest).1, w.put (w.copyingStatus src dest).2) := by
  simp only [copyStatus, copyingStatus, execute_bind, execute_fileAt]
  cases w.fileAt src with
  | error err => rfl
  | ok file =>
    simp only [execute_placeOf]
    cases w.placeOf dest true with
    | error err => rfl
    | ok place =>
      simp only [execute_onTree]
      cases w.tree.get? place with
      | none => rfl
      | some node => cases node <;> rfl

end Job

namespace FileJob

variable {α β σ : Type} {writes : Bool} {job : Job α}

lemma writeBytes (path : String) (content : ByteArray) : FileJob true (writeBytes path content) := by
  apply of_put (fun w => w.writing path content) (execute_writeBytes path content)
  · intro w v alike
    simp only [writing, alike.placeOf, alike.same _]
  · intro w place node sound made
    unfold writing at made
    split at made
    · cases made
    next reached found =>
      split at made <;> cases made
      next file there => exact (sound.isOpen found).receives_file there
      next there => exact (sound.isOpen found).receives_new there

lemma setMode (path : String) (mode : Nat) : FileJob true (setMode path mode) := by
  apply of_put (fun w => w.settingMode path mode) (execute_setMode path mode)
  · intro w v alike
    simp only [settingMode, alike.placeOf, alike.same _]
  · intro w place node sound made
    unfold settingMode at made
    split at made
    · cases made
    next reached found =>
      split at made <;> cases made
      next file there => exact (sound.isOpen found).receives_file there

lemma makeDirectory (path : String) : FileJob true (makeDirectory path) := by
  apply of_put (fun w => w.making path) (execute_makeDirectory path)
  · intro w v alike
    simp only [making, alike.placeOf, alike.same _]
  · intro w place node sound made
    unfold making at made
    split at made
    · cases made
    next reached found =>
      split at made <;> cases made
      next there => exact (sound.isOpen found).receives_new there

lemma copyStatus (src dest : String) : FileJob true (copyStatus src dest) := by
  apply of_put (fun w => w.copyingStatus src dest) (execute_copyStatus src dest)
  · intro w v alike
    simp only [copyingStatus, alike.fileAt, alike.placeOf, alike.same _]
  · intro w place node sound made
    unfold copyingStatus at made
    split at made
    · cases made
    split at made
    · cases made
    next reached found =>
      split at made <;> cases made
      next copy there => exact (sound.isOpen found).receives_file there

lemma writeText (path text : String) : FileJob true (writeText path text) := by
  rw [Job.writeText]
  split
  · exact writeBytes path _
  · exact (writeBytes path _).bind fun _ => fail _

lemma touch (path : String) : FileJob true (touch path) := by
  refine (nodeAt? path).bind fun node => ?_
  split
  · exact writeBytes path _
  · exact pure ()
  · exact writeBytes path _

lemma makeEach (mayExist : Bool) (paths : List String) : FileJob true (makeEach mayExist paths) := by
  fun_induction makeEach with
  | case1 => exact pure ()
  | case2 path =>
    refine (makeDirectory path).attempt.bind fun outcome => ?_
    cases outcome with
    | ok value => exact pure ()
    | error err =>
      refine (isDirectory path).bind fun there => ?_
      split
      · exact pure ()
      · exact fail err
  | case3 path rest further ih =>
    refine (exists? path).bind fun there => ?_
    cases there with
    | true => exact ih
    | false =>
      refine (makeDirectory path).attempt.bind fun outcome => ?_
      split
      · exact ih
      · exact ih
      · exact (fail _).bind fun _ => ih

lemma makeDirectories (path : String) (mayExist : Bool) : FileJob true (makeDirectories path mayExist) := by
  rw [Job.makeDirectories]
  split
  · exact (fail _).bind fun _ => makeEach mayExist _
  · exact makeEach mayExist _

lemma copyContent (src dest : String) : FileJob true (Job.copyContent src dest) := by
  have copies : FileJob true (do Job.writeBytes dest (<- Job.readBytes src)) :=
    (readBytes src).bind fun content => writeBytes dest content
  refine (sameFile src dest).bind fun same => ?_
  cases same with
  | true => exact (fail _).bind fun _ => copies
  | false => exact copies

lemma copyFile (src dest : String) : FileJob true (copyFile src dest) :=
  (isDirectory dest).bind fun _ =>
    (copyContent src _).bind fun _ => copyStatus src _

/-! ## Copying -/

lemma mergeFile (src dest : Path) (merge : Merge) : FileJob true (Transfer.mergeFile src dest merge) := by
  refine (readText _).bind fun sourceText => (readText _).bind fun destinationText => ?_
  refine (ofExcept _).bind fun merged => (modeOf _).bind fun mode => (setMode _ mode).bind fun _ => ?_
  split
  · exact writeText _ merged
  · exact touch _

lemma placeFile (src dest : Path) (merge : Option Merge) : FileJob true (Transfer.placeFile src dest merge) := by
  cases merge with
  | none => exact copyFile _ _
  | some merge =>
    refine (isFile _).bind fun there => ?_
    cases there with
    | false => exact copyFile _ _
    | true =>
      refine (mergeFile src dest merge).attempt.bind fun outcome => ?_
      cases outcome with
      | ok value => exact pure ()
      | error err => exact copyFile _ _

end FileJob

/-! ## Resolved paths -/

namespace Tree

variable {tree : Tree} {budget more : Nat} {start place : Place} {name : String} {names rest : List String}

lemma resolveNames_cons (named : name ≠ ".") (enough : budget <= more)
    (walked : tree.route true budget start [name] = .ok place) :
    resolveNames tree more start (name :: rest) = resolveNames tree more place rest := by
  have further := route_mono enough walked
  cases budget with
  | zero => cases walked
  | succ budget =>
    rw [route, stretch] at walked
    rw [resolveNames]
    by_cases up : name = ".."
    · rw [if_pos up, stretch] at walked
      cases walked
      rw [if_pos up]
    · rw [if_neg up, if_neg named] at walked
      rw [if_neg up]
      cases found : tree.get? (start ++ [name]) with
      | none =>
        rw [found] at walked
        cases walked
        rfl
      | some node =>
        cases node with
        | link target => simp only [further]
        | file file | directory =>
          simp only [found, stretch] at walked
          cases walked
          rfl

lemma resolveNames_of_route (sound : tree.Sound) (standing : tree.get? start = some .directory)
    (proper : ∀ name ∈ names, name ≠ ".") (enough : budget <= more)
    (walked : tree.route true budget start names = .ok place) : resolveNames tree more start names = place := by
  induction names generalizing start budget with
  | nil =>
    cases budget with
    | zero => cases walked
    | succ budget =>
      cases walked
      rfl
  | cons name rest ih =>
    have named := proper name List.mem_cons_self
    by_cases last : rest = []
    · subst last
      exact resolveNames_cons named enough walked
    · change tree.route true budget start ([name] ++ rest) = _ at walked
      obtain ⟨middle, first, dir⟩ := route_append_ok sound standing last walked
      obtain ⟨left, fewer, onward⟩ := route_append true sound standing last first dir
      rw [resolveNames_cons named enough first]
      exact ih dir (fun other mem => proper other (List.mem_cons_of_mem name mem)) (by omega) (onward.symm.trans walked)

end Tree

lemma Job.execute_resolve {w : Workspace} {path : Path} {place : Place} (sound : w.Sound)
    (proper : path.Proper) (loc : w.tree.locate w.directory path = .ok place) :
    (resolve path).execute w = (.ok (Tree.pathOf place), w) := by
  have resolved := resolveNames_of_route sound.tree (get?_origin sound.standing path)
    (fun name mem => (proper name mem).2.1) le_rfl loc
  exact congrArg (fun place => (Except.ok (Tree.pathOf place), w)) resolved

end Refinery
