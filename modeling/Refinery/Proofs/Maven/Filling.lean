import Refinery.Proofs.Maven.Library
import Refinery.Proofs.Tree.Outline
import Refinery.Proofs.Workspace.Adding

namespace Refinery.Maven

open List Job Workspace PathText Refinery.Tree

/-!
# Descriptions of folders

`Filled` says what a run over folders has done so far: it only added files, each the description of a folder,
which gives the module as it is known.
-/

variable {w v u : Workspace} {s name text path : String} {place : Place} {file : FileNode} {target : Module}

/-! ## Writing into a folder -/

lemma execute_writeInFolder (path text : String) (w : Workspace) : (writeInFolder path text).execute w =
      if w.isDirectory (directory path) then (writeText path text).execute w
      else (makeDirectories (directory path) false >>= fun _ => writeText path text).execute w := by
  rw [writeInFolder, bind_ok (execute_isDirectory _ w)]
  cases w.isDirectory (directory path) <;> rfl

section

variable (sound : w.Sound) (loc : w.placeOf path true = .ok place) (missing : w.tree.get? place = none)
include sound loc missing

lemma placeOf_added : w.Extended (w.put (some (place, .file file))) /\
      (w.put (some (place, .file file))).placeOf path true = .ok place /\
      (w.put (some (place, .file file))).tree.get? place = some (.file file) := by
  have extended : w.Extended (w.put (some (place, .file file))) :=
    .put sound (sound.isOpen loc) missing rfl
  have named : place ≠ [] := by
    rintro rfl
    cases missing
  have there : (w.put (some (place, .file file))).tree.get? place = some (.file file) :=
    (get?_insert w.tree place place (.file file) named).trans (if_pos rfl)
  refine ⟨extended, ?_, there⟩
  rw [placeOf_eq_ok_iff] at loc ⊢
  exact ⟨loc.1, extended.grows.locate_put loc.2 (by rw [there]; simp)⟩

lemma fileAt_added : (w.put (some (place, .file file))).fileAt path = .ok file := by
  obtain ⟨-, reached, there⟩ := placeOf_added sound loc missing
  exact fileAt_eq_ok_iff.mpr ⟨place, reached, there⟩

end

lemma writeInFolder_new (sound : w.Sound) (plain : IsPlain name)
    (notFile : ((w.nodeAt? (s ++ "/" ++ name)).map Node.isFile).getD false = false)
    (wrote : (writeInFolder (s ++ "/" ++ name) text).execute w = (.ok (), u)) :
    w.Extended u /\ u.fileAt (s ++ "/" ++ name) = .ok { content := text.toUTF8 } := by
  rw [execute_writeInFolder] at wrote
  cases dir : w.isDirectory (directory (s ++ "/" ++ name)) <;> rw [dir] at wrote
  · rcases of_bind_ok wrote with ⟨_, between, made, written⟩
    obtain ⟨first, folder, reached, clear⟩ := placeOf_in_made sound plain made
    have still : ((between.nodeAt? (s ++ "/" ++ name)).map Node.isFile).getD false = false := by
      rw [nodeAt?_of_placeOf reached, clear]
      rfl
    obtain ⟨place, loc, missing, rfl⟩ := writeText_new still written
    exact ⟨first.trans (placeOf_added first.sound loc missing).1, fileAt_added first.sound loc missing⟩
  · rcases writeText_new notFile wrote with ⟨place, loc, missing, rfl⟩
    exact ⟨(placeOf_added sound loc missing).1, fileAt_added sound loc missing⟩

lemma placeOf_here (sound : w.Sound) (plain : IsPlain name) : w.placeOf name false = .ok (w.directory ++ [name]) := by
  have here : w.tree.locate w.directory Path.here = .ok w.directory := rfl
  have loc : w.tree.locate w.directory ⟨.relative, [name]⟩ false = .ok (w.directory ++ [name]) :=
    locate_below sound.tree sound.standing here sound.standing (cons_ne_nil name [])
      (sound.tree.open_child sound.standing plain) (fun follow => absurd follow Bool.false_ne_true)
  have reached := placeOf_of_locate (Path.proper_single plain.1) loc
  rwa [Path.toString_single] at reached

lemma isDirectory_of_write (sound : w.Sound) (folder : IsPlain path) (isName : IsName name)
    (present : (w.tree.get? (w.directory ++ [path])).isSome)
    (wrote : (writeInFolder (path ++ "/" ++ name) text).execute w = (.ok (), u)) : w.isDirectory path = true := by
  rw [execute_writeInFolder, Path.directory_name folder.1 isName.2.2] at wrote
  cases dir : w.isDirectory path with
  | true => rfl
  | false =>
    rw [dir, if_neg Bool.false_ne_true] at wrote
    obtain ⟨_, between, made, -⟩ := of_bind_ok wrote
    obtain ⟨early, place, extended, reached, missing, -⟩ := makeDirectories_last sound made
    have trimmed := Path.trimRightBy_toString (Path.proper_single folder.1) (cons_ne_nil path [])
    rw [Path.toString_single] at trimmed
    rw [trimmed, placeOf_here extended.sound folder] at reached
    cases reached
    obtain ⟨node, found⟩ := Option.isSome_iff_exists.mp present
    rw [extended.directory, extended.kept _ node found] at missing
    cases missing

/-! ## Descriptions -/

def Undescribed (w : Workspace) : Prop :=
  ∀ place node, w.tree.get? (place ++ ["pom.xml"]) = some node -> node = .directory

lemma pom_path (s : String) : s ++ "/pom.xml" = s ++ "/" ++ "pom.xml" := by
  rw [String.append_assoc]
  rfl

lemma placeOf_pom (undescribed : Undescribed w) (extended : w.Extended v)
    (loc : v.placeOf (s ++ "/pom.xml") true = .ok place) : ∃ above, place = above ++ ["pom.xml"] := by
  have walked := locate_of_placeOf loc
  rw [pom_path, Path.pathOf_child s (by decide)] at walked
  have noLink : ∀ above target, v.tree.get? (above ++ ["pom.xml"]) ≠ some (.link target) := by
    intro above target found
    cases undescribed above _ (extended.links _ target found)
  exact @Tree.locate_named v.tree place v.directory
    ⟨(Path.ofString (s ++ "/" ++ "pom.xml")).anchor, Path.namesOf s⟩ "pom.xml" extended.sound.tree
    extended.sound.standing (by decide) noLink walked

def Describes (library : Library) (target : Module) (text : String) : Prop :=
  text = Pom.messages target library.parent library.main \/
    ∃ messages, text = Pom.services target library.parent library.main messages

structure Filled (w : Workspace) (start : Library) (noted described : List String) (v : Workspace)
    (now : Library) : Prop where
  extended : w.Extended v
  files : Fills w.tree v.tree
  library : Library.Noted start noted described now
  within : ∀ artifact ∈ described, artifact ∈ noted
  /-- Only descriptions are new. -/
  new : ∀ place, w.tree.get? place = none -> (v.tree.get? place).isSome ->
    ∃ artifact, artifact ∈ described /\ v.placeOf (artifact ++ "/pom.xml") true = .ok place
  /-- A description is the one of the module as it is known. -/
  own : ∀ artifact ∈ described, ∃ target text, Describes start target text /\
    v.fileAt (artifact ++ "/pom.xml") = .ok { content := text.toUTF8 } /\
    now.known.find? artifact = some target
  /-- A folder without a description of its own is another name of a described one. -/
  visited : ∀ artifact ∈ noted, ∃ other place, other ∈ described /\ v.placeOf (artifact ++ "/pom.xml") true = .ok place /\
    v.placeOf (other ++ "/pom.xml") true = .ok place

namespace Filled

variable {start now : Library} {noted desc : List String}

lemma nothing (sound : w.Sound) (known : start.known.Distinct) (required : start.required.Distinct)
    (printed : w.Printed v) : Filled w start [] [] v start := by
  refine ⟨printed.extended sound, ?_, .nothing known required, ?_, ?_, ?_, ?_⟩
  · rw [printed]
    exact .refl w.tree
  · intro art mem
    exact mem
  · intro place missing present
    rw [printed, missing] at present
    cases present
  · intro art mem
    cases mem
  · intro art mem
    cases mem

section

variable (filled : Filled w start noted desc v now)
include filled

lemma printed (text : String) : Filled w start noted desc ((printLine text).execute v).2 now :=
  ⟨filled.extended.trans (Extends.printLine text v filled.extended.sound), filled.files,
    filled.library, filled.within, filled.new, filled.own, filled.visited⟩

lemma shared (undescribed : Undescribed w) (isFile : ((v.nodeAt? (path ++ "/pom.xml")).map Node.isFile).getD false = true) :
    ∃ other place, other ∈ desc /\ v.placeOf (path ++ "/pom.xml") true = .ok place /\
      v.placeOf (other ++ "/pom.xml") true = .ok place := by
  rw [isFile_eq] at isFile
  obtain ⟨place, reached⟩ := Option.isSome_iff_exists.mp isFile
  obtain ⟨loc, file, found⟩ := filePlace?_eq_some_iff.mp reached
  obtain ⟨above, rfl⟩ := placeOf_pom undescribed filled.extended loc
  have missing : w.tree.get? (above ++ ["pom.xml"]) = none := by
    cases before : w.tree.get? (above ++ ["pom.xml"]) with
    | none => rfl
    | some node =>
      rw [filled.extended.kept _ node before, undescribed above node before] at found
      cases found
  obtain ⟨other, mem, reached⟩ := filled.new _ missing (by rw [found]; rfl)
  exact ⟨other, _, mem, loc, reached⟩

lemma skip (undescribed : Undescribed w) (isFile : ((v.nodeAt? (path ++ "/pom.xml")).map Node.isFile).getD false = true) :
    Filled w start (noted ++ [path]) desc v (now.discover path) := by
  refine ⟨filled.extended, filled.files, filled.library.discover path, ?_, filled.new, ?_, ?_⟩
  · intro art mem
    exact mem_append_left _ (filled.within art mem)
  · intro art mem
    obtain ⟨target, text, describes, there, known⟩ := filled.own art mem
    exact ⟨target, text, describes, there, Library.find?_known_discover_of_some known path⟩
  · intro art mem
    rcases mem_append.mp mem with before | last
    · exact filled.visited art before
    · rw [mem_singleton.mp last]
      exact filled.shared undescribed isFile

lemma present {art : String} (mem : art ∈ desc) (loc : v.placeOf (art ++ "/pom.xml") true = .ok place) :
    ∃ file, v.tree.get? place = some (.file file) := by
  obtain ⟨target, text, -, there, -⟩ := filled.own art mem
  obtain ⟨other, reached, found⟩ := fileAt_eq_ok_iff.mp there
  rw [loc] at reached
  cases reached
  exact ⟨_, found⟩

lemma not_described (notFile : ((v.nodeAt? (path ++ "/pom.xml")).map Node.isFile).getD false = false) : path ∉ desc := by
  intro mem
  obtain ⟨target, text, -, there, -⟩ := filled.own path mem
  obtain ⟨place, loc, found⟩ := fileAt_eq_ok_iff.mp there
  rw [nodeAt?_of_placeOf loc, found] at notFile
  cases notFile

lemma known_of_needed (undescribed : path ∉ desc) (consistent : ∀ art mod, start.required.find? art = some mod ->
      start.known.find? art = some mod) (needed : (now.discover path).required.find? path = some target) :
    (now.discover path).known.find? path = some target := by
  have after := filled.library.discover path
  rw [after.required] at needed
  rw [after.known]
  split at needed
  · rename_i new
    rcases new.2 with before | ⟨-, absent⟩
    · exact absurd before undescribed
    · rwa [absent, Option.none_or, if_pos (by simp)]
  · rw [consistent path target needed, Option.some_or]

lemma describe (consistent : ∀ art mod, start.required.find? art = some mod ->
      start.known.find? art = some mod) (listed : (w.tree.get? (w.directory ++ [path])).isSome)
    (notFile : ((v.nodeAt? (path ++ "/pom.xml")).map Node.isFile).getD false = false)
    (needed : (now.discover path).required.find? path = some target) (describes : Describes start target text)
    (wrote : (writeInFolder (path ++ "/pom.xml") text).execute v = (.ok (), u)) :
    Filled w start (noted ++ [path]) (desc ++ [path]) u ((now.discover path).require path) := by
  have sound := filled.extended.sound
  obtain ⟨node, found⟩ := Option.isSome_iff_exists.mp listed
  have kept := filled.extended.kept _ node found
  rw [<- filled.extended.directory] at kept
  have plain : IsPlain path := sound.tree.isPlain kept path (by simp)
  have dir : v.isDirectory path = true := by
    rw [pom_path] at wrote
    exact isDirectory_of_write sound plain (by decide) (by rw [kept]; rfl) wrote
  have folder : directory (path ++ "/pom.xml") = path := by
    rw [pom_path]
    exact Path.directory_name plain.1 (by decide)
  rw [execute_writeInFolder, folder, if_pos dir] at wrote
  obtain ⟨place, loc, missing, rfl⟩ := writeText_new notFile wrote
  obtain ⟨extended, reached, there⟩ := placeOf_added sound loc missing
  have fresh := filled.not_described notFile
  refine ⟨filled.extended.trans extended, filled.files.trans (.insert missing),
    (filled.library.discover path).require path, ?_, ?_, ?_, ?_⟩
  · intro art mem
    rcases mem_append.mp mem with before | last
    · exact mem_append_left _ (filled.within art before)
    · exact mem_append_right _ last
  · intro other absent present
    by_cases here : other = place
    · subst here
      exact ⟨path, by simp, reached⟩
    · have named : place ≠ [] := by
        rintro rfl
        cases missing
      have same : (v.put (some (place, .file { content := text.toUTF8 }))).tree.get? other =
          v.tree.get? other := (get?_insert v.tree place other _ named).trans (if_neg here)
      rw [same] at present
      obtain ⟨art, mem, leads⟩ := filled.new other absent present
      obtain ⟨node, found⟩ := Option.isSome_iff_exists.mp present
      exact ⟨art, mem_append_left _ mem, extended.placeOf leads found⟩
  · intro art mem
    rw [Library.known_require]
    rcases mem_append.mp mem with before | last
    · rcases filled.own art before with ⟨known, its, describes, written, found⟩
      exact ⟨known, its, describes, extended.fileAt written, Library.find?_known_discover_of_some found path⟩
    · rw [mem_singleton.mp last]
      exact ⟨target, text, describes, fileAt_eq_ok_iff.mpr ⟨place, reached, there⟩, filled.known_of_needed fresh consistent needed⟩
  · intro art mem
    rcases mem_append.mp mem with before | last
    · rcases filled.visited art before with ⟨other, spot, desc, leads, otherLeads⟩
      obtain ⟨file, found⟩ := filled.present desc otherLeads
      exact ⟨other, spot, mem_append_left _ desc, extended.placeOf leads found, extended.placeOf otherLeads found⟩
    · rw [mem_singleton.mp last]
      exact ⟨path, place, by simp, reached, reached⟩

end

/-! ## Runs over folders -/

section Runs

variable {next : Library} (undescribed : Undescribed w)
  (consistent : ∀ art mod, start.required.find? art = some mod -> start.known.find? art = some mod)

include undescribed consistent

variable (filled : Filled w start noted desc v now) (listed : (w.tree.get? (w.directory ++ [path])).isSome)
include filled listed

lemma visit {fill : Job Library} (fills : fill.execute v = (.ok next, u) -> ∃ line target text,
      (now.discover path).required.find? path = some target /\ Describes start target text /\
      (writeInFolder (path ++ "/pom.xml") text).execute ((printLine line).execute v).2 = (.ok (), u) /\
      next = (now.discover path).require path) (ran : (Job.isFile (path ++ "/pom.xml") >>= fun there =>
      if there = true then pure (now.discover path) else fill).execute v = (.ok next, u)) :
    ∃ desc, Filled w start (noted ++ [path]) desc u next := by
  rw [bind_ok (execute_isFile _ v)] at ran
  cases isFile : ((v.nodeAt? (path ++ "/pom.xml")).map Node.isFile).getD false <;> rw [isFile] at ran
  · rcases fills ran with ⟨line, target, text, needed, describes, wrote, rfl⟩
    exact ⟨_, (filled.printed line).describe consistent listed isFile needed describes wrote⟩
  · cases ran
    exact ⟨desc, filled.skip undescribed isFile⟩

lemma addMessages (ran : (Maven.addMessages now path).execute v = (.ok next, u)) :
    ∃ desc, Filled w start (noted ++ [path]) desc u next := by
  refine filled.visit undescribed consistent listed ?_ ran
  intro filling
  obtain ⟨_, after, printing, onward⟩ := of_bind_ok filling
  obtain ⟨target, between, needing, onward⟩ := of_bind_ok onward
  rw [execute_ofExcept, Prod.mk.injEq, Modules.need_eq_ok_iff] at needing
  obtain ⟨needed, rfl⟩ := needing
  obtain ⟨_, last, wrote, ended⟩ := of_bind_ok onward
  cases ended
  cases printing
  have so := filled.library.discover path
  rw [so.parent, so.main] at wrote
  exact ⟨_, target, _, needed, .inl rfl, wrote, rfl⟩

lemma addServices (ran : (Maven.addServices now path).execute v = (.ok next, u)) :
    ∃ desc, Filled w start (noted ++ [path]) desc u next := by
  refine filled.visit undescribed consistent listed ?_ ran
  intro filling
  obtain ⟨_, after, printing, onward⟩ := of_bind_ok filling
  obtain ⟨target, between, needing, onward⟩ := of_bind_ok onward
  rw [execute_ofExcept, Prod.mk.injEq, Modules.need_eq_ok_iff] at needing
  obtain ⟨needed, rfl⟩ := needing
  obtain ⟨messages, between, finding, onward⟩ := of_bind_ok onward
  rw [execute_ofExcept, Prod.mk.injEq] at finding
  obtain ⟨-, rfl⟩ := finding
  obtain ⟨_, last, wrote, ended⟩ := of_bind_ok onward
  cases ended
  cases printing
  have so := filled.library.discover path
  rw [so.parent, so.main] at wrote
  exact ⟨_, target, _, needed, .inr ⟨messages, rfl⟩, wrote, rfl⟩

end Runs

lemma run {step : Library -> String -> Job Library} {folders : List String} {next : Library}
    (each : ∀ {noted desc : List String} {v u : Workspace} {now next : Library} {path : String},
      Filled w start noted desc v now -> path ∈ folders -> (step now path).execute v = (.ok next, u) ->
      ∃ desc, Filled w start (noted ++ [path]) desc u next) (filled : Filled w start noted desc v now)
    (ran : (folders.foldlM step now).execute v = (.ok next, u)) : ∃ desc, Filled w start (noted ++ folders) desc u next := by
  induction folders generalizing noted desc v now with
  | nil =>
    cases ran
    rw [append_nil]
    exact ⟨desc, filled⟩
  | cons path rest ih =>
    obtain ⟨middle, between, first, later⟩ := of_bind_ok ran
    obtain ⟨more, done⟩ := each filled mem_cons_self first
    obtain ⟨all, whole⟩ := ih (fun so mem => each so (mem_cons_of_mem path mem)) done later
    refine ⟨all, ?_⟩
    rwa [append_assoc] at whole

end Filled

end Refinery.Maven
