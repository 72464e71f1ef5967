import Refinery.Proofs.Maven.Describing
import Refinery.Proofs.Workspace.ShellGlob

namespace Refinery

open List Job Workspace Text FileJob

/-!
# What adding the missing descriptions leaves

`Survey` is what a run learns before it writes anything, and `Completed` is what it leaves.
-/

namespace FileJob

lemma execute_eq {α : Type} {job : Job α} {w : Workspace} {outcome : Except Failure α}
    (file : FileJob false job) (answers : (job.execute w).1 = outcome) : job.execute w = (outcome, w) :=
  Prod.ext answers (file.idle rfl w)

variable {writes : Bool}

lemma readJson (path : String) : FileJob writes (readJson path) :=
  (readText path).bind fun text => need .badJson (Json.parse? text)

end FileJob

namespace Maven

lemma execute_take {α β : Type} {outcome : Except Failure α} {value : α} (given : outcome = .ok value)
    (next : α -> Job β) (w : Workspace) : (ofExcept outcome >>= next).execute w = (next value).execute w := by
  rw [given, bind_ok (execute_ofExcept _ w)]

lemma map_eq_ok {α β : Type} {outcome : Except Failure α} {change : α -> β} {value : β}
    (mapped : outcome.map change = .ok value) : ∃ given, outcome = .ok given /\ change given = value := by
  cases outcome with
  | error err => cases mapped
  | ok given => exact ⟨given, rfl, Except.ok.inj mapped⟩

lemma fileJob_loadModules (path group : String) : FileJob writes (loadModules path group) := by
  refine (FileJob.isFile path).bind fun there => ?_
  cases there with
  | true => exact (FileJob.readText path).bind fun text => pure _
  | false => exact pure _

lemma fileJob_findModules (group : String) : FileJob writes (findModules group) := by
  refine (fileJob_loadModules _ group).bind fun own => ?_
  cases own.isEmpty with
  | true => exact (fileJob_loadModules _ group).bind fun shared => pure _
  | false => exact pure _

variable {w v u : Workspace} {path group : String} {start now : Library} {noted desc : List String}
  {file : FileNode}

/-! ## What a run learns first -/

structure Survey where
  repo : Doc
  group : String
  artifact : String
  name : String
  loaded : Modules
  shared : Bool
  additional : List String
  excluded : List String
  excludedPoms : List String

namespace Survey

structure Of (survey : Survey) (w : Workspace) : Prop where
  repo : ((Job.readJson ".repo-metadata.json").execute w).1 = .ok survey.repo
  distribution : distributionOf survey.repo = .ok (survey.group, survey.artifact)
  name : HasField survey.repo "name_pretty" survey.name
  versions : ((findModules survey.group).execute w).1 = .ok (survey.loaded, survey.shared)
  additional : (namesIn? survey.repo "extra_versioned_modules").map (·.getD []) = .ok survey.additional
  excluded : (namesIn? survey.repo "excluded_dependencies").map (·.getD [""]) = .ok survey.excluded
  excludedPoms : (namesIn? survey.repo "excluded_poms").map (·.getD [""]) = .ok survey.excludedPoms

/-- The main module, with its versions if they are listed. -/
def main (survey : Survey) : Module :=
  (survey.loaded.find? survey.artifact).getD ⟨survey.group, survey.artifact, "0.0.1-SNAPSHOT", "0.0.0"⟩

def parentArtifact (survey : Survey) : String :=
  survey.artifact ++ "-parent"

def parent (survey : Survey) : Module :=
  ((survey.loaded.put survey.main).find? survey.parentArtifact).getD
    { survey.main with group := survey.group, artifact := survey.parentArtifact }

def library (survey : Survey) (w : Workspace) : Library where
  group := survey.group
  main := survey.main
  parent := survey.parent
  known := (survey.loaded.put survey.main).put survey.parent
  required := ((survey.loaded.put survey.main).put survey.parent).filter fun module =>
    !survey.excluded.contains module.artifact && (!survey.shared || w.isDirectory module.artifact)
  excluded := survey.excluded

end Survey

def Found (w : Workspace) (artifact : String) : Prop :=
  artifact ∈ w.tree.list w.directory /\
    (startsWith artifact "proto-google-" = true \/ startsWith artifact "grpc-google-" = true)

lemma execute_firstRequired (lib : Library) (shared : Bool) (w : Workspace) :
    (firstRequired lib shared).execute w = (.ok (lib.known.filter fun mod =>
      !lib.excluded.contains mod.artifact && (!shared || w.isDirectory mod.artifact)), w) := by
  apply execute_filterM
  intro mod _
  cases lib.excluded.contains mod.artifact with
  | true => rfl
  | false =>
    cases shared with
    | true => exact execute_isDirectory mod.artifact w
    | false => rfl

/-! ## Folders -/

lemma begins_messages : ShellGlob.Begins "proto-google-" :=
  ⟨by decide, ⟨'p', _, rfl, by decide⟩, by decide⟩

lemma begins_services : ShellGlob.Begins "grpc-google-" :=
  ⟨by decide, ⟨'g', _, rfl, by decide⟩, by decide⟩

namespace Filled

section

variable (filled : Filled w start noted desc v now)
include filled

lemma mem_list (sound : w.Sound) (undescribed : Undescribed w) {art begin : String} (starts : startsWith art begin = true)
    (other : startsWith "pom.xml" begin = false) : art ∈ v.tree.list v.directory ↔ art ∈ w.tree.list w.directory := by
  rw [filled.extended.sound.tree.mem_list, sound.tree.mem_list, filled.extended.directory]
  constructor
  · intro present
    cases found : w.tree.get? (w.directory ++ [art]) with
    | some node => rfl
    | none =>
      obtain ⟨folder, -, loc⟩ := filled.new _ found present
      obtain ⟨above, same⟩ := placeOf_pom undescribed filled.extended loc
      have last : [art] = ["pom.xml"] := (append_inj' same rfl).2
      rw [singleton_inj.mp last, other] at starts
      cases starts
  · intro present
    obtain ⟨node, found⟩ := Option.isSome_iff_exists.mp present
    rw [filled.extended.kept _ node found]
    rfl

lemma isDirectory {art : String} (mem : art ∈ noted) (plain : IsPlain art) : w.isDirectory art = true := by
  obtain ⟨other, place, -, loc, -⟩ := filled.visited art mem
  have text : (Path.mk .relative [art, "pom.xml"]).toString = art ++ "/pom.xml" := by
    rw [pom_path, Path.toString_of_ne_nil (cons_ne_nil _ _)]
    exact String.empty_append
  have proper : (Path.mk .relative [art, "pom.xml"]).Proper := by
    intro each inside
    rcases mem_cons.mp inside with rfl | last
    · exact plain.1
    · rw [mem_singleton.mp last]
      decide
  have walked := locate_of_placeOf loc
  rw [<- text, Path.pathOf_toString proper] at walked
  have further : ["pom.xml"] ≠ [] := cons_ne_nil _ _
  have sound := filled.extended.sound
  obtain ⟨middle, reached, dir⟩ : ∃ middle, v.tree.locate v.directory ⟨.relative, [art]⟩ = .ok middle /\
      v.tree.get? middle = some .directory :=
    Tree.locate_append_ok sound.tree sound.standing further walked
  rw [filled.extended.directory] at reached
  have there := nodeAt?_of_locate (Path.proper_single plain.1) (filled.files.locate reached)
  rw [Path.toString_single, filled.files.directory dir] at there
  exact isDirectory_eq_true_iff.mpr there

lemma mem_paths (sound : w.Sound) (undescribed : Undescribed w) {begin : String} (begins : ShellGlob.Begins begin)
    (other : startsWith "pom.xml" begin = false) {names : List String} {after : Workspace}
    (finding : (ShellGlob.paths (begin ++ "*")).execute v = (.ok names, after)) : after = v /\ ∀ art, art ∈ names ↔
      art ∈ w.tree.list w.directory /\ startsWith art begin = true := by
  rw [ShellGlob.execute_paths_star filled.extended.sound begins] at finding
  cases finding
  refine ⟨rfl, fun art => ?_⟩
  rw [mem_filter]
  exact and_congr_left fun starts => filled.mem_list sound undescribed starts other

end

lemma of_runs (sound : w.Sound) (undescribed : Undescribed w) (consistent : ∀ art mod, start.required.find? art = some mod ->
      start.known.find? art = some mod) (filled : Filled w start [] [] v start) {middle : Library} {names others : List String}
    {first second third : Workspace} (finding : (ShellGlob.paths "proto-google-*").execute v = (.ok names, first))
    (describing : (names.foldlM Maven.addMessages start).execute first = (.ok middle, second))
    (findingOthers : (ShellGlob.paths "grpc-google-*").execute second = (.ok others, third))
    (describingOthers : (others.foldlM Maven.addServices middle).execute third = (.ok now, u)) :
    ∃ folders desc, (∀ art, art ∈ folders ↔ Found w art) /\ Filled w start folders desc u now := by
  obtain ⟨rfl, messages⟩ := filled.mem_paths sound undescribed begins_messages (by decide) finding
  rcases filled.run (fun so mem ran => so.addMessages undescribed consistent
    (sound.tree.mem_list.mp ((messages _).mp mem).1) ran) describing with ⟨early, halfway⟩
  obtain ⟨rfl, services⟩ := halfway.mem_paths sound undescribed begins_services (by decide) findingOthers
  rcases halfway.run (fun so mem ran => so.addServices undescribed consistent
    (sound.tree.mem_list.mp ((services _).mp mem).1) ran) describingOthers with ⟨desc, whole⟩
  refine ⟨_, desc, ?_, whole⟩
  intro art
  rw [nil_append, mem_append, messages, services, Found, and_or_left]

end Filled

/-! ## The modules that have a version -/

def Reads (w : Workspace) (path text : String) : Prop :=
  ((Job.readText path).execute w).1 = .ok text

lemma reads_iff {text : String} : Reads w path text ↔
    ∃ file, w.fileAt path = .ok file /\ ((Job.decode file.content).execute w).1 = .ok text := by
  rw [Reads, Job.readText, Job.readBytes, execute_bind, execute_bind, execute_fileAt]
  cases w.fileAt path <;> simp

lemma isFile_of_fileAt (there : w.fileAt path = .ok file) : ((w.nodeAt? path).map Node.isFile).getD false = true := by
  obtain ⟨place, loc, found⟩ := fileAt_eq_ok_iff.mp there
  rw [nodeAt?_of_placeOf loc, found]
  rfl

lemma mem_of_loadModules {mods : Modules} (ran : ((loadModules path group).execute w).1 = .ok mods) :
    mods.Distinct /\ ∀ mod, mod ∈ mods ↔ ∃ text, Reads w path text /\ LastGiven group text mod := by
  have run := (fileJob_loadModules path group).execute_eq ran
  rw [loadModules, bind_ok (execute_isFile path w)] at run
  cases isFile : ((w.nodeAt? path).map Node.isFile).getD false <;> rw [isFile] at run
  · cases run
    refine ⟨nodup_nil, fun mod => ⟨nofun, ?_⟩⟩
    rintro ⟨text, reads, -⟩
    obtain ⟨file, there, -⟩ := reads_iff.mp reads
    rw [isFile_of_fileAt there] at isFile
    cases isFile
  · rcases of_bind_ok run with ⟨text, after, reading, ended⟩
    cases ended
    have reads : Reads w path text := by
      rw [Reads, reading]
    refine ⟨distinct_modulesOfText group text, fun mod => mem_modulesOfText.trans ?_⟩
    constructor
    · intro given
      exact ⟨text, reads, given⟩
    · rintro ⟨other, readsOther, given⟩
      rw [Reads, reads] at readsOther
      cases readsOther
      exact given

lemma fileAt_versions : w.fileAt (versionsPath false) = .ok file ↔ w.fileAt "versions.txt" = .ok file := by
  have same : pathOf (versionsPath false) = pathOf "versions.txt" := by decide +kernel
  have named : versionsPath false ≠ "" ↔ "versions.txt" ≠ "" := by decide
  simp only [fileAt_eq_ok_iff, placeOf_eq_ok_iff, same, named]

lemma mem_of_findModules {loaded : Modules} {shared : Bool} (ran : ((findModules group).execute w).1 = .ok (loaded, shared)) :
    loaded.Distinct /\ (shared = true -> ∃ file, w.fileAt (versionsPath shared) = .ok file) /\ ∀ mod, mod ∈ loaded ↔
        ∃ text, Reads w (versionsPath shared) text /\ LastGiven group text mod := by
  have run := (fileJob_findModules group).execute_eq ran
  obtain ⟨own, after, loading, onward⟩ := of_bind_ok run
  have here := (fileJob_loadModules "versions.txt" group).idle rfl w
  rw [loading] at here
  subst here
  obtain ⟨distinct, listed⟩ := mem_of_loadModules (congrArg Prod.fst loading)
  have given : ∀ mod, mod ∈ own ↔ ∃ text, Reads after (versionsPath false) text /\ LastGiven group text mod := by
    intro mod
    simp only [listed, reads_iff, fileAt_versions]
  cases empty : own.isEmpty <;> rw [empty] at onward
  · cases onward
    exact ⟨distinct, nofun, given⟩
  · rcases of_bind_ok onward with ⟨above, last, loadingAbove, ended⟩
    obtain ⟨distinctAbove, listedAbove⟩ := mem_of_loadModules (congrArg Prod.fst loadingAbove)
    cases above with
    | nil =>
      cases ended
      rw [List.isEmpty_iff] at empty
      rw [empty] at given
      exact ⟨nodup_nil, nofun, given⟩
    | cons first rest =>
      cases ended
      refine ⟨distinctAbove, fun _ => ?_, listedAbove⟩
      obtain ⟨text, reads, -⟩ := (listedAbove first).mp mem_cons_self
      obtain ⟨file, there, -⟩ := reads_iff.mp reads
      exact ⟨file, there⟩

/-! ## The library at the start -/

namespace Survey

variable {survey : Survey}

lemma library_printed (survey : Survey) (printed : w.Printed v) : survey.library v = survey.library w := by
  rw [printed]
  rfl

lemma artifact_main (survey : Survey) : survey.main.artifact = survey.artifact := by
  rw [main]
  cases found : survey.loaded.find? survey.artifact with
  | none => rfl
  | some mod => exact Modules.artifact_of_find? found

lemma artifact_parent (survey : Survey) : survey.parent.artifact = survey.parentArtifact := by
  rw [parent]
  cases found : (survey.loaded.put survey.main).find? survey.parentArtifact with
  | none => rfl
  | some mod => exact Modules.artifact_of_find? found

lemma parentArtifact_ne (survey : Survey) : survey.parentArtifact ≠ survey.artifact := by
  intro same
  have long := congrArg String.length same
  rw [parentArtifact, String.length_append] at long
  exact absurd long (by simp)

lemma find?_known (survey : Survey) (w : Workspace) (art : String) : (survey.library w).known.find? art =
      if art = survey.parentArtifact then some survey.parent
      else if art = survey.artifact then some survey.main else survey.loaded.find? art := by
  rw [library, Modules.find?_put, Modules.find?_put, artifact_parent, artifact_main]

lemma find?_required (survey : Survey) (w : Workspace) (art : String) : (survey.library w).required.find? art =
      if (!survey.excluded.contains art && (!survey.shared || w.isDirectory art)) = true then
        (survey.library w).known.find? art else none := by
  exact Modules.find?_filter _ (fun art =>
    !survey.excluded.contains art && (!survey.shared || w.isDirectory art)) art

lemma consistent (survey : Survey) (w : Workspace) (art : String) (mod : Module)
    (found : (survey.library w).required.find? art = some mod) : (survey.library w).known.find? art = some mod := by
  rw [find?_required] at found
  split at found
  · exact found
  · cases found

lemma Of.distinct (surveyed : survey.Of w) : (survey.library w).known.Distinct :=
  ((mem_of_findModules surveyed.versions).1.put survey.main).put survey.parent

end Survey

/-! ## A run to the end -/

/-- What is done after the survey, for the library as it is known then. -/
def Survey.finish (survey : Survey) (start : Library) : Job Unit := do
  let middle <- (<- ShellGlob.paths "proto-google-*").foldlM addMessages start
  let now <- (<- ShellGlob.paths "grpc-google-*").foldlM addServices middle
  if Modules.isCloudClient (now.known.map (·.artifact)) then
    describeLibrary now survey.repo survey.name survey.excludedPoms
    printLine ("updating modules in " ++ versionsPath survey.shared)
    writeInFolder (versionsPath survey.shared) (versionList (now.versioned survey.additional))
  else printLine "no proto or grpc modules - probably not a cloud client"

lemma execute_addMissing {survey : Survey} (sound : w.Sound) (surveyed : survey.Of w)
    (standard : survey.artifact ∉ specialArtifacts) :
    ∃ v, w.Printed v /\ addMissing.execute w = (survey.finish (survey.library w)).execute v := by
  have printing (line : String) (v : Workspace) :
      (printLine line).execute v = (.ok (), ((printLine line).execute v).2) := rfl
  obtain ⟨pretty, name, shown⟩ := map_eq_ok surveyed.name
  obtain ⟨_, additional, added⟩ := map_eq_ok surveyed.additional
  obtain ⟨_, excluded, left⟩ := map_eq_ok surveyed.excluded
  obtain ⟨_, excludedPoms, leftPoms⟩ := map_eq_ok surveyed.excludedPoms
  have ordinary : ¬ specialArtifacts.contains survey.artifact = true := by
    simpa using standard
  rw [addMissing, bind_ok (execute_workingDirectory w), bind_ok (printing _ w)]
  have started := (Printed.refl w).print (printing ("working directory: " ++ (Tree.pathOf w.directory).toString) w)
  rw [started.look sound (FileJob.readJson _) surveyed.repo, execute_take surveyed.distribution]
  rw [execute_take name, started.look sound (fileJob_findModules _) surveyed.versions]
  rw [bind_ok (printing _ _)]
  have printed := started.print (printing ("monorepo? " ++ if survey.shared = true then "True" else "False") _)
  rw [execute_take additional, execute_take excluded, execute_take excludedPoms, if_neg ordinary,
    bind_ok (execute_firstRequired _ _ _), added, left, leftPoms, shown]
  refine ⟨_, printed, ?_⟩
  rfl

/-- A run that ends well and does not stop early, without descriptions before. -/
structure Finishes (survey : Survey) (w v : Workspace) : Prop where
  sound : w.Sound
  undescribed : Undescribed w
  surveyed : survey.Of w
  /-- A link to the versions leads to a file. -/
  linked : ∀ target, w.tree.get? (w.directory ++ ["versions.txt"]) = some (.link target) ->
    ∃ file, w.fileAt "versions.txt" = .ok file
  standard : survey.artifact ∉ specialArtifacts
  /-- There is a module of messages or services. -/
  client : ∃ artifact, (startsWith artifact "proto-" = true \/ startsWith artifact "grpc-" = true) /\
    ((survey.library w).known.has artifact = true \/ Found w artifact)
  ran : addMissing.execute w = (.ok (), v)

structure Completed (survey : Survey) (w : Workspace) (folders described : List String) (now : Library)
    (v : Workspace) : Prop where
  found : ∀ artifact, artifact ∈ folders ↔ Found w artifact
  directories : ∀ artifact, Found w artifact -> w.isDirectory artifact = true
  library : Library.Noted (survey.library w) folders described now
  within : ∀ artifact ∈ described, artifact ∈ folders
  own : ∀ artifact ∈ described, ∃ target text, Describes (survey.library w) target text /\
    v.fileAt (artifact ++ "/pom.xml") = .ok { content := text.toUTF8 } /\
    now.known.find? artifact = some target
  visited : ∀ artifact ∈ folders, ∃ other place, other ∈ described /\ v.placeOf (artifact ++ "/pom.xml") true = .ok place /\
    v.placeOf (other ++ "/pom.xml") true = .ok place
  client : survey.excludedPoms.contains survey.artifact = false -> ClientDescribed now survey.repo survey.name v
  bill : survey.excludedPoms.contains (survey.artifact ++ "-bom") = false -> BillDescribed now survey.repo survey.name v
  whole : WholeDescribed now survey.repo survey.name v
  versions : ∃ file, v.fileAt (versionsPath survey.shared) = .ok file /\
    file.content = (versionList (now.versioned survey.additional)).toUTF8

namespace Finishes

variable {survey : Survey}

variable (finishes : Finishes survey w v)
include finishes

lemma firm : Firm w survey.shared := by
  obtain ⟨-, there, -⟩ := mem_of_findModules finishes.surveyed.versions
  cases shared : survey.shared with
  | true =>
    rw [shared] at there
    exact .inl (there rfl)
  | false =>
    by_cases link : ∃ target, w.tree.get? (w.directory ++ ["versions.txt"]) = some (.link target)
    · rcases link with ⟨target, found⟩
      obtain ⟨file, present⟩ := finishes.linked target found
      exact .inl ⟨file, fileAt_versions.mpr present⟩
    · exact .inr ⟨rfl, fun target found => link ⟨target, found⟩⟩

lemma isCloudClient {folders desc : List String} (found : ∀ art, art ∈ folders ↔ Found w art)
    (noted : Library.Noted (survey.library w) folders desc now) : Modules.isCloudClient (now.known.map Module.artifact) = true := by
  obtain ⟨art, starts, there⟩ := finishes.client
  rw [Modules.isCloudClient, any_eq_true]
  refine ⟨art, ?_, by simpa using starts⟩
  rw [<- Modules.has_eq_true_iff, Modules.has, noted.known]
  rcases there with known | inside
  · rw [Option.isSome_or, Bool.or_eq_true]
    exact .inl known
  · rw [Option.isSome_or, if_pos ((found art).mpr inside), Bool.or_eq_true]
    exact .inr rfl

lemma stages : ∃ folders desc now visited after printed, (∀ art, art ∈ folders ↔ Found w art) /\
    Filled w (survey.library w) folders desc visited now /\
    (describeLibrary now survey.repo survey.name survey.excludedPoms).execute visited = (.ok (), after) /\
    after.Printed printed /\ (writeInFolder (versionsPath survey.shared) (versionList (now.versioned survey.additional))).execute
      printed = (.ok (), v) := by
  have sound := finishes.sound
  obtain ⟨first, printed, same⟩ := execute_addMissing sound finishes.surveyed finishes.standard
  have ran := finishes.ran
  rw [same, Survey.finish] at ran
  obtain ⟨names, second, finding, onward⟩ := of_bind_ok ran
  obtain ⟨middle, third, describing, onward⟩ := of_bind_ok onward
  obtain ⟨others, fourth, findingOthers, onward⟩ := of_bind_ok onward
  obtain ⟨now, visited, describingOthers, onward⟩ := of_bind_ok onward
  have distinct := finishes.surveyed.distinct
  have start : Filled w (survey.library w) [] [] first (survey.library w) :=
    .nothing sound distinct (distinct.filter _) printed
  rcases start.of_runs sound finishes.undescribed (survey.consistent w) finding describing findingOthers
    describingOthers with ⟨folders, desc, found, filled⟩
  rw [if_pos (finishes.isCloudClient found filled.library)] at onward
  obtain ⟨_, after, describingLibrary, onward⟩ := of_bind_ok onward
  obtain ⟨_, last, printing, wrote⟩ := of_bind_ok onward
  exact ⟨folders, desc, now, visited, after, last, found, filled, describingLibrary, (Printed.refl after).print printing, wrote⟩

lemma completes : ∃ folders desc now, Completed survey w folders desc now v := by
  have sound := finishes.sound
  obtain ⟨folders, desc, now, visited, after, printed, found, filled, describing, printing, wrote⟩ := finishes.stages
  obtain ⟨extended, client, bill, whole⟩ := describeLibrary_ok filled.extended.sound describing
  have last := printing.extended extended.sound
  rcases versions_written finishes.undescribed finishes.firm
    (filled.extended.trans (extended.trans last)) wrote with ⟨versions, stays⟩
  have kept {s : String} {file : FileNode} (there : after.fileAt (s ++ "/pom.xml") = .ok file) :
      v.fileAt (s ++ "/pom.xml") = .ok file := fileAt_of_stays stays (last.fileAt there)
  have main : now.main.artifact = survey.artifact := by
    rw [filled.library.main]
    exact survey.artifact_main
  refine ⟨folders, desc, now, ⟨found, ?_, filled.library, filled.within, ?_, ?_, ?_, ?_, ?_, versions⟩⟩
  · intro art inside
    have listed := sound.tree.mem_list.mp inside.1
    obtain ⟨node, present⟩ := Option.isSome_iff_exists.mp listed
    exact filled.isDirectory ((found art).mpr inside) (sound.tree.isPlain present art (by simp))
  · intro art mem
    obtain ⟨target, text, describes, there, known⟩ := filled.own art mem
    exact ⟨target, text, describes, kept (extended.fileAt there), known⟩
  · intro art mem
    obtain ⟨other, place, its, loc, reached⟩ := filled.visited art mem
    obtain ⟨file, present⟩ := filled.present its reached
    have whole := extended.trans last
    have there := whole.kept _ _ present
    exact ⟨other, place, its, (stays _ place file (whole.placeOf loc present) there).1,
      (stays _ place file (whole.placeOf reached present) there).1⟩
  · intro wanted
    rw [<- main] at wanted
    exact (client wanted).kept kept
  · intro wanted
    rw [<- main] at wanted
    exact (bill wanted).kept kept
  · exact whole.kept kept

end Finishes

end Maven
end Refinery
