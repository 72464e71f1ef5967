import Refinery.Proofs.Maven.Progress

namespace Refinery.Maven

open List Job Workspace Text

/-!
# No module is lost or repeated

Two lists are given by the artifacts that a run started from: those with versions, the names that the patterns
find, and the additional and excluded ones.
-/

variable {w v : Workspace} {survey : Survey} {folders described : List String} {now : Library}
  {artifact : String} {module : Module}

/-! ## Lines of versions -/

/-- A line in the list of versions. -/
structure VersionEntry where
  artifact : String
  released : String
  version : String
  deriving DecidableEq

namespace VersionEntry

def line (entry : VersionEntry) : String :=
  entry.artifact ++ ":" ++ entry.released ++ ":" ++ entry.version

/-- The text of a list of versions. -/
def listing (entries : List VersionEntry) : String :=
  "# Format:\n# module:released-version:current-version\n" ++ String.join (entries.map fun entry => "\n" ++ entry.line) ++ "\n"

end VersionEntry

/-- The line of a module, with the current version if none is released. -/
def Module.entry (module : Module) : VersionEntry where
  artifact := module.artifact
  released := if module.released = "" then module.version else module.released
  version := module.version

lemma versionLine_eq (module : Module) : versionLine module = module.entry.line := by
  simp only [versionLine, VersionEntry.line, Module.entry]

lemma versionList_eq (mods : Modules) : versionList mods = VersionEntry.listing (mods.map Module.entry) := by
  unfold versionList VersionEntry.listing
  simp only [versionLine_eq, map_map, Function.comp_def]

namespace Survey

def Lists (survey : Survey) (w : Workspace) (module : Module) : Prop :=
  ∃ text, Reads w (versionsPath survey.shared) text /\ LastGiven survey.group text module

def ListsArtifact (survey : Survey) (w : Workspace) (artifact : String) : Prop :=
  ∃ module, survey.Lists w module /\ module.artifact = artifact

/-- A line that belongs in the list of versions: of a listed module other than the parent, or of a new one
with the main versions. -/
def Versions (survey : Survey) (w : Workspace) (entry : VersionEntry) : Prop :=
  (∃ module, survey.Lists w module /\ module.artifact ≠ survey.parentArtifact /\ module.entry = entry) \/
    ¬ survey.ListsArtifact w entry.artifact /\
      (entry.artifact = survey.artifact \/ Found w entry.artifact \/ entry.artifact ∈ survey.additional) /\
      { survey.main.entry with artifact := entry.artifact } = entry

def Bundles (survey : Survey) (w : Workspace) (artifact : String) : Prop :=
  ((survey.ListsArtifact w artifact /\ (survey.shared = true -> w.isDirectory artifact = true)) \/ Found w artifact) /\
    artifact ∉ survey.excluded /\ contains survey.parentArtifact artifact = false

lemma Of.find?_loaded (surveyed : survey.Of w) :
    survey.loaded.find? artifact = some module ↔ survey.Lists w module /\ module.artifact = artifact := by
  rcases mem_of_findModules surveyed.versions with ⟨distinct, -, listed⟩
  rw [Lists, <- listed, distinct.mem_iff]
  constructor
  · intro found
    have same := Modules.artifact_of_find? found
    rw [same]
    exact ⟨found, rfl⟩
  · rintro ⟨found, rfl⟩
    exact found

lemma Of.find?_loaded_eq_none (surveyed : survey.Of w) :
    survey.loaded.find? artifact = none ↔ ¬ survey.ListsArtifact w artifact := by
  rw [Option.eq_none_iff_forall_not_mem, ListsArtifact, not_exists]
  exact forall_congr' fun module => not_congr surveyed.find?_loaded

/-! ## Names of the parent -/

lemma part_of_parent (survey : Survey) : contains survey.parentArtifact survey.artifact = true := by
  rw [contains_iff, parentArtifact, String.toList_append]
  exact (prefix_append _ _).isInfix

lemma starts_of_parent (start : String) (starts : startsWith survey.parentArtifact (start ++ "google-") = true) :
    contains survey.artifact start = true := by
  rw [startsWith_iff, parentArtifact, String.toList_append, String.toList_append] at starts
  rw [contains_iff]
  have long := starts.length_le
  rw [length_append, length_append] at long
  have short : start.toList.length <= survey.artifact.toList.length := by
    change _ + 7 <= _ + 7 at long
    omega
  exact (prefix_of_prefix_length_le ((prefix_append _ _).trans starts) (prefix_append _ _) short).isInfix

lemma not_found_parent (noMessages : contains survey.artifact "proto-" = false)
    (noServices : contains survey.artifact "grpc-" = false) : ¬ Found w survey.parentArtifact := by
  rintro ⟨-, starts | starts⟩
  · rw [starts_of_parent "proto-" starts] at noMessages
    cases noMessages
  · rw [starts_of_parent "grpc-" starts] at noServices
    cases noServices

end Survey

/-! ## What the tables hold in the end -/

namespace Completed

section

variable (done : Completed survey w folders described now v)
include done

lemma artifact_parent : now.parent.artifact = survey.parentArtifact := by
  rw [done.library.parent]
  exact survey.artifact_parent

lemma artifact_main : now.main.artifact = survey.artifact := by
  rw [done.library.main]
  exact survey.artifact_main

lemma find?_versions (other : artifact ≠ survey.parentArtifact) :
    (now.versioned survey.additional).find? artifact = (survey.loaded.find? artifact).or
        (if artifact = survey.artifact then some survey.main
        else if artifact ∈ folders \/ artifact ∈ survey.additional then some ((survey.library w).sibling artifact) else none) := by
  rw [Library.find?_versioned, done.artifact_parent, if_neg other, done.library.known, survey.find?_known,
    if_neg other, done.library.sibling]
  by_cases main : artifact = survey.artifact
  · rw [if_pos main, if_pos main, Option.some_or, Option.some_or]
    cases found : survey.loaded.find? artifact with
    | none => rfl
    | some module =>
      rw [Option.some_or, Survey.main, <- main, found]
      rfl
  · rw [if_neg main, if_neg main, Option.or_assoc]
    congr 1
    by_cases folder : artifact ∈ folders <;> by_cases added : artifact ∈ survey.additional <;>
      simp [folder, added]

lemma find?_versions_parent (extra : survey.parentArtifact ∉ survey.additional) :
    (now.versioned survey.additional).find? survey.parentArtifact = none := by
  rw [Library.find?_versioned, done.artifact_parent, if_pos rfl, if_neg extra]
  rfl

lemma distinct_versions : (now.versioned survey.additional).Distinct :=
  Library.distinct_versioned done.library.distinctKnown _

lemma versions_of_mem (surveyed : survey.Of w) (extra : survey.parentArtifact ∉ survey.additional)
    (mem : module ∈ now.versioned survey.additional) : survey.Versions w module.entry := by
  rw [done.distinct_versions.mem_iff] at mem
  have other : module.artifact ≠ survey.parentArtifact := by
    intro same
    rw [same, done.find?_versions_parent extra] at mem
    cases mem
  rw [done.find?_versions other] at mem
  cases loaded : survey.loaded.find? module.artifact <;> rw [loaded] at mem
  · rw [Option.none_or] at mem
    refine .inr ⟨surveyed.find?_loaded_eq_none.mp loaded, ?_⟩
    split at mem
    · rename_i main
      refine ⟨.inl main, ?_⟩
      cases mem
      rfl
    · split at mem
      · rename_i new
        refine ⟨.inr (new.imp_left (done.found _).mp), ?_⟩
        rw [<- Option.some.inj mem]
        rfl
      · cases mem
  · rw [Option.some_or] at mem
    cases mem
    exact .inl ⟨module, (surveyed.find?_loaded.mp loaded).1, other, rfl⟩

lemma mem_of_versions (surveyed : survey.Of w) (noMessages : contains survey.artifact "proto-" = false)
    (noServices : contains survey.artifact "grpc-" = false)
    (extra : survey.parentArtifact ∉ survey.additional) {entry : VersionEntry} (belongs : survey.Versions w entry) :
    ∃ module, module ∈ now.versioned survey.additional /\ module.entry = entry := by
  rcases belongs with ⟨module, lists, other, same⟩ | ⟨new, src, same⟩
  · refine ⟨module, ?_, same⟩
    rw [done.distinct_versions.mem_iff, done.find?_versions other, surveyed.find?_loaded.mpr ⟨lists, rfl⟩, Option.some_or]
  · have other : entry.artifact ≠ survey.parentArtifact := by
      intro parent
      rw [parent] at src
      rcases src with main | found | added
      · exact survey.parentArtifact_ne main
      · exact Survey.not_found_parent noMessages noServices found
      · exact extra added
    have found := done.find?_versions other
    rw [surveyed.find?_loaded_eq_none.mpr new, Option.none_or] at found
    by_cases main : entry.artifact = survey.artifact
    · rw [if_pos main] at found
      refine ⟨survey.main, Modules.mem_of_find? found, ?_⟩
      rw [<- same, main, <- survey.artifact_main]
      rfl
    · have listed : entry.artifact ∈ folders \/ entry.artifact ∈ survey.additional :=
        (src.resolve_left main).imp_left (done.found _).mpr
      rw [if_neg main, if_pos listed] at found
      refine ⟨_, Modules.mem_of_find? found, ?_⟩
      rw [<- same]
      rfl

/-! ## The modules of the library -/

lemma modules_eq : now.modules = survey.main :: now.requiredWith "grpc-" ++ now.requiredWith "proto-" := by
  rw [Library.modules_eq, done.library.main]
  · rfl
  · rw [done.artifact_parent, done.artifact_main]
    exact survey.part_of_parent

end

section

variable (part : contains survey.parentArtifact artifact = false)
include part

lemma mayRequire_eq : (survey.library w).mayRequire artifact = !survey.excluded.contains artifact := by
  have main : contains survey.main.artifact artifact = false := by
    rw [Bool.eq_false_iff] at part ⊢
    intro inside
    rw [survey.artifact_main, contains_iff] at inside
    exact part (contains_iff.mpr (inside.trans (contains_iff.mp survey.part_of_parent)))
  change (!survey.excluded.contains artifact && !contains survey.main.artifact artifact) = _
  rw [main, Bool.not_false, Bool.and_true]

lemma ne_parent_of_part : artifact ≠ survey.parentArtifact := by
  rintro rfl
  rw [contains_iff.mpr (infix_refl _)] at part
  cases part

lemma find?_known_of_part : (survey.library w).known.find? artifact = survey.loaded.find? artifact := by
  have main : artifact ≠ survey.artifact := by
    rintro rfl
    rw [survey.part_of_parent] at part
    cases part
  rw [survey.find?_known, if_neg (ne_parent_of_part part), if_neg main]

end

lemma required_iff (done : Completed survey w folders described now v) (surveyed : survey.Of w)
    (part : contains survey.parentArtifact artifact = false) :
    (now.required.find? artifact).isSome ↔ survey.Bundles w artifact := by
  have listed : (survey.loaded.find? artifact).isSome ↔ survey.ListsArtifact w artifact := by
    rw [<- not_iff_not, <- surveyed.find?_loaded_eq_none, Option.not_isSome_iff_eq_none]
  rw [done.library.required, survey.find?_required, find?_known_of_part part, mayRequire_eq part, Survey.Bundles, <- listed]
  by_cases excluded : artifact ∈ survey.excluded
  · simp [excluded]
  · by_cases found : Found w artifact
    · have folder := (done.found artifact).mpr found
      have dir := done.directories artifact found
      cases loaded : survey.loaded.find? artifact <;> by_cases own : artifact ∈ described <;>
        simp [excluded, found, folder, dir, own, part]
    · have folder : artifact ∉ folders := fun inside => found ((done.found artifact).mp inside)
      have own : artifact ∉ described := fun inside => folder (done.within artifact inside)
      cases shared : survey.shared <;> cases dir : w.isDirectory artifact <;>
        simp [excluded, found, folder, own, part]

lemma mem_bundle (done : Completed survey w folders described now v) (surveyed : survey.Of w)
    {start : String} : artifact ∈ (now.requiredWith start).map Module.artifact ↔
      startsWith artifact start = true /\ survey.Bundles w artifact := by
  rw [Library.mem_requiredWith, done.artifact_parent]
  constructor
  · rintro ⟨starts, part, present⟩
    exact ⟨starts, (done.required_iff surveyed part).mp present⟩
  · rintro ⟨starts, belongs⟩
    exact ⟨starts, belongs.2.2, (done.required_iff surveyed belongs.2.2).mpr belongs⟩

lemma not_both (service : startsWith artifact "grpc-" = true)
    (message : startsWith artifact "proto-" = true) : False := by
  rw [startsWith_iff] at service message
  exact absurd (prefix_of_prefix_length_le service message (by decide)) (by decide)

lemma nodup_modules (done : Completed survey w folders described now v) (surveyed : survey.Of w) :
    ((survey.main :: now.requiredWith "grpc-" ++ now.requiredWith "proto-").map Module.artifact).Nodup := by
  have distinct (start : String) : ((now.requiredWith start).map Module.artifact).Nodup :=
    done.library.distinctRequired.filter _
  have absent (start : String) : survey.main.artifact ∉ (now.requiredWith start).map Module.artifact := by
    intro inside
    have part := ((done.mem_bundle surveyed).mp inside).2.2.2
    rw [survey.artifact_main, survey.part_of_parent] at part
    cases part
  rw [cons_append, map_cons, map_append, nodup_cons, nodup_append]
  refine ⟨?_, distinct _, distinct _, ?_⟩
  · intro inside
    rcases mem_append.mp inside with service | message
    · exact absent _ service
    · exact absent _ message
  · rintro artifact service other message rfl
    exact not_both ((done.mem_bundle surveyed).mp service).1 ((done.mem_bundle surveyed).mp message).1

end Completed

/-- A run to the end loses and repeats no module.  The list of versions has the lines that belong in it and no
others; the description of the library's list has the main module, then the modules of services, then those of
messages. -/
theorem lists_complete (finishes : Finishes survey w v)
    (noMessages : contains survey.artifact "proto-" = false)
    (noServices : contains survey.artifact "grpc-" = false)
    (extra : survey.parentArtifact ∉ survey.additional) :
    (∃ file entries, v.fileAt (versionsPath survey.shared) = .ok file /\
      file.content = (VersionEntry.listing entries).toUTF8 /\
      (entries.map VersionEntry.artifact).Nodup /\
      ∀ entry, entry ∈ entries ↔ survey.Versions w entry) /\
    (survey.artifact ++ "-bom" ∉ survey.excludedPoms -> ∃ address services messages,
      HasField survey.repo "repo" address /\
      v.fileAt (survey.artifact ++ "-bom/pom.xml") = .ok { content :=
        (Pom.bill survey.main address survey.name (survey.main :: services ++ messages)).toUTF8 } /\
      ((survey.main :: services ++ messages).map Module.artifact).Nodup /\
      (∀ artifact, artifact ∈ services.map Module.artifact ↔
        startsWith artifact "grpc-" = true /\ survey.Bundles w artifact) /\
      ∀ artifact, artifact ∈ messages.map Module.artifact ↔
        startsWith artifact "proto-" = true /\ survey.Bundles w artifact) := by
  have surveyed := finishes.surveyed
  rcases finishes.completes with ⟨folders, described, now, done⟩
  refine ⟨?_, ?_⟩
  · rcases done.versions with ⟨file, there, content⟩
    rw [versionList_eq] at content
    refine ⟨file, _, there, content, ?_, ?_⟩
    · rw [List.map_map]
      exact done.distinct_versions
    · intro entry
      rw [List.mem_map]
      constructor
      · rintro ⟨module, member, rfl⟩
        exact done.versions_of_mem surveyed extra member
      · exact done.mem_of_versions surveyed noMessages noServices extra
  · intro wanted
    rcases done.bill (by simpa using wanted) with ⟨address, addressed, there⟩
    rw [done.artifact_main, done.library.main, done.modules_eq] at there
    exact ⟨address, _, _, addressed, there, done.nodup_modules surveyed,
      fun artifact => done.mem_bundle surveyed, fun artifact => done.mem_bundle surveyed⟩

/-! ## A library whose name is the start of a module's -/

def textFields? : Doc -> Option (List (String × String))
  | .map fields => fields.mapM fun
    | (.text name, .text value) => some (name, value)
    | _ => none
  | _ => none

def listedLibrary : Workspace where
  tree := ⟨[(["w"], .directory), (["w", ".repo-metadata.json"], .file { content :=
      ("\x7b\"distribution_name\":\"g:proto\",\"name_pretty\":\"N\",\"repo\":\"r\"," ++ "\"api_description\":\"D\"\x7d").toUTF8 }),
    (["w", "proto"], .directory), (["w", "proto-bom"], .directory), (["w", "proto-google-x"], .directory),
    (["w", "versions.txt"], .file { content := "proto::2\nproto-p:1:1\nproto-google-x:3:4\n".toUTF8 })]⟩
  directory := ["w"]

def listedSurvey : Survey where
  repo := .map [(.text "distribution_name", .text "g:proto"), (.text "name_pretty", .text "N"),
    (.text "repo", .text "r"), (.text "api_description", .text "D")]
  group := "g"
  artifact := "proto"
  name := "N"
  loaded := [⟨"g.api.grpc", "proto", "2", ""⟩, ⟨"g.api.grpc", "proto-p", "1", "1"⟩, ⟨"g.api.grpc", "proto-google-x", "4", "3"⟩]
  shared := false
  additional := []
  excluded := [""]
  excludedPoms := [""]

lemma eq_of_textFields {doc : Doc} {texts : List (String × String)} (given : textFields? doc = some texts) :
    doc = .map (texts.map fun field => (.text field.1, .text field.2)) := by
  cases doc with
  | map fields =>
    congr 1
    rw [textFields?] at given
    induction fields generalizing texts with
    | nil =>
      cases given
      rfl
    | cons field rest ih =>
      rw [mapM_cons] at given
      rcases Option.bind_eq_some_iff.mp given with ⟨first, here, others⟩
      rcases Option.bind_eq_some_iff.mp others with ⟨more, later, whole⟩
      cases whole
      rw [map_cons, <- ih later]
      congr 1
      split at here
      · cases here
        rfl
      · cases here
  | _ => cases given

lemma listed_texts : (((readJson ".repo-metadata.json").execute listedLibrary).1.toOption.bind textFields?) =
      some [("distribution_name", "g:proto"), ("name_pretty", "N"), ("repo", "r"), ("api_description", "D")] /\
    (distributionOf listedSurvey.repo).toOption = some ("g", "proto") /\
    ((findModules "g").execute listedLibrary).1.toOption = some (listedSurvey.loaded, false) /\
    ((namesIn? listedSurvey.repo "extra_versioned_modules").map (·.getD [])).toOption = some [] /\
    ((namesIn? listedSurvey.repo "excluded_dependencies").map (·.getD [""])).toOption = some [""] /\
    ((namesIn? listedSurvey.repo "excluded_poms").map (·.getD [""])).toOption = some [""] /\
    ∀ field ∈ [("name_pretty", "N"), ("repo", "r"), ("api_description", "D")],
      ((listedSurvey.repo.entry field.1).map Doc.display).toOption = some field.2 := by
  decide +kernel

lemma listed_surveyed : listedSurvey.Of listedLibrary := by
  rcases listed_texts with ⟨texts, distribution, versions, additional, excluded, excludedPoms, fields⟩
  refine ⟨?_, eq_ok_of_toOption distribution, eq_ok_of_toOption (fields ("name_pretty", "N") (by simp)),
    eq_ok_of_toOption versions, eq_ok_of_toOption additional, eq_ok_of_toOption excluded,
    eq_ok_of_toOption excludedPoms⟩
  rcases Option.bind_eq_some_iff.mp texts with ⟨doc, read, given⟩
  rw [eq_ok_of_toOption read, eq_of_textFields given]
  rfl

lemma listed_sound : listedLibrary.Sound := by
  decide

lemma listed_undescribed : Undescribed listedLibrary := by
  intro place node found
  have named : place ++ ["pom.xml"] ≠ [] := by simp
  have key := (listed_sound.tree.mem_keys named).mpr (by rw [found]; rfl)
  have others : ∀ key ∈ listedLibrary.tree.entries.map Prod.fst, key.getLast? ≠ some "pom.xml" := by
    decide
  exact absurd List.getLast?_concat (others _ key)

def listedNow : Library :=
  ((listedSurvey.library listedLibrary).discover "proto-google-x").require "proto-google-x"

def listedVersions : String :=
  "# Format:\n# module:released-version:current-version\n\nproto:2:2\nproto-p:1:1\nproto-google-x:3:4\n"

lemma listed_lines : VersionEntry.listing [⟨"proto", "2", "2"⟩, ⟨"proto-p", "1", "1"⟩, ⟨"proto-google-x", "3", "4"⟩] =
      listedVersions := by
  decide +kernel

lemma listed_tables :
    listedSurvey.main = ⟨"g.api.grpc", "proto", "2", ""⟩ /\ listedSurvey.parent = ⟨"g", "proto-parent", "2", ""⟩ /\
    (listedSurvey.library listedLibrary).known.has "proto-google-x" = true /\
    (listedSurvey.library listedLibrary).required.find? "proto-google-x" = some ⟨"g.api.grpc", "proto-google-x", "4", "3"⟩ /\
    listedNow.main = ⟨"g.api.grpc", "proto", "2", ""⟩ /\ listedNow.parent = ⟨"g", "proto-parent", "2", ""⟩ /\
    listedNow.requiredWith "proto-" = [⟨"g.api.grpc", "proto-google-x", "2", ""⟩] /\ listedNow.requiredWith "grpc-" = [] /\
    listedNow.modules = [⟨"g.api.grpc", "proto", "2", ""⟩, ⟨"g.api.grpc", "proto-google-x", "2", ""⟩] /\
    Modules.isCloudClient (listedNow.known.map Module.artifact) = true /\
    versionList (listedNow.versioned []) = listedVersions := by
  decide +kernel

lemma listed_encodable : (Module.mk "g.api.grpc" "proto" "2" "").encodable = true /\
    (Module.mk "g" "proto-parent" "2" "").encodable = true /\ (Module.mk "g.api.grpc" "proto-google-x" "4" "3").encodable = true /\
    (Module.mk "g.api.grpc" "proto-google-x" "2" "").encodable = true /\
    encodable "N" = true /\ encodable "r" = true /\ encodable "D" = true := by
  decide +kernel

lemma listed_tree : ((listedLibrary.tree.list ["w"]).filter fun name => startsWith name "proto-google-") =
      ["proto-google-x"] /\ ((listedLibrary.tree.list ["w"]).filter fun name => startsWith name "grpc-google-") = [] /\
    (listedLibrary.fileAt (versionsPath false)).toOption =
      some { content := "proto::2\nproto-p:1:1\nproto-google-x:3:4\n".toUTF8 } /\
    (listedLibrary.tree.get? ["w", "versions.txt"]).map Node.isFile = some true /\
    ∀ description ∈ [("proto-google-x/pom.xml", ["w", "proto-google-x", "pom.xml"]),
        ("proto/pom.xml", ["w", "proto", "pom.xml"]), ("proto-bom/pom.xml", ["w", "proto-bom", "pom.xml"]),
        ("./pom.xml", ["w", "pom.xml"])], listedLibrary.isDirectory (PathText.directory description.1) = true /\
      (listedLibrary.placeOf description.1 true).toOption = some description.2 /\
      (listedLibrary.tree.get? description.2).isNone = true := by
  decide +kernel

lemma listed_vacant : Vacant listedLibrary ("proto-google-x" ++ "/pom.xml") ["w", "proto-google-x", "pom.xml"] /\
    Vacant listedLibrary ("proto" ++ "/pom.xml") ["w", "proto", "pom.xml"] /\
    Vacant listedLibrary ("proto" ++ "-bom/pom.xml") ["w", "proto-bom", "pom.xml"] /\
    Vacant listedLibrary "./pom.xml" ["w", "pom.xml"] := by
  have vacant (path : String) (place : Place) (given : (path, place) ∈ _) : Vacant listedLibrary path place :=
    ⟨(listed_tree.2.2.2.2 _ given).1, eq_ok_of_toOption (listed_tree.2.2.2.2 _ given).2.1,
      Option.isNone_iff_eq_none.mp (listed_tree.2.2.2.2 _ given).2.2⟩
  exact ⟨vacant "proto-google-x/pom.xml" _ (by simp), vacant "proto/pom.xml" _ (by simp),
    vacant "proto-bom/pom.xml" _ (by simp), vacant "./pom.xml" _ (by simp)⟩

lemma listed_folder : ∃ v, listedLibrary.AddedAt [["w", "proto-google-x", "pom.xml"]] v /\
    v.fileAt ("proto-google-x" ++ "/pom.xml") = .ok { content := (Pom.messages
      ⟨"g.api.grpc", "proto-google-x", "4", "3"⟩ listedSurvey.parent listedSurvey.main).toUTF8 } /\
    addMissing.execute listedLibrary = (do
      describeLibrary listedNow listedSurvey.repo "N" [""]
      printLine ("updating modules in " ++ versionsPath false)
      writeInFolder (versionsPath false) (versionList (listedNow.versioned [])) : Job Unit).execute v := by
  rcases listed_tables with ⟨main, parent, known, required, -, -, -, -, -, isClient, -⟩
  rcases listed_tree with ⟨names, noNames, -⟩
  rcases listed_encodable with ⟨mainText, parentText, listedText, -⟩
  rcases execute_addMissing listed_sound listed_surveyed (by decide) with ⟨first, printed, same⟩
  have added := AddedAt.of_printed printed listed_sound
  have finding := ShellGlob.execute_paths_star added.extended.sound begins_messages
  rw [added.extended.directory, added.list listed_sound (by simp)] at finding
  replace finding := finding.trans (congrArg (fun names => (Except.ok names, first)) names)
  have still := Library.discover_known known
  have needed : ((listedSurvey.library listedLibrary).discover "proto-google-x").required.find? "proto-google-x" =
      some ⟨"g.api.grpc", "proto-google-x", "4", "3"⟩ := by
    rw [still]
    exact required
  have text : encodable (Pom.messages ⟨"g.api.grpc", "proto-google-x", "4", "3"⟩
      ((listedSurvey.library listedLibrary).discover "proto-google-x").parent
      ((listedSurvey.library listedLibrary).discover "proto-google-x").main) = true := by
    rw [still]
    apply Pom.encodable_messages listedText
    · change listedSurvey.parent.encodable = true
      rw [parent, parentText]
    · change listedSurvey.main.encodable = true
      rw [main, mainText]
  rcases addMessages_runs added listed_vacant.1 (by simp) needed text with ⟨second, describing, filled, own⟩
  have others := ShellGlob.execute_paths_star filled.extended.sound begins_services
  rw [filled.extended.directory, filled.list listed_sound (by simp [listedLibrary])] at others
  replace others := others.trans (congrArg (fun names => (Except.ok names, second)) noNames)
  refine ⟨second, filled, ?_, ?_⟩
  · rw [own, still]
    rfl
  · rw [same, Survey.finish]
    refine (bind_ok finding).trans ?_
    rw [foldlM_cons, bind_assoc, bind_ok describing, foldlM_nil, pure_bind]
    refine (bind_ok others).trans ?_
    rw [foldlM_nil, pure_bind]
    exact congrArg (fun job : Job Unit => job.execute second) (if_pos isClient)

lemma listed_run : ∃ v, addMissing.execute listedLibrary = (.ok (), v) /\
    BillDescribed listedNow listedSurvey.repo "N" v /\ WholeDescribed listedNow listedSurvey.repo "N" v /\
    (∃ file, v.fileAt (versionsPath false) = .ok file /\ file.content = listedVersions.toUTF8) /\
    v.fileAt ("proto-google-x" ++ "/pom.xml") = .ok { content := (Pom.messages
      ⟨"g.api.grpc", "proto-google-x", "4", "3"⟩ listedSurvey.parent listedSurvey.main).toUTF8 } := by
  rcases listed_folder with ⟨first, filled, own, same⟩
  rcases listed_vacant with ⟨-, client, bill, whole⟩
  rcases listed_tables with ⟨-, -, -, -, main, parent, messages, services, mods, -, versionText⟩
  rcases listed_encodable with ⟨mainText, parentText, -, messagesText, nameText, addressText, aboutText⟩
  have each : listedNow.modules.all Module.encodable = true := by
    rw [mods, all_cons, all_cons, mainText, messagesText]
    rfl
  have ofMain : listedNow.main.encodable = true := by rw [main, mainText]
  have ofParent : listedNow.parent.encodable = true := by rw [parent, parentText]
  have ofMessages : (listedNow.requiredWith "proto-").all Module.encodable = true := by
    rw [messages, all_cons, messagesText]
    rfl
  have ofServices : (listedNow.requiredWith "grpc-").all Module.encodable = true := by
    rw [services]
    rfl
  have field (name text : String) (given : (name, text) ∈ _) : HasField listedSurvey.repo name text :=
    eq_ok_of_toOption (listed_texts.2.2.2.2.2.2 (name, text) given)
  have there := eq_ok_of_toOption listed_tree.2.2.1
  have text : encodable (versionList (listedNow.versioned [])) = true := by
    rw [versionText]
    exact encodable_ofList rfl
  have wanted : [""].contains listedNow.main.artifact = false := by
    rw [main]
    decide
  have wantedBill : [""].contains (listedNow.main.artifact ++ "-bom") = false := by
    rw [main]
    decide
  rcases describeLibrary_runs filled (by rw [main]; exact client) (by rw [main]; exact bill) whole (by simp)
    wanted wantedBill (field "repo" "r" (by simp)) (field "api_description" "D" (by simp))
    ⟨Pom.encodable_client ofMain ofParent addressText nameText aboutText ofMessages ofServices,
      Pom.encodable_bill ofMain addressText nameText each,
      Pom.encodable_library ofMain addressText nameText each⟩ with ⟨second, describing, described⟩
  have printing : second.Printed ((printLine ("updating modules in " ++ versionsPath false)).execute second).2 :=
    (Printed.refl second).print rfl
  have last := described.print printing
  rcases versions_run last there (isDirectory_versions listed_sound false) text with ⟨v, wrote⟩
  rcases describeLibrary_ok filled.extended.sound describing with ⟨extended, -, inBill, inWhole⟩
  have printed := printing.extended described.extended.sound
  rcases versions_written listed_undescribed (.inl ⟨_, there⟩) last.extended wrote with ⟨versions, stays⟩
  rw [versionText] at versions
  have kept {s : String} {file : FileNode} (there : second.fileAt (s ++ "/pom.xml") = .ok file) :
      v.fileAt (s ++ "/pom.xml") = .ok file := fileAt_of_stays stays (printed.fileAt there)
  refine ⟨v, ?_, ?_, ?_, versions, kept (extended.fileAt own)⟩
  · rw [same, bind_ok describing, execute_print]
    exact wrote
  · exact (inBill wantedBill).kept kept
  · exact inWhole.kept kept

lemma listed_finishes (ran : addMissing.execute listedLibrary = (.ok (), v)) : Finishes listedSurvey listedLibrary v := by
  refine ⟨listed_sound, listed_undescribed, listed_surveyed, ?_, by decide, ?_, ran⟩
  · intro target found
    have file : (listedLibrary.tree.get? (listedLibrary.directory ++ ["versions.txt"])).map Node.isFile =
        some true := listed_tree.2.2.2.1
    rw [found] at file
    cases file
  · exact ⟨"proto-google-x", .inl (by decide), .inl listed_tables.2.2.1⟩

/-- No module of the library is lost or repeated. -/
theorem listed_complete : ∃ v, Finishes listedSurvey listedLibrary v /\
    contains listedSurvey.artifact "proto-" = false /\ contains listedSurvey.artifact "grpc-" = false /\
    listedSurvey.parentArtifact ∉ listedSurvey.additional /\ (∃ file entries, v.fileAt "./versions.txt" = .ok file /\
      file.content = (VersionEntry.listing entries).toUTF8 /\ (entries.map VersionEntry.artifact).Nodup /\
      ∀ entry, entry ∈ entries ↔ listedSurvey.Versions listedLibrary entry) /\
    ∃ address services messages, HasField listedSurvey.repo "repo" address /\ v.fileAt "proto-bom/pom.xml" = .ok { content :=
        (Pom.bill listedSurvey.main address "N" (listedSurvey.main :: services ++ messages)).toUTF8 } /\
      ((listedSurvey.main :: services ++ messages).map Module.artifact).Nodup /\
      (∀ artifact, artifact ∈ services.map Module.artifact ↔
        startsWith artifact "grpc-" = true /\ listedSurvey.Bundles listedLibrary artifact) /\
      ∀ artifact, artifact ∈ messages.map Module.artifact ↔
        startsWith artifact "proto-" = true /\ listedSurvey.Bundles listedLibrary artifact := by
  rcases listed_run with ⟨v, ran, -⟩
  have finishes := listed_finishes ran
  have noMessages : contains listedSurvey.artifact "proto-" = false := by decide
  have noServices : contains listedSurvey.artifact "grpc-" = false := by decide
  have extra : listedSurvey.parentArtifact ∉ listedSurvey.additional := List.not_mem_nil
  rcases lists_complete finishes noMessages noServices extra with ⟨versions, bundle⟩
  exact ⟨v, finishes, noMessages, noServices, extra, versions, bundle (by decide)⟩

/-- An open released version is listed as the current one, and a listed part of the parent's name is not
bundled. -/
theorem listed_altered : ∃ v, Finishes listedSurvey listedLibrary v /\
    (listedSurvey.Lists listedLibrary ⟨"g.api.grpc", "proto", "2", ""⟩ /\
      ∃ file, v.fileAt "./versions.txt" = .ok file /\ file.content = (VersionEntry.listing
        [⟨"proto", "2", "2"⟩, ⟨"proto-p", "1", "1"⟩, ⟨"proto-google-x", "3", "4"⟩]).toUTF8) /\
    listedSurvey.Lists listedLibrary ⟨"g.api.grpc", "proto-p", "1", "1"⟩ /\ listedSurvey.shared = false /\
    startsWith "proto-p" "proto-" = true /\ "proto-p" ∉ listedSurvey.excluded /\
    ∃ address, v.fileAt "proto-bom/pom.xml" = .ok { content := (Pom.bill listedSurvey.main address "N"
      [⟨"g.api.grpc", "proto", "2", ""⟩, ⟨"g.api.grpc", "proto-google-x", "2", ""⟩]).toUTF8 } := by
  rcases listed_run with ⟨v, ran, ⟨address, -, bill⟩, -, versions, -⟩
  have lists (module : Module) (found : listedSurvey.loaded.find? module.artifact = some module) :
      listedSurvey.Lists listedLibrary module := (listed_surveyed.find?_loaded.mp found).1
  rcases listed_tables with ⟨-, -, -, -, -, -, -, -, modules, -⟩
  rw [modules] at bill
  refine ⟨v, listed_finishes ran, ⟨lists _ (by decide), ?_⟩, lists _ (by decide), rfl, by decide, by decide, address, bill⟩
  rw [listed_lines]
  exact versions

end Refinery.Maven
