import Refinery.Proofs.Maven.VersionLists

namespace Refinery.Maven

open Text

/-!
# Where versions agree

The version of a module is written in up to four places.  They agree exactly if the module was not described
in this run or already had the main version.
-/

variable {w v : Workspace} {survey : Survey} {folders desc : List String} {now : Library}
  {art : String} {mod : Module}

/-- The own description of an artifact gives this version. -/
def Survey.OwnVersion (survey : Survey) (v : Workspace) (artifact version : String) : Prop :=
  ∃ target text, target.artifact = artifact /\ target.version = version /\
    v.fileAt (artifact ++ "/pom.xml") = .ok { content := text.toUTF8 } /\
    (text = Pom.messages target survey.parent survey.main \/
      (∃ messages, text = Pom.services target survey.parent survey.main messages) \/
      ∃ address description messages services, text =
        Pom.client target survey.parent address survey.name description messages services)

def SharePom (v : Workspace) (artifact other : String) : Prop :=
  ∃ place, v.placeOf (artifact ++ "/pom.xml") true = .ok place /\ v.placeOf (other ++ "/pom.xml") true = .ok place

/-- What a run wrote about versions. -/
structure VersionsWritten (survey : Survey) (w v : Workspace) (described : List String)
    (entries : List VersionEntry) (modules : Modules) : Prop where
  within : ∀ artifact ∈ described, Found w artifact
  visited : ∀ artifact, Found w artifact -> ∃ other, other ∈ described /\ SharePom v artifact other
  versions : ∃ file, v.fileAt (versionsPath survey.shared) = .ok file /\ file.content = (VersionEntry.listing entries).toUTF8
  distinct : (entries.map VersionEntry.artifact).Nodup
  bill : survey.artifact ++ "-bom" ∉ survey.excludedPoms -> ∃ address, HasField survey.repo "repo" address /\
    v.fileAt (survey.artifact ++ "-bom/pom.xml") = .ok { content := (Pom.bill survey.main address survey.name modules).toUTF8 }
  whole : ∃ address, HasField survey.repo "repo" address /\
    v.fileAt "./pom.xml" = .ok { content := (Pom.library survey.main address survey.name modules).toUTF8 }

namespace Completed

variable (done : Completed survey w folders desc now v)
include done

lemma versionsWritten : VersionsWritten survey w v desc ((now.versioned survey.additional).map Module.entry) now.modules := by
  refine ⟨?_, ?_, ?_, ?_, ?_, ?_⟩
  · intro art mem
    exact (done.found art).mp (done.within art mem)
  · intro art found
    obtain ⟨other, place, mem, here, there⟩ := done.visited art ((done.found art).mpr found)
    exact ⟨other, mem, place, here, there⟩
  · rw [<- versionList_eq]
    exact done.versions
  · rw [List.map_map]
    exact done.distinct_versions
  · intro wanted
    obtain ⟨address, addressed, there⟩ := done.bill (by simpa using wanted)
    rw [done.artifact_main, done.library.main] at there
    exact ⟨address, addressed, there⟩
  · rcases done.whole with ⟨address, addressed, there⟩
    rw [done.library.main] at there
    exact ⟨address, addressed, there⟩

lemma find?_versions_main : (now.versioned survey.additional).find? survey.artifact = some survey.main := by
  rw [done.find?_versions survey.parentArtifact_ne.symm, if_pos rfl, Survey.main]
  cases survey.loaded.find? survey.artifact <;> rfl

lemma find?_versions_known {target : Module} (other : art ≠ survey.parentArtifact)
    (known : now.known.find? art = some target) : (now.versioned survey.additional).find? art = some target := by
  rw [Library.find?_versioned, done.artifact_parent, if_neg other, known]
  rfl

lemma required_of_mem {start : String} (mem : mod ∈ now.requiredWith start) : now.required.find? mod.artifact = some mod /\
      contains survey.parentArtifact mod.artifact = false := by
  rw [Library.requiredWith, List.mem_filter, done.artifact_parent, Bool.and_eq_true, Bool.not_eq_true'] at mem
  exact ⟨done.library.distinctRequired.mem_iff.mp mem.1, mem.2.2⟩

lemma required_eq (part : contains survey.parentArtifact art = false) (needed : now.required.find? art = some mod) :
    ∃ listed, (now.versioned survey.additional).find? art = some listed /\
      mod = if art ∈ desc then (survey.library w).sibling art else listed := by
  have other := ne_parent_of_part part
  rw [done.library.required] at needed
  by_cases replaced : (survey.library w).mayRequire art = true /\
      (art ∈ desc \/ art ∈ folders /\ (survey.library w).known.find? art = none)
  · rw [if_pos replaced] at needed
    cases needed
    by_cases own : art ∈ desc
    · rcases done.own art own with ⟨target, _, _, _, known⟩
      exact ⟨target, done.find?_versions_known other known, (if_pos own).symm⟩
    · rcases replaced.2.resolve_left own with ⟨folder, new⟩
      have known : now.known.find? art = some ((survey.library w).sibling art) := by
        rw [done.library.known, new, Option.none_or, if_pos folder]
      exact ⟨_, done.find?_versions_known other known, (if_neg own).symm⟩
  · rw [if_neg replaced] at needed
    have known : now.known.find? art = some mod := by
      rw [done.library.known, survey.consistent w art mod needed, Option.some_or]
    have own : art ∉ desc := by
      intro mem
      rw [survey.find?_required] at needed
      have excluded : ¬ (!survey.excluded.contains art) = true := by
        rw [<- mayRequire_eq part]
        exact fun may => replaced ⟨may, .inl mem⟩
      rw [Bool.eq_false_of_not_eq_true excluded] at needed
      cases needed
    exact ⟨mod, done.find?_versions_known other known, (if_neg own).symm⟩

lemma version_eq_iff (part : contains survey.parentArtifact mod.artifact = false)
    (needed : now.required.find? mod.artifact = some mod) :
    ∃ listed, (now.versioned survey.additional).find? mod.artifact = some listed /\ (mod.version = listed.version ↔
        (mod.artifact ∈ desc -> listed.version = survey.main.version)) := by
  obtain ⟨listed, found, same⟩ := done.required_eq part needed
  refine ⟨listed, found, ?_⟩
  split at same
  next own =>
    have ver : mod.version = ((survey.library w).sibling mod.artifact).version :=
      congrArg Module.version same
    rw [ver]
    exact ⟨fun agree _ => agree.symm, fun agree => (agree own).symm⟩
  next own => exact ⟨fun _ inside => absurd inside own, fun _ => congrArg Module.version same⟩

lemma ownVersion {listed : Module} (own : art ∈ desc) (other : art ≠ survey.parentArtifact)
    (found : (now.versioned survey.additional).find? art = some listed) : survey.OwnVersion v art listed.version := by
  obtain ⟨target, text, describes, there, known⟩ := done.own art own
  have same : target = listed := Option.some.inj ((done.find?_versions_known other known).symm.trans found)
  exact ⟨target, text, Modules.artifact_of_find? known, congrArg Module.version same, there, describes.imp_right .inl⟩

lemma ownVersion_main (wanted : survey.artifact ∉ survey.excludedPoms) :
    survey.OwnVersion v survey.artifact survey.main.version := by
  obtain ⟨address, description, -, -, there⟩ := done.client (by simpa using wanted)
  rw [done.artifact_main, done.library.main, done.library.parent] at there
  exact ⟨survey.main, _, survey.artifact_main, rfl, there, .inr (.inr ⟨address, description, _, _, rfl⟩)⟩

end Completed

/-- The list of versions and the own descriptions agree on each module.  The descriptions of the library's
list and of the library agree with these unless the module's folder was described and its version is not the
main one. -/
theorem versions_agree_iff (finishes : Finishes survey w v) : ∃ described entries services messages,
      VersionsWritten survey w v described entries (survey.main :: services ++ messages) /\
      ∀ module, module ∈ survey.main :: services ++ messages ->
        ∃ entry, entry ∈ entries /\ entry.artifact = module.artifact /\
          (module.artifact ∈ described \/ module = survey.main /\ survey.artifact ∉ survey.excludedPoms ->
            survey.OwnVersion v module.artifact entry.version) /\ (module.version = entry.version ↔
            (module.artifact ∈ described -> entry.version = survey.main.version)) := by
  rcases finishes.completes with ⟨folders, described, now, done⟩
  have written := done.versionsWritten
  rw [done.modules_eq] at written
  refine ⟨described, _, _, _, written, ?_⟩
  intro module member
  have listed {listed : Module} (found : (now.versioned survey.additional).find? module.artifact = some listed) :
      listed.entry ∈ (now.versioned survey.additional).map Module.entry /\ listed.entry.artifact = module.artifact :=
    ⟨List.mem_map_of_mem (Modules.mem_of_find? found), Modules.artifact_of_find? found⟩
  by_cases main : module = survey.main
  · subst main
    have found := done.find?_versions_main
    rw [<- survey.artifact_main] at found
    refine ⟨_, (listed found).1, (listed found).2, ?_, fun _ _ => rfl, fun _ => rfl⟩
    rintro (own | ⟨-, wanted⟩)
    · apply done.ownVersion own _ found
      rw [survey.artifact_main]
      exact survey.parentArtifact_ne.symm
    · rw [survey.artifact_main]
      exact done.ownVersion_main wanted
  · have required : now.required.find? module.artifact = some module /\
        Text.contains survey.parentArtifact module.artifact = false := by
      rcases List.mem_append.mp ((List.mem_cons.mp member).resolve_left main) with service | message
      · exact done.required_of_mem service
      · exact done.required_of_mem message
    rcases done.version_eq_iff required.2 required.1 with ⟨known, found, agrees⟩
    refine ⟨_, (listed found).1, (listed found).2, ?_, agrees⟩
    rintro (own | ⟨isMain, -⟩)
    · exact done.ownVersion own (Completed.ne_parent_of_part required.2) found
    · exact absurd isMain main

/-- What is written about the library with three listed modules. -/
theorem listed_versions_agree : ∃ v described entries services messages, Finishes listedSurvey listedLibrary v /\
    VersionsWritten listedSurvey listedLibrary v described entries (listedSurvey.main :: services ++ messages) /\
    ∀ module, module ∈ listedSurvey.main :: services ++ messages -> ∃ entry, entry ∈ entries /\ entry.artifact = module.artifact /\
        (module.artifact ∈ described \/ module = listedSurvey.main /\ "proto" ∉ listedSurvey.excludedPoms ->
          listedSurvey.OwnVersion v module.artifact entry.version) /\ (module.version = entry.version ↔
          (module.artifact ∈ described -> entry.version = listedSurvey.main.version)) := by
  rcases listed_run with ⟨v, ran, -⟩
  rcases versions_agree_iff (listed_finishes ran) with ⟨described, entries, services, messages, written, each⟩
  exact ⟨v, described, entries, services, messages, listed_finishes ran, written, each⟩

/-- The module is described and listed in version 4, and in version 2 among the modules of the library. -/
theorem listed_versions_differ : ∃ v address other, Finishes listedSurvey listedLibrary v /\
    listedSurvey.OwnVersion v "proto-google-x" "4" /\
    (∃ file, v.fileAt "./versions.txt" = .ok file /\ file.content = (VersionEntry.listing
      [⟨"proto", "2", "2"⟩, ⟨"proto-p", "1", "1"⟩, ⟨"proto-google-x", "3", "4"⟩]).toUTF8) /\
    v.fileAt "proto-bom/pom.xml" = .ok { content := (Pom.bill listedSurvey.main address "N"
      [⟨"g.api.grpc", "proto", "2", ""⟩, ⟨"g.api.grpc", "proto-google-x", "2", ""⟩]).toUTF8 } /\
    v.fileAt "./pom.xml" = .ok { content := (Pom.library listedSurvey.main other "N"
      [⟨"g.api.grpc", "proto", "2", ""⟩, ⟨"g.api.grpc", "proto-google-x", "2", ""⟩]).toUTF8 } := by
  rcases listed_run with ⟨v, ran, ⟨address, -, bill⟩, ⟨other, -, whole⟩, versions, own⟩
  rcases listed_tables with ⟨-, -, -, -, -, -, -, -, modules, -⟩
  rw [modules] at bill whole
  refine ⟨v, address, other, listed_finishes ran, ⟨_, _, rfl, rfl, own, .inl rfl⟩, ?_, bill, whole⟩
  rw [listed_lines]
  exact versions

end Refinery.Maven
