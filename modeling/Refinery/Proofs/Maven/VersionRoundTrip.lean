import Refinery.Proofs.Maven.VersionLists

namespace Refinery

open List Job Workspace Text
namespace Maven

/-!
# Lists of versions are read as they were written

Nothing is lost where the parts of a line can be told apart.
-/

structure IsField (s : String) : Prop where
  encodable : encodable s = true
  unmarked : ':' ∉ s.toList
  lineFeeds : '\n' ∉ s.toList
  carriageReturns : '\r' ∉ s.toList
  trimmed : trim s = s

instance (s : String) : Decidable (IsField s) :=
  decidable_of_iff (encodable s = true /\ ':' ∉ s.toList /\ '\n' ∉ s.toList /\ '\r' ∉ s.toList /\ trim s = s)
    ⟨fun facts => ⟨facts.1, facts.2.1, facts.2.2.1, facts.2.2.2.1, facts.2.2.2.2⟩,
      fun field => ⟨field.encodable, field.unmarked, field.lineFeeds, field.carriageReturns, field.trimmed⟩⟩

namespace VersionEntry

structure Legible (entry : VersionEntry) : Prop where
  named : entry.artifact ≠ ""
  noComment : startsWith entry.artifact "#" = false
  artifact : IsField entry.artifact
  released : IsField entry.released
  version : IsField entry.version

variable {entry : VersionEntry} {entries : List VersionEntry} {c : Char}

lemma toList_line (entry : VersionEntry) : entry.line.toList =
    entry.artifact.toList ++ ':' :: (entry.released.toList ++ ':' :: entry.version.toList) := by
  simp [line]

lemma not_mem_line (art : c ∉ entry.artifact.toList) (released : c ∉ entry.released.toList)
    (ver : c ∉ entry.version.toList) (other : c ≠ ':') : c ∉ entry.line.toList := by
  rw [toList_line]
  simp [art, released, ver, other]

namespace Legible

variable (legible : entry.Legible)
include legible

lemma split_line : split ":" entry.line = [entry.artifact, entry.released, entry.version] := by
  change (splitFrom [':'] 0 [] entry.line.toList).map String.ofList = _
  rw [toList_line, splitFrom_append [] _ legible.artifact.unmarked,
    splitFrom_append [] _ legible.released.unmarked, splitFrom_free [] legible.version.unmarked]
  simp

lemma first_line : ∃ first rest others, entry.artifact.toList = first :: rest /\ entry.line.toList = first :: others := by
  have some : entry.artifact.toList ≠ [] := fun none => legible.named (String.toList_eq_nil_iff.mp none)
  obtain ⟨first, rest, chars⟩ := exists_cons_of_ne_nil some
  exact ⟨first, rest, _, chars, by rw [toList_line, chars, cons_append]⟩

lemma line_noComment : startsWith entry.line "#" = false := by
  obtain ⟨first, rest, others, chars, whole⟩ := legible.first_line
  have noComment := legible.noComment
  rw [startsWith, chars] at noComment
  rw [startsWith, whole]
  simpa [List.isPrefixOf] using noComment

lemma trim_line : trim (entry.line ++ "\n") = entry.line := by
  have front : entry.line.toList.dropWhile isBlank = entry.line.toList := by
    obtain ⟨first, rest, others, chars, whole⟩ := legible.first_line
    have kept := (trim_eq_self_iff.mp legible.artifact.trimmed).1
    rw [chars] at kept
    have sharp : ¬ isBlank first = true := by
      intro blank
      rw [dropWhile_cons_of_pos blank] at kept
      have shorter := (dropWhile_suffix isBlank (l := rest)).length_le
      rw [kept, length_cons] at shorter
      omega
    rw [whole, dropWhile_cons_of_neg sharp]
  have back : entry.line.toList.reverse.dropWhile isBlank = entry.line.toList.reverse := by
    have kept := (trim_eq_self_iff.mp legible.version.trimmed).2
    have colon : ¬ isBlank ':' = true := by decide
    have order : entry.line.toList.reverse = entry.version.toList.reverse ++
        ':' :: (entry.artifact.toList ++ ':' :: entry.released.toList).reverse := by
      rw [toList_line]
      simp
    rw [order, dropWhile_append, kept]
    split
    next empty => rw [dropWhile_cons_of_neg colon, List.isEmpty_iff.mp empty, nil_append]
    · rfl
  have feed : isBlank '\n' = true := by decide
  have chars : (entry.line ++ "\n").toList.dropWhile isBlank = entry.line.toList ++ ['\n'] := by
    obtain ⟨first, rest, others, -, whole⟩ := legible.first_line
    rw [String.toList_append, dropWhile_append, front, whole]
    rfl
  rw [trim, trimBy, trimRightBy, trimLeftBy, String.toList_ofList, chars, reverse_append]
  change String.ofList ((('\n' :: entry.line.toList.reverse).dropWhile isBlank).reverse) = _
  rw [dropWhile_cons_of_pos feed, back, reverse_reverse, String.ofList_toList]

end Legible

lemma join_lines (entries : List VersionEntry) : String.join (entries.map fun entry => "\n" ++ entry.line) ++ "\n" =
      "\n" ++ String.join ((entries.map line).map (· ++ "\n")) := by
  induction entries with
  | nil => rfl
  | cons first rest ih =>
    simp only [map_cons, String.join_cons, String.append_assoc, ih]

lemma listing_eq (entries : List VersionEntry) : listing entries =
    String.join (("# Format:" :: "# module:released-version:current-version" :: "" :: entries.map line).map (· ++ "\n")) := by
  have header : "# Format:\n# module:released-version:current-version\n" =
      "# Format:" ++ "\n" ++ ("# module:released-version:current-version" ++ "\n") := by
    rfl
  unfold listing
  rw [String.append_assoc, join_lines, header]
  simp only [map_cons, String.join_cons, String.append_assoc, String.empty_append]

/-- The module that a line gives, in a library of some group. -/
def module (group : String) (entry : VersionEntry) : Module where
  group := if startsWith entry.artifact "google-" then group else messageGroup group
  artifact := entry.artifact
  version := entry.version
  released := entry.released

lemma Legible.moduleOfLine? (legible : entry.Legible) (group : String) :
    moduleOfLine? group (entry.line ++ "\n") = some (entry.module group) := by
  simp only [Maven.moduleOfLine?, legible.trim_line, legible.line_noComment, legible.split_line]
  rfl

lemma moduleOfLine?_comment (group : String) {text : String}
    (marked : startsWith (trim text) "#" = true) : Maven.moduleOfLine? group text = none := by
  simp only [Maven.moduleOfLine?, marked, if_true]

lemma moduleOfLine?_empty (group : String) : Maven.moduleOfLine? group ("" ++ "\n") = none := by
  have blank : trim ("" ++ "\n") = "" := by decide +kernel
  have whole : split ":" "" = [""] := by decide +kernel
  have noComment : startsWith "" "#" = false := by decide +kernel
  simp only [Maven.moduleOfLine?, blank, whole, noComment, Bool.false_eq_true, if_false]

lemma filterMap_listing (legible : ∀ entry ∈ entries, entry.Legible) (group : String) :
    (lines (listing entries)).filterMap (Maven.moduleOfLine? group) = entries.map (module group) := by
  have free : ∀ text ∈ "# Format:" :: "# module:released-version:current-version" :: "" ::
      entries.map line, '\n' ∉ text.toList := by
    simp only [forall_mem_cons, forall_mem_map]
    refine ⟨by decide +kernel, by decide +kernel, by decide +kernel, ?_⟩
    intro entry mem
    have facts := legible entry mem
    exact not_mem_line facts.artifact.lineFeeds facts.released.lineFeeds facts.version.lineFeeds (by decide)
  rw [listing_eq, lines_join free]
  simp only [map_cons]
  rw [filterMap_cons_none (moduleOfLine?_comment group (by decide +kernel)),
    filterMap_cons_none (moduleOfLine?_comment group (by decide +kernel)),
    filterMap_cons_none (moduleOfLine?_empty group), map_map, filterMap_map,
    <- filterMap_eq_map]
  apply filterMap_congr
  intro entry mem
  simp only [Function.comp_apply, (legible entry mem).moduleOfLine? group]

lemma all_listing (legible : ∀ entry ∈ entries, entry.Legible) (fine : Char -> Bool)
    (comments : "# Format:# module:released-version:current-version".toList.all fine = true)
    (marks : fine ':' = true /\ fine '\n' = true) (fields : ∀ s, IsField s -> s.toList.all fine = true) :
    (listing entries).toList.all fine = true := by
  have lines : (entries.map line).all (fun text => text.toList.all fine) = true := by
    rw [all_map, all_eq_true]
    intro entry mem
    have facts := legible entry mem
    simp only [Function.comp_apply, toList_line, all_append, all_cons, fields _ facts.artifact,
      fields _ facts.released, fields _ facts.version, marks.1, Bool.and_true]
  have parts : "# Format:# module:released-version:current-version" =
      "# Format:" ++ "# module:released-version:current-version" := by
    rfl
  rw [parts, String.toList_append, all_append, Bool.and_eq_true] at comments
  have feed (text : String) : (text ++ "\n").toList.all fine = text.toList.all fine := by
    rw [String.toList_append, all_append]
    change (_ && (fine '\n' && true)) = _
    rw [marks.2, Bool.and_self, Bool.and_true]
  rw [listing_eq, String.toList_join, all_flatMap, all_map]
  simp only [Function.comp_def, feed, all_cons, comments, lines, Bool.true_and, Bool.and_true]
  rfl

end VersionEntry

/-! ## Tables of modules -/

lemma Modules.foldl_put_of_distinct {items mods : Modules} (distinct : Distinct (mods ++ items)) :
    items.foldl put mods = mods ++ items := by
  induction items generalizing mods with
  | nil => simp
  | cons first rest ih =>
    have new : mods.put first = mods ++ [first] := by
      rw [put, if_neg]
      rw [has_eq_true_iff]
      intro known
      rw [Distinct, map_append, nodup_append] at distinct
      exact distinct.2.2 _ known _ (by simp) rfl
    rw [foldl_cons, new, ih (by simpa using distinct), append_assoc, singleton_append]

/-- A module that a line of versions can give. -/
structure Module.Listable (group : String) (module : Module) : Prop where
  named : module.artifact ≠ ""
  noComment : startsWith module.artifact "#" = false
  artifact : IsField module.artifact
  version : IsField module.version
  released : IsField module.released
  group : module.group = if startsWith module.artifact "google-" then group else messageGroup group

instance (group : String) (module : Module) : Decidable (module.Listable group) :=
  decidable_of_iff (module.artifact ≠ "" /\ startsWith module.artifact "#" = false /\
      IsField module.artifact /\ IsField module.version /\ IsField module.released /\
      module.group = if startsWith module.artifact "google-" then group else messageGroup group)
    ⟨fun facts => ⟨facts.1, facts.2.1, facts.2.2.1, facts.2.2.2.1, facts.2.2.2.2.1, facts.2.2.2.2.2⟩,
      fun listable => ⟨listable.named, listable.noComment, listable.artifact, listable.version, listable.released, listable.group⟩⟩

/-- A module as it comes back. -/
def Module.settled (module : Module) : Module :=
  { module with released := if module.released = "" then module.version else module.released }

section Listed

variable {mods : Modules} {group : String} {module : Module}

lemma Module.Listable.legible (listable : module.Listable group) : module.entry.Legible := by
  refine ⟨listable.named, listable.noComment, listable.artifact, ?_, listable.version⟩
  by_cases missing : module.released = ""
  · simpa only [entry, if_pos missing] using listable.version
  · simpa only [entry, if_neg missing] using listable.released

lemma Module.Listable.module_entry (listable : module.Listable group) : module.entry.module group = module.settled := by
  rw [VersionEntry.module, settled, listable.group]
  rfl

lemma entry_settled (module : Module) : module.settled.entry = module.entry := by
  simp only [Module.entry, Module.settled]
  by_cases missing : module.released = "" <;> simp [missing]

lemma versionList_settled (mods : Modules) : versionList (mods.map Module.settled) = versionList mods := by
  rw [versionList_eq, versionList_eq, map_map]
  congr 2
  funext module
  exact entry_settled module

variable (listable : ∀ module ∈ mods, module.Listable group)

include listable

lemma legible_entries : ∀ entry ∈ mods.map Module.entry, entry.Legible := by
  simp only [forall_mem_map]
  intro module mem
  exact (listable module mem).legible

lemma modulesOfText_versionList (distinct : mods.Distinct) :
    modulesOfText group (versionList mods) = mods.map Module.settled := by
  have given : (mods.map Module.entry).map (VersionEntry.module group) = mods.map Module.settled := by
    rw [map_map]
    apply map_congr_left
    intro module mem
    exact (listable module mem).module_entry
  rw [modulesOfText, versionList_eq, VersionEntry.filterMap_listing (legible_entries listable), given]
  apply Modules.foldl_put_of_distinct
  rwa [nil_append, Modules.Distinct, map_map]

lemma plain_versionList : '\r' ∉ (versionList mods).toList /\ encodable (versionList mods) = true := by
  have legible := legible_entries listable
  rw [versionList_eq]
  constructor
  · have ne := VersionEntry.all_listing legible (· != '\r') (by decide +kernel) (by decide) (by
      intro s field
      have free := field.carriageReturns
      grind)
    grind
  · have whole := VersionEntry.all_listing legible (fun c => !isHalf c) (by decide +kernel) (by decide) (by
        intro s field
        have enc := field.encodable
        rwa [Text.encodable, not_any_eq_all_not] at enc)
    rwa [Text.encodable, not_any_eq_all_not]

end Listed

/-! ## Writing the list -/

section Files

variable {w v : Workspace} {path text : String}

lemma writeInFolder_outcome (enc : encodable text = true) (path : String) (w : Workspace) :
    ((writeInFolder path text).execute w).1 = ((writeInFolder path "").execute w).1 := by
  rw [execute_writeInFolder, execute_writeInFolder]
  cases w.isDirectory (PathText.directory path) with
  | true => exact writeText_outcome enc path w
  | false =>
    rw [if_neg Bool.false_ne_true, if_neg Bool.false_ne_true, execute_bind, execute_bind]
    obtain ⟨outcome, made⟩ := (makeDirectories (PathText.directory path) false).execute w
    cases outcome with
    | error err => rfl
    | ok _ => exact writeText_outcome enc path made

lemma writeInFolder_written (sound : w.Sound) (wrote : (writeInFolder path text).execute w = (.ok (), v)) :
    ∃ u, u.Sound /\ u.isDirectory (PathText.directory path) = true /\ (writeText path text).execute u = (.ok (), v) := by
  rw [execute_writeInFolder] at wrote
  cases dir : w.isDirectory (PathText.directory path) <;> rw [dir] at wrote
  · rcases of_bind_ok wrote with ⟨_, made, making, onward⟩
    obtain ⟨extended, standing⟩ := isDirectory_made sound making
    exact ⟨made, extended.sound, standing, onward⟩
  · exact ⟨w, sound, dir, wrote⟩

lemma writeInFolder_again (sound : w.Sound) (wrote : (writeInFolder path text).execute w = (.ok (), v)) :
    (writeInFolder path text).execute v = (.ok (), v) := by
  obtain ⟨u, soundThen, standing, writing⟩ := writeInFolder_written sound wrote
  have job := FileJob.writeText path text
  have grows := job.grows soundThen
  have frame := job.frame u
  rw [writing] at grows frame
  have dir := isDirectory_of_grows grows (by rw [frame]) standing
  rw [execute_writeInFolder, if_pos dir]
  exact writeText_again soundThen writing

lemma execute_loadModules (group : String) (sound : w.Sound) (free : '\r' ∉ text.toList)
    (wrote : (writeText path text).execute w = (.ok (), v)) :
    (loadModules path group).execute v = (.ok (modulesOfText group text), v) := by
  obtain ⟨file, there, -⟩ := fileAt_written sound wrote
  rw [loadModules, bind_ok (execute_isFile path v), isFile_of_fileAt there, if_pos rfl, bind_ok (readText_written sound wrote free)]
  rfl

/-- A list of versions is read as the modules that were listed, in their order; only one without a released
version comes back with the current one.  Writing what was read changes nothing. -/
theorem loadModules_written {modules : Modules} {group : String} (sound : w.Sound)
    (writable : ((writeInFolder path "").execute w).1 = .ok ()) (distinct : modules.Distinct)
    (listable : ∀ module, module ∈ modules -> module.Listable group) :
    ∃ v, (writeInFolder path (versionList modules)).execute w = (.ok (), v) /\
      (loadModules path group).execute v = (.ok (modules.map Module.settled), v) /\
      (writeInFolder path (versionList (modules.map Module.settled))).execute v = (.ok (), v) := by
  rcases plain_versionList listable with ⟨free, encodable⟩
  have wrote : (writeInFolder path (versionList modules)).execute w =
      (.ok (), ((writeInFolder path (versionList modules)).execute w).2) :=
    Prod.ext ((writeInFolder_outcome encodable path w).trans writable) rfl
  rcases writeInFolder_written sound wrote with ⟨u, soundThen, -, writing⟩
  refine ⟨_, wrote, ?_, ?_⟩
  · rw [execute_loadModules group soundThen free writing, modulesOfText_versionList listable distinct]
  · rw [versionList_settled]
    exact writeInFolder_again sound wrote

def unevenModules : Modules :=
  [⟨"com.google.cloud", "google-cloud-speech", "2.1 SNAPSHOT", ""⟩, ⟨"com.google.api.grpc", "proto-google-cloud-speech-v1", "", ""⟩,
    ⟨"com.google.api.grpc", "grpc#v1", "#2", "1.9"⟩]

theorem unevenModules_written :
    let w : Workspace := { tree := .empty, directory := [] }
    w.Sound /\ ((writeInFolder "speech/versions.txt" "").execute w).1 = .ok () /\ unevenModules.Distinct /\
      (∀ module, module ∈ unevenModules -> module.Listable "com.google.cloud") /\
      ∃ v, (writeInFolder "speech/versions.txt" (versionList unevenModules)).execute w = (.ok (), v) /\
        (loadModules "speech/versions.txt" "com.google.cloud").execute v = (.ok (unevenModules.map Module.settled), v) /\
        (writeInFolder "speech/versions.txt" (versionList (unevenModules.map Module.settled))).execute v = (.ok (), v) := by
  intro w
  have sound : w.Sound := by decide
  have writable : ((writeInFolder "speech/versions.txt" "").execute w).1 = .ok () := by rfl
  have distinct : unevenModules.Distinct := by
    rw [Modules.Distinct]
    decide
  have listable : ∀ module, module ∈ unevenModules -> module.Listable "com.google.cloud" := by
    decide +kernel
  exact ⟨sound, writable, distinct, listable, loadModules_written sound writable distinct listable⟩

end Files

end Maven
end Refinery
