import Mathlib
import Refinery.Maven.Pom

namespace Refinery

open List Text

/-!
# Descriptions that can be encoded

A description can be encoded if the texts can that it is made of.
-/

namespace Text

variable {s t : String}

@[simp] lemma encodable_append (s t : String) : encodable (s ++ t) = (encodable s && encodable t) := by
  simp [encodable]

lemma encodable_ofList {chars : List Char} (whole : chars.any isHalf = false) : encodable (String.ofList chars) = true := by
  rw [encodable, String.toList_ofList, whole]
  rfl

@[simp] lemma encodable_join (parts : List String) : encodable (String.join parts) = parts.all encodable := by
  induction parts with
  | nil => rfl
  | cons first rest ih => rw [String.join_cons, encodable_append, ih, all_cons]

lemma encodable_dropEnd (n : Nat) (so : encodable s = true) : encodable (dropEnd n s) = true := by
  rw [encodable, Bool.not_eq_true', any_eq_false] at so ⊢
  intro c mem
  rw [dropEnd, String.toList_ofList] at mem
  exact so c (mem_of_mem_take mem)

@[simp] lemma encodable_repeated_space (n : Nat) : encodable (repeated n " ") = true := by
  have space : encodable " " = true := by decide
  rw [repeated, encodable_join, all_eq_true]
  intro each mem
  rw [eq_of_mem_replicate mem, space]

end Text

namespace Maven

/-- A module whose parts can be encoded. -/
def Module.encodable (module : Module) : Bool :=
  Text.encodable module.group && Text.encodable module.artifact && Text.encodable module.version

namespace Pom

open Text (encodable)

@[simp] lemma encodable_element (name content : String) :
    encodable (element name content) = (encodable name && encodable content) := by
  have marks : encodable "<" = true /\ encodable ">" = true /\ encodable "</" = true := by decide
  simp only [element, encodable_append, marks, Bool.true_and, Bool.and_true]
  cases encodable name <;> simp

@[simp] lemma encodable_text (lines : List String) : encodable (text lines) = lines.all encodable := by
  have ending : encodable "\n" = true := by decide
  rw [text, encodable_join, all_map]
  simp only [Function.comp_def, encodable_append, ending, Bool.and_true]

@[simp] lemma all_indent (width : Nat) (lines : List String) : (indent width lines).all encodable = lines.all encodable := by
  rw [indent, all_map]
  congr 1
  funext line
  by_cases empty : line.isEmpty = true
  · rw [Function.comp_apply, if_pos empty]
  · rw [Function.comp_apply, if_neg empty, encodable_append, encodable_repeated_space, Bool.true_and]

@[simp] lemma all_block (name : String) (inner : List String) (width : Nat) :
    (block name inner width).all encodable = (encodable name && inner.all encodable) := by
  have marks : encodable "<" = true /\ encodable ">" = true /\ encodable "</" = true := by decide
  simp only [block, all_append, all_cons, all_nil, all_indent, encodable_append, marks, Bool.true_and, Bool.and_true]
  cases encodable name <;> simp

@[simp] lemma all_coordinates (group art : String) :
    (coordinates group art).all encodable = (encodable group && encodable art) := by
  have names : encodable "groupId" = true /\ encodable "artifactId" = true := by decide
  simp [coordinates, names]

@[simp] lemma encodable_keptVersion (ver art : String) : encodable (keptVersion ver art) = (encodable ver && encodable art) := by
  have marks : encodable "version" = true /\ encodable "<!-- \x7bx-version-update:" = true /\
      encodable ":current\x7d -->" = true := by decide
  simp [keptVersion, marks]

@[simp] lemma all_dependency (group art : String) (more : List String) :
    (dependency group art more).all encodable = (encodable group && encodable art && more.all encodable) := by
  have name : encodable "dependency" = true := by decide
  simp [dependency, name]

@[simp] lemma all_versionedDependency (target : Module) : (versionedDependency target).all encodable = target.encodable := by
  simp only [versionedDependency, dependencyOn, all_dependency, all_cons, all_nil, encodable_keptVersion, Module.encodable]
  cases encodable target.group <;> cases encodable target.artifact <;> simp

variable {main parent target : Module} {repo name : String} {mods : Modules}

lemma encodable_messages (mod : target.encodable = true) (above : parent.encodable = true)
    (first : main.encodable = true) : encodable (messages target parent main) = true := by
  simp only [Module.encodable, Bool.and_eq_true] at above first mod
  unfold messages shortProject identity parentBlock commonMessages flattenBuild descriptionSpace instances schema
  simp only [encodable_text, all_append, all_cons, all_nil, all_indent, all_block, all_coordinates,
    all_dependency, encodable_element, encodable_keptVersion, encodable_append, mod, above, first,
    Bool.and_eq_true, Bool.and_true, true_and]
  and_intros <;> exact encodable_ofList rfl

lemma all_dependencies (each : mods.all Module.encodable = true) {more : List String}
    (others : more.all encodable = true) : (mods.flatMap (dependencyOn · more)).all encodable = true := by
  rw [all_flatMap, all_eq_true]
  intro mod inside
  have parts := all_eq_true.mp each mod inside
  simp only [Module.encodable, Bool.and_eq_true] at parts
  rw [dependencyOn, all_dependency, parts.1.1, parts.1.2, others]
  rfl

lemma encodable_client {description : String} {services : Modules} (mod : target.encodable = true)
    (above : parent.encodable = true) (address : encodable repo = true) (named : encodable name = true)
    (desc : encodable description = true) (messages : mods.all Module.encodable = true)
    (others : services.all Module.encodable = true) :
    encodable (client target parent repo name description mods services) = true := by
  have scope : [element "scope" "test"].all encodable = true := by
    simp only [all_cons, all_nil, encodable_element, Bool.and_eq_true, Bool.and_true]
    and_intros <;> exact encodable_ofList rfl
  have needed := all_dependencies messages all_nil
  have tested := all_dependencies others scope
  simp only [Module.encodable, Bool.and_eq_true] at above mod
  apply encodable_dropEnd
  unfold project identity parentBlock home grpcDependencies commonMessages annotationProfile flattenBuild
    testDependencies descriptionSpace instances schema
  simp only [encodable_text, all_append, all_cons, all_nil, all_indent, all_block, all_coordinates,
    all_dependency, encodable_element, encodable_keptVersion, encodable_append, flatMap_cons,
    flatMap_nil, mod, above, address, named, desc, needed, tested, Bool.and_eq_true, Bool.and_true,
    true_and]
  and_intros <;> exact encodable_ofList rfl

lemma encodable_bill (first : main.encodable = true) (address : encodable repo = true)
    (named : encodable name = true) (each : mods.all Module.encodable = true) : encodable (bill main repo name mods) = true := by
  simp only [Module.encodable, Bool.and_eq_true] at first
  unfold bill project home organization developer sharedParent descriptionSpace instances schema
  simp only [encodable_text, all_append, all_cons, all_nil, all_indent, all_block, all_coordinates,
    all_flatMap, all_versionedDependency, encodable_element, encodable_keptVersion, encodable_append,
    first, address, named, each, Bool.and_eq_true, Bool.and_true, true_and]
  and_intros <;> exact encodable_ofList rfl

lemma all_artifacts (each : mods.all Module.encodable = true) :
    (mods.map fun mod => element "module" mod.artifact).all encodable = true := by
  rw [all_eq_true] at each ⊢
  intro line mem
  rcases mem_map.mp mem with ⟨mod, inside, rfl⟩
  have parts := each mod inside
  simp only [Module.encodable, Bool.and_eq_true] at parts
  rw [encodable_element, parts.1.2, Bool.and_true]
  exact encodable_ofList rfl

lemma encodable_library (first : main.encodable = true) (address : encodable repo = true)
    (named : encodable name = true) (each : mods.all Module.encodable = true) : encodable (library main repo name mods) = true := by
  have artifacts := all_artifacts each
  simp only [Module.encodable, Bool.and_eq_true] at first
  unfold library project home organization developer sharedParent projectReports documentReports descriptionSpace instances schema
  simp only [encodable_text, all_append, all_cons, all_nil, all_indent, all_block, all_coordinates,
    all_flatMap, all_versionedDependency, all_dependency, encodable_element, encodable_keptVersion,
    encodable_append, map_cons, map_nil, first, address, named, each, artifacts,
    Bool.and_eq_true, Bool.and_true, true_and]
  and_intros <;> exact encodable_ofList rfl

end Pom
end Maven
end Refinery
