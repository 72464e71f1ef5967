import Refinery.CommonFiles.Basic
import Refinery.Proofs.Sorting
import Refinery.Proofs.Workspace.Search
import Refinery.Proofs.Workspace.ShellGlob

namespace Refinery

open List Job Workspace Text Doc Glob

/-!
# The versions of a library

Versions are looked for at four depths, and those of the least depth with any are listed.
-/

namespace NamePattern

lemma anyEnd_eq (test : List Char -> Bool) (cs : List Char) : anyEnd test cs = cs.tails.any test := by
  induction cs with
  | nil => simp [anyEnd]
  | cons c rest ih => simp [anyEnd, ih]

end NamePattern

namespace RepositoryMetadata

variable {w : Workspace} {path : Path}

/-- The paths of what is in a directory. -/
def entries (w : Workspace) (path : Path) : List Path :=
  ((w.list path).toOption.getD []).map path.child

def foldersAt (w : Workspace) : (depth : Nat) -> Path -> List Path
  | 0, path => if w.isDirectory path then [path] else []
  | depth + 1, path => (entries w path).flatMap (foldersAt w depth)

/-- Whether the letter of a version stands in front of a digit that is not zero. -/
def isVersion (name : String) : Bool :=
  name.toList.tails.any fun
    | 'v' :: digit :: _ => '1' <= digit && digit <= '9'
    | _ => false

def versionsAt (w : Workspace) (path : Path) (depth : Nat) : List String :=
  ((foldersAt w depth path).map Path.name).filter isVersion

/-- The versions at the least of four depths where there are any. -/
def versionsIn (w : Workspace) (path : Path) : List String :=
  (([1, 2, 3, 4].map (versionsAt w path)).find? (!·.isEmpty)).getD []

lemma accepts_version (name : String) : (NamePattern.ofString "*v[1-9]*").accepts name.toList = isVersion name := by
  have parts : NamePattern.ofString "*v[1-9]*" = [.star, .char 'v', .set ⟨false, ['1', '9'], [('1', '9')]⟩, .star] := by decide
  rw [parts, NamePattern.accepts, NamePattern.anyEnd_eq, isVersion]
  congr 1
  funext cs
  rcases cs with _ | ⟨c, _ | ⟨digit, rest⟩⟩
  · rfl
  · simp [NamePattern.accepts]
  · by_cases letter : c = 'v'
    · subst letter
      rw [NamePattern.accepts, NamePattern.accepts, NamePattern.accepts_all]
      simp [NameSet.contains]
      rintro (rfl | rfl) <;> decide
    · simp [NamePattern.accepts, Ne.symm letter, letter]

/-! ## Searching -/

def collect (found : List Path) (path : Path) : Job (List Path) :=
  pure (path :: found)

lemma execute_matching {names : List String} (listed : w.list path = .ok names) {pattern : NamePattern}
    {rest : List GlobStep} (parts : String -> List Path) (each : ∀ name ∈ names, pattern.accepts name.toList = true ->
      (rest.isEmpty || w.isDirectory (path.child name)) = true -> ∀ found,
      (foldSteps false rest collect found (path.child name)).execute w =
        (.ok ((parts name).reverse ++ found), w)) (found : List Path) :
    (foldSteps false (.matching pattern :: rest) collect found path).execute w =
      (.ok (((names.filter fun name => pattern.accepts name.toList &&
        (rest.isEmpty || w.isDirectory (path.child name))).flatMap parts).reverse ++ found), w) := by
  have wanted : (names.filterM fun name => if rest.isEmpty && !false then pure true
      else Job.isDirectory (path.child name)).execute w =
        (.ok (names.filter fun name => rest.isEmpty || w.isDirectory (path.child name)), w) := by
    apply execute_filterM
    intro name _
    cases rest <;> rfl
  rw [foldSteps, bind_ok (by rw [execute_list, listed]), bind_ok wanted, filter_filter, <- foldl_reverse_append]
  apply execute_foldlM
  intro found name mem
  obtain ⟨inside, fits⟩ := mem_filter.mp mem
  rw [Bool.and_eq_true] at fits
  exact each name inside fits.1 fits.2 found

lemma isDirectory_of_mem_entries {entry : Path} (mem : entry ∈ entries w path) : w.isDirectory path = true := by
  rw [isDirectory_eq_true_iff]
  rw [entries, Workspace.list] at mem
  cases reached : w.placeOf path true with
  | error err => simp [reached, Except.toOption] at mem
  | ok place =>
    rw [nodeAt?_of_placeOf reached]
    rw [reached] at mem
    cases there : w.tree.get? place with
    | none => simp [there, Except.toOption] at mem
    | some node =>
      cases node with
      | directory => rfl
      | file file => simp [there, Except.toOption] at mem
      | link target => simp [there, Except.toOption] at mem

def hits (w : Workspace) : (depth : Nat) -> Path -> List Path
  | 0, path => (entries w path).filter (isVersion ·.name)
  | depth + 1, path => (entries w path).flatMap (hits w depth)

lemma hits_of_not (file : w.isDirectory path = false) (depth : Nat) : hits w depth path = [] := by
  have nothing : entries w path = [] := by
    refine eq_nil_iff_forall_not_mem.mpr fun entry mem => ?_
    cases file.symm.trans (isDirectory_of_mem_entries mem)
  cases depth <;> rw [hits, nothing] <;> rfl

lemma filter_hits (depth : Nat) (path : Path) : (hits w depth path).filter (fun hit : Path => w.isDirectory hit) =
      (foldersAt w (depth + 1) path).filter (isVersion ·.name) := by
  induction depth generalizing path with
  | zero =>
    rw [hits, foldersAt]
    induction entries w path with
    | nil => rfl
    | cons entry rest ih =>
      rw [flatMap_cons, filter_append, <- ih, foldersAt]
      cases named : isVersion entry.name <;> cases enters : w.isDirectory entry <;> simp [named, enters]
  | succ depth ih =>
    rw [hits, foldersAt, filter_flatMap, filter_flatMap]
    exact flatMap_congr fun entry _ => ih entry

def versionSteps : (depth : Nat) -> List GlobStep
  | 0 => [.matching (NamePattern.ofString "*v[1-9]*")]
  | depth + 1 => .matching [.star] :: versionSteps depth

lemma execute_versionSteps (sound : w.Sound) (proper : path.Proper) (dir : w.isDirectory path = true)
    (depth : Nat) (found : List Path) : (foldSteps false (versionSteps depth) collect found path).execute w =
      (.ok ((hits w depth path).reverse ++ found), w) := by
  induction depth generalizing path found with
  | zero =>
    obtain ⟨names, listed, -⟩ := sound.list proper dir
    rw [versionSteps, execute_matching listed (fun name => [path.child name]) fun _ _ _ _ _ => rfl, <- map_eq_flatMap]
    simp [hits, entries, listed, accepts_version, filter_map, Function.comp_def, Path.name, Path.child, Except.toOption]
  | succ depth ih =>
    obtain ⟨names, listed, plain⟩ := sound.list proper dir
    have further : (versionSteps depth).isEmpty = false := by cases depth <;> rfl
    have inner : (names.filter fun name => w.isDirectory (path.child name)).flatMap
        (fun name => hits w depth (path.child name)) = hits w (depth + 1) path := by
      rw [hits, entries, listed, flatMap_map]
      clear listed plain
      change _ = names.flatMap _
      induction names with
      | nil => rfl
      | cons name rest ih =>
        rw [flatMap_cons, <- ih, filter_cons]
        cases enters : w.isDirectory (path.child name) with
        | true => rfl
        | false => rw [hits_of_not enters]; rfl
    rw [versionSteps, execute_matching listed fun name => hits w depth (path.child name)]
    · simp only [NamePattern.accepts_all, further, Bool.false_or, Bool.true_and, inner]
    · intro name mem _ enters found
      rw [further, Bool.false_or] at enters
      exact ih (proper.child (plain name mem).1) enters found

lemma execute_list_versions (sound : w.Sound) (proper : path.Proper) {pattern : String} {depth : Nat}
    (read : parse pattern = .ok ⟨versionSteps depth, false⟩) :
    (Glob.list path pattern).execute w = (.ok (hits w depth path), w) := by
  have ran : (fold path pattern (fun found path => pure (path :: found)) []).execute w =
      (.ok (hits w depth path).reverse, w) := by
    rw [fold, bind_ok (by rw [read]; exact execute_ofExcept _ w), bind_ok (execute_isDirectory _ w)]
    cases dir : w.isDirectory path with
    | true =>
      rw [<- append_nil (hits w depth path).reverse]
      exact execute_versionSteps sound proper dir depth []
    | false => rw [hits_of_not dir]; rfl
  rw [Glob.list, bind_ok ran, execute_pure, reverse_reverse]

lemma execute_versionFolders (sound : w.Sound) (proper : path.Proper) (patterns : List (String × Nat))
    (read : ∀ entry ∈ patterns, parse entry.1 = .ok ⟨versionSteps entry.2, false⟩) :
    (versionFolders path (patterns.map Prod.fst)).execute w = (.ok (sorted
      (((patterns.map fun entry => versionsAt w path (entry.2 + 1)).find? (!·.isEmpty)).getD [])), w) := by
  induction patterns with
  | nil => rfl
  | cons entry rest ih =>
    obtain ⟨first, later⟩ := forall_mem_cons.mp read
    have found : versionsAt w path (entry.2 + 1) =
        ((hits w entry.2 path).filter fun hit : Path => w.isDirectory hit).map Path.name := by
      rw [filter_hits, versionsAt, filter_map]
      rfl
    have chosen := execute_filterM (fun hit : Path => Job.isDirectory hit) (fun hit => w.isDirectory hit) w
      (hits w entry.2 path) fun _ _ => rfl
    rw [map_cons, versionFolders, bind_ok (execute_list_versions sound proper first), bind_ok chosen, map_cons,
      find?_cons, found, isEmpty_map]
    cases (filter (fun hit : Path => w.isDirectory hit) (hits w entry.2 path)).isEmpty with
    | true => exact ih later
    | false => rfl

/-! ## The default version -/

/-- Which default version is known: the one that is asked for, else that of the record. -/
inductive Known (w : Workspace) (asked : Option String) : Option String -> Prop
  | asked {version : String} (asks : asked.filter (· ≠ "") = some version) : Known w asked version
  | unrecorded {path : String} (unasked : asked.filter (· ≠ "") = none)
      (absent : (readJson ".repo-metadata.json").execute w = (.error (.absent path), w)) : Known w asked none
  | unset {fields : List (Doc × Doc)} (unasked : asked.filter (· ≠ "") = none)
      (read : (readJson ".repo-metadata.json").execute w = (.ok (.map fields), w))
      (empty : ((lookup (.text "default_version") fields).getD .null).truthy = false) : Known w asked none
  | recorded {fields : List (Doc × Doc)} {version : String} (unasked : asked.filter (· ≠ "") = none)
      (read : (readJson ".repo-metadata.json").execute w = (.ok (.map fields), w))
      (found : lookup (.text "default_version") fields = some (.text version)) (named : version ≠ "") :
      Known w asked version

/-- Names in ascending order, but one with the default version is first or last. -/
inductive Arranged (isDefault : String -> Bool) (first : Bool) (names : List String) : List String -> Prop
  | ascending {found : List String} (none : ∀ name ∈ names, isDefault name = false)
      (all : found.Perm names) (inOrder : found.Pairwise (· <= ·)) : Arranged isDefault first names found
  | moved {name : String} {others : List String} (listed : name ∈ names) (ends : isDefault name = true)
      (all : others.Perm (names.filter (!isDefault ·))) (inOrder : others.Pairwise (· <= ·)) :
      Arranged isDefault first names (if first then name :: others else others ++ [name])

lemma Arranged.perm_iff {isDefault : String -> Bool} {first : Bool} {names found : List String}
    (arranged : Arranged isDefault first names found) : found.Perm names ↔ names.countP isDefault <= 1 := by
  cases arranged with
  | ascending none all _ =>
    refine iff_of_true all ?_
    rw [countP_eq_zero.mpr fun name mem => by simp [none name mem]]
    exact Nat.zero_le 1
  | @moved name others listed ends all _ =>
    have either : (if first then name :: others else others ++ [name]).Perm (name :: others) := by
      cases first with
      | true => exact .refl _
      | false => exact perm_append_singleton name others
    have parts : (names.filter isDefault ++ others).Perm names :=
      (all.append_left _).trans (filter_append_perm isDefault names)
    rw [countP_eq_length_filter]
    have one : name ∈ names.filter isDefault := mem_filter.mpr ⟨listed, ends⟩
    constructor
    · intro kept
      have lengths := (kept.symm.trans either).length_eq.symm.trans parts.length_eq.symm 
      simp at lengths
      omega
    · intro few
      obtain ⟨only, same⟩ := length_eq_one_iff.mp (le_antisymm few (length_pos_of_mem one))
      rw [same, mem_singleton] at one
      rw [same, <- one] at parts
      exact either.trans parts

lemma arranged_arrange (version : String) (first : Bool) (names : List String) :
    Arranged (endsWith · version) first names (arrange version first (sorted names)) := by
  have sorted : (sorted names).Perm names := Sorting.ordered_perm _ names
  have inOrder := (sorted_pairwise names).filter fun name => !endsWith name version
  rw [arrange]
  cases chosen : (Text.sorted names).find? (endsWith · version) with
  | none =>
    have none : ∀ name ∈ names, endsWith name version = false := by
      intro name mem
      simpa using find?_eq_none.mp chosen name (sorted.mem_iff.mpr mem)
    refine .ascending none ?_ inOrder
    rwa [filter_eq_self.mpr fun name mem => by simp [none name (sorted.mem_iff.mp mem)]]
  | some name =>
    have ends := find?_some (p := (endsWith · version)) chosen
    exact .moved (sorted.mem_iff.mp (mem_of_find?_eq_some chosen)) ends (sorted.filter _) inOrder

lemma Known.recall {asked version : Option String} (known : Known w asked version) :
    ∃ value : Doc, value.truthy = version.isSome /\ (∀ name ∈ version, value = .text name) /\
      ∀ directory first, (detectVersions directory asked first).execute w = (do
          let folders <- versionFolders directory versionPatterns
          if folders.isEmpty || !value.truthy then return folders
          return arrange (<- Job.ofExcept value.needText) first folders).execute w := by
  have recorded {fields : List (Doc × Doc)}
      (read : (readJson ".repo-metadata.json").execute w = (.ok (.map fields), w)) :
      defaultVersion.execute w = (.ok ((lookup (.text "default_version") fields).getD .null), w) := by
    rw [defaultVersion, bind_ok read]
    rfl
  cases known with
  | @asked version asks =>
    refine ⟨.text version, ?_, by simp, fun directory first => ?_⟩
    · have named := (Option.filter_eq_some_iff.mp asks).2
      simpa [Doc.truthy] using named
    · rw [detectVersions, asks]
      rfl
  | @unrecorded path unasked absent =>
    have failed : defaultVersion.execute w = (.error (.absent path), w) := by
      rw [defaultVersion, bind_error absent]
    refine ⟨.null, rfl, by simp, fun directory first => ?_⟩
    rw [detectVersions, unasked]
    rw [bind_ok (execute_attempt _ w), failed]
    rfl
  | @unset fields unasked read empty =>
    refine ⟨_, empty, by simp, fun directory first => ?_⟩
    rw [detectVersions, unasked]
    rw [bind_ok (execute_attempt _ w), recorded read]
    rfl
  | @recorded fields version unasked read found named =>
    refine ⟨.text version, ?_, by simp, fun directory first => ?_⟩
    · simpa [Doc.truthy] using named
    · rw [detectVersions, unasked]
      rw [bind_ok (execute_attempt _ w), recorded read, found]
      rfl

lemma execute_versions (sound : w.Sound) (directory : String) :
    (versionFolders (Path.ofString directory) versionPatterns).execute w =
      (.ok (sorted (versionsIn w (Path.ofString directory))), w) := by
  apply execute_versionFolders sound (Path.proper_ofString directory)
    [("*v[1-9]*", 0), ("*/*v[1-9]*", 1), ("*/*/*v[1-9]*", 2), ("*/*/*/*v[1-9]*", 3)]
  decide

/-- **The versions of a library.**  They are the names at the least depth that has any, in ascending order but
for one with the default version.  They are all there exactly if at most one ends with it. -/
theorem versions_kept_iff {asked version : Option String} (sound : w.Sound) (known : Known w asked version)
    (directory : String) (first : Bool) : ∃ names found, names = versionsIn w (Path.ofString directory) /\
      (detectVersions (Path.ofString directory) asked first).execute w = (.ok found, w) /\
      Arranged (fun name => version.any (endsWith name)) first names found /\
      (found.Perm names ↔ names.countP (fun name => version.any (endsWith name)) <= 1) := by
  rcases known.recall with ⟨value, truthy, same, ran⟩
  suffices arranged : ∃ found, (detectVersions (Path.ofString directory) asked first).execute w = (.ok found, w) /\
      Arranged (fun name => version.any (endsWith name)) first (versionsIn w (Path.ofString directory)) found by
    rcases arranged with ⟨found, run, arranged⟩
    exact ⟨_, found, rfl, run, arranged, arranged.perm_iff⟩
  rw [ran, bind_ok (execute_versions sound directory), truthy]
  generalize versionsIn w (Path.ofString directory) = names
  have sorted : (sorted names).Perm names := Sorting.ordered_perm _ names
  cases version with
  | none =>
    rw [if_pos (by simp)]
    exact ⟨_, rfl, .ascending (fun _ _ => rfl) sorted (sorted_pairwise names)⟩
  | some version =>
    rw [same version rfl]
    cases empty : (Text.sorted names).isEmpty with
    | true =>
      rw [isEmpty_iff.mp empty] at sorted ⊢
      rw [<- sorted.nil_eq]
      exact ⟨[], rfl, .ascending (by simp) (.refl _) .nil⟩
    | false => exact ⟨_, rfl, arranged_arrange version first names⟩

def versioned (names : List String) : Workspace where
  tree := ⟨(["w"], .directory) :: (["w", "src"], .directory) :: names.map fun name => (["w", "src", name], .directory)⟩
  directory := ["w"]

theorem default_version_last :
    ∃ found, (detectVersions (Path.ofString "src") (some "v1") false).execute (versioned ["a_v1", "a_v2"]) =
        (.ok found, versioned ["a_v1", "a_v2"]) /\ found.Perm ["a_v1", "a_v2"] := by
  have known : Known (versioned ["a_v1", "a_v2"]) (some "v1") (some "v1") := .asked (by decide)
  rcases versions_kept_iff (by decide) known "src" false with ⟨names, found, listed, run, -, kept⟩
  have same : names = ["a_v1", "a_v2"] := by
    rw [listed]
    decide +kernel
  subst same
  exact ⟨found, run, kept.mpr (by decide)⟩

/-- Two libraries have the default version, and one of them is lost. -/
theorem default_version_lost : versionsIn (versioned ["a_v1", "b_v1"]) (Path.ofString "src") = ["a_v1", "b_v1"] /\
      ((detectVersions (Path.ofString "src") (some "v1") false).execute
        (versioned ["a_v1", "b_v1"])).1.toOption = some ["a_v1"] := by
  decide +kernel

end RepositoryMetadata
end Refinery
