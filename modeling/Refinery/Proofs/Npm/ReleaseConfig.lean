import Refinery.Npm.Postprocess
import Refinery.Proofs.Json.File
import Refinery.Proofs.Workspace.Rewriting

namespace Refinery

open List Job Workspace Text

/-!
# Packages in the release configuration

Registering a package sets an empty entry.
-/

namespace Npm

variable {w v : Workspace} {place : Place} {pairs inner : List (String × Doc)} {names : List String}

structure Configures (pairs inner : List (String × Doc)) : Prop where
  plain : Json.Plain (.fields pairs)
  packages : pairs.lookup "packages" = some (.fields inner)

structure Registered (names : List String) (pairs inner after entries : List (String × Doc)) : Prop where
  configures : Configures after entries
  others : ∀ key, key ≠ "packages" -> after.lookup key = pairs.lookup key
  entries : ∀ name, entries.lookup name = if name ∈ names then some (.map []) else inner.lookup name

lemma register_fields (configures : Configures pairs inner) (name : String) : register (.fields pairs) name =
    .ok (.fields (Json.setField "packages" (.fields (Json.setField name (.map []) inner)) pairs)) :=
  Json.putIn_fields configures.packages

lemma foldlM_register (configures : Configures pairs inner) (names : List String)
    (encodable : ∀ name ∈ names, encodable name = true) : ∃ after entries,
    names.foldlM register (.fields pairs) = .ok (.fields after) /\ Registered names pairs inner after entries := by
  induction names generalizing pairs inner with
  | nil => exact ⟨pairs, inner, rfl, configures, fun _ _ => rfl, by simp⟩
  | cons name rest ih =>
    have empty : Json.Plain (.map []) := @Json.Plain.fields [] nodup_nil (by simp) (by simp)
    have next : Configures (Json.setField "packages" (.fields (Json.setField name (.map []) inner)) pairs)
        (Json.setField name (.map []) inner) := by
      refine ⟨configures.plain.setField (by decide) ?_, Json.lookup_setField_self _ _ _⟩
      exact (configures.plain.of_lookup configures.packages).setField (encodable name mem_cons_self) empty
    obtain ⟨after, entries, folded, registered⟩ := ih next fun other mem => encodable other (mem_cons_of_mem name mem)
    refine ⟨after, entries, ?_, registered.configures, fun key apart => ?_, fun key => ?_⟩
    · rwa [foldlM_cons, register_fields configures]
    · rw [registered.others key apart, Json.lookup_setField, if_neg apart]
    · rw [registered.entries, Json.lookup_setField]
      by_cases here : key = name <;> simp [here]

lemma foldlM_register_again (configures : Configures pairs inner) (known : ∀ name ∈ names, inner.lookup name = some (.map [])) :
    names.foldlM register (.fields pairs) = .ok (.fields pairs) := by
  induction names with
  | nil => rfl
  | cons name rest ih =>
    rw [foldlM_cons, register_fields configures, Json.setField_of_lookup (known name mem_cons_self),
      Json.setField_of_lookup configures.packages]
    exact ih fun other mem => known other (mem_cons_of_mem name mem)

/-! ## Jobs that register packages -/

/-- A workspace with its release configuration, at a place. -/
structure Configured (w : Workspace) (place : Place) (pairs inner : List (String × Doc)) : Prop where
  sound : w.Sound
  located : w.placeOf releaseFile true = .ok place
  read : (w.readAt place).bind Json.parse? = some (.fields pairs)
  lasting : Json.Lasting (.fields pairs)
  packages : pairs.lookup "packages" = some (.fields inner)

structure Reconfigured (w : Workspace) (place : Place) (v : Workspace) : Prop where
  rewritten : w.Rewritten v
  others : ∀ other, other ≠ place -> v.tree.get? other = w.tree.get? other

/-- A job registers packages, and doing it again changes nothing. -/
def Registers (w : Workspace) (place : Place) (pairs inner : List (String × Doc)) (names : List String)
    (job : Job Unit) : Prop :=
  ∃ v text after entries, job.execute w = (.ok (), v) /\ v.textAt place = some text /\
    Json.parse? text = some (.fields after) /\ Registered names pairs inner after entries /\
    (∀ other, other ≠ place -> v.tree.get? other = w.tree.get? other) /\
    ∃ u, job.execute v = (.ok (), u) /\ ∀ other, u.tree.get? other = v.tree.get? other

def reconfigure (update : Doc -> Job Doc) : Job Unit := do
  let config <- readJson releaseFile
  let config <- update config
  writeJson releaseFile 2 config

lemma registers_of (configured : Configured w place pairs inner)
    (encodable : ∀ name ∈ names, encodable name = true) {update : Doc -> Job Doc}
    (updates : ∀ v config, Reconfigured w place v -> (update config).execute v = (names.foldlM register config, v)) :
    Registers w place pairs inner names (reconfigure update) := by
  obtain ⟨sound, located, read, lasting, packages⟩ := configured
  obtain ⟨text, read, parsed⟩ := Option.bind_eq_some_iff.mp read
  have configures : Configures pairs inner := ⟨lasting.plain parsed, packages⟩
  obtain ⟨file, found, decoded⟩ := readAt_eq_some_iff.mp read
  obtain ⟨after, entries, folded, registered⟩ := foldlM_register configures names encodable
  have unsorted : (Json.Layout.indented 2).sorted = false := rfl
  obtain ⟨new, printed, clear, reparsed⟩ := Json.parse?_print? unsorted false registered.configures.plain
  have update := updates w (.fields pairs) ⟨.refl sound, fun _ _ => rfl⟩
  rw [folded] at update
  let rewritten : FileNode := { file with content := new.toUTF8, age := 0 }
  have view := get?_put_file found rewritten
  have next : Reconfigured w place (w.put (some (place, .file rewritten))) :=
    ⟨(Rewritten.refl sound).put_file located found rewritten, fun other apart => by rw [view, if_neg apart]⟩
  have there : (w.put (some (place, .file rewritten))).tree.get? place = some (.file rewritten) := by
    rw [view, if_pos rfl]
  have relocated := (next.rewritten.placeOf releaseFile true).trans located
  have reupdate := updates _ (.fields after) next
  rw [foldlM_register_again registered.configures fun name mem => by rw [registered.entries, if_pos mem]] at reupdate
  refine ⟨_, new, after, entries, (bind_ok (execute_readJson located found decoded parsed)).trans
    ((bind_ok update).trans (execute_writeJson located found printed clear)), ?_, reparsed, registered, next.others,
    _, (bind_ok (execute_readJson relocated there (Json.decoded?_of_clear clear) reparsed)).trans
    ((bind_ok reupdate).trans (execute_writeJson relocated there printed clear)), fun other => ?_⟩
  · rw [textAt, there]
    exact fromUTF8?_toUTF8 new
  · rw [get?_put_file there]
    split
    next same => rw [same, there]
    next => rfl

/-! ## Private packages -/

def marksPrivate (fields : List (String × Doc)) : Bool :=
  match fields.lookup "private" with
  | some (.bool true) => true
  | _ => false

/-- The description of a package marks it as private or not. -/
def Marked (w : Workspace) (place : Place) (directory : String) (hidden : Bool) : Prop :=
  ∃ other fields, other ≠ place /\ w.placeOf (Path.ofString directory / "package.json" : Path) true = .ok other /\
    (w.readAt other).bind Json.parse? = some (.fields fields) /\ marksPrivate fields = hidden

lemma saysPrivate_fields (fields : List (String × Doc)) : saysPrivate (.fields fields) = .ok (marksPrivate fields) := by
  have held : (Doc.fields fields).holds "private" = .ok (fields.lookup "private").isSome := by
    rw [Doc.fields, Doc.holds, Json.lookup_fields]
  rw [saysPrivate, held, marksPrivate]
  cases found : fields.lookup "private" with
  | none => rfl
  | some value =>
    have entry : (Doc.fields fields).entry "private" = .ok value := by
      rw [Doc.fields, Doc.entry, Json.lookup_fields, found]
    rw [entry]
    cases value with
    | bool marked => cases marked <;> rfl
    | _ => rfl

lemma Marked.execute_isPrivate {directory : String} {hidden : Bool} (marked : Marked w place directory hidden)
    (next : Reconfigured w place v) : (isPrivate directory).execute v = (.ok hidden, v) := by
  obtain ⟨other, fields, apart, located, read, rfl⟩ := marked
  obtain ⟨text, read, parsed⟩ := Option.bind_eq_some_iff.mp read
  obtain ⟨file, found, decoded⟩ := readAt_eq_some_iff.mp read
  have reading := execute_readJson ((next.rewritten.placeOf _ true).trans located)
    ((next.others other apart).trans found) decoded parsed
  rw [isPrivate, bind_ok reading, saysPrivate_fields]
  rfl

/-- The packages that are not private. -/
def publicNames (packages : List (String × Bool)) : List String :=
  (packages.filter (!·.2)).map Prod.fst

def registerOne (config : Doc) (directory : String) : Job Doc := do
  let hidden <- isPrivate directory
  let name <- need .unmetAssumption (fromFolder? "src/apis/" directory)
  if hidden then return config else Job.ofExcept (register config name)

lemma execute_registerOne {directories : List String} {packages : List (String × Bool)}
    (each : Forall₂ (fun directory package => fromFolder? "src/apis/" directory = some package.1 /\
      Marked w place directory package.2) directories packages) (next : Reconfigured w place v) (config : Doc) :
    (directories.foldlM registerOne config).execute v = ((publicNames packages).foldlM register config, v) := by
  induction each generalizing config with
  | nil => rfl
  | @cons directory package directories packages here _ ih =>
    obtain ⟨named, marked⟩ := here
    have step : (registerOne config directory).execute v = (if package.2 then .ok config else register config package.1, v) := by
      rw [registerOne, bind_ok (marked.execute_isPrivate next), named]
      cases package.2 with
      | true => rfl
      | false => exact execute_ofExcept _ v
    rw [foldlM_cons, execute_bind, step]
    cases hidden : package.2 with
    | true =>
      have same : publicNames (package :: packages) = publicNames packages := by simp [publicNames, hidden]
      rw [same]
      exact ih config
    | false =>
      have one : publicNames (package :: packages) = package.1 :: publicNames packages := by simp [publicNames, hidden]
      rw [one, foldlM_cons]
      cases register config package.1 with
      | error failure => rfl
      | ok config => exact ih config

def registerAround (directories : List String) (config : Doc) : Job Doc := do
  let config <- directories.foldlM registerOne config
  if <- isPrivate "." then pure config else Job.ofExcept (register config ".")

/-- **What registering packages does to the release configuration.** -/
theorem packages_registered (configured : Configured w place pairs inner) :
    (∀ directories names, Forall₂ (fun directory name => fromFolder? "packages/" directory = some name) directories names ->
      (∀ name ∈ names, encodable name = true) -> Registers w place pairs inner names (registerAll directories)) /\
    ∀ directories packages hidden, Forall₂ (fun directory package => fromFolder? "src/apis/" directory = some package.1 /\
        Marked w place directory package.2) directories packages -> Marked w place "." hidden ->
      (∀ package ∈ packages, encodable package.1 = true) ->
      Registers w place pairs inner (publicNames (packages ++ [(".", hidden)])) (registerPublic directories) := by
  constructor
  · intro directories names each encodable
    refine registers_of configured encodable fun v config next => ?_
    refine (execute_ofExcept _ v).trans (congrArg (·, v) ?_)
    clear encodable
    induction each generalizing config with
    | nil => rfl
    | cons named _ ih =>
      rw [foldlM_cons, foldlM_cons, named]
      exact bind_congr ih
  · intro directories packages hidden each root encodable
    have whole : registerPublic directories = reconfigure (registerAround directories) := by
      simp only [registerPublic, reconfigure, registerAround, bind_assoc]
      refine bind_congr fun config => bind_congr fun config => bind_congr fun hidden => ?_
      cases hidden <;> rfl
    rw [whole]
    refine registers_of configured ?_ fun v config next => ?_
    · intro name mem
      rcases mem_map.mp mem with ⟨package, shown, rfl⟩
      rcases mem_append.mp (mem_of_mem_filter shown) with inside | last
      · exact encodable package inside
      · have dot : Text.encodable "." = true := by decide
        rw [mem_singleton.mp last]
        exact dot
    · have parts : publicNames (packages ++ [(".", hidden)]) = publicNames packages ++ publicNames [(".", hidden)] := by
        simp [publicNames]
      rw [registerAround, execute_bind, execute_registerOne each next, parts, foldlM_append]
      cases (publicNames packages).foldlM register config with
      | error failure => rfl
      | ok config =>
        change (isPrivate "." >>= _).execute v = _
        rw [bind_ok (root.execute_isPrivate next)]
        cases hidden with
        | true => rfl
        | false => exact (execute_ofExcept _ v).trans (congrArg (·, v) (bind_pure _).symm)

def releaseText : String :=
  "\x7b\n  \"packages\": \x7b\n    \"packages/a\": \x7b\n      \"x\": 1\n    \x7d\n  \x7d\n\x7d"

def releasing : Workspace where
  tree := ⟨[(["w"], .directory), (["w", releaseFile], .file { content := releaseText.toUTF8 }),
    (["w", "package.json"], .file { content := "\x7b\x7d".toUTF8 })]⟩
  directory := ["w"]

def releaseEntries : List (String × Doc) :=
  [("packages/a", .fields [("x", .int 1)])]

/-- A package and the directory itself are registered. -/
theorem releasing_registered :
    Registers releasing ["w", releaseFile] [("packages", .fields releaseEntries)] releaseEntries ["packages/b"]
      (registerAll ["../packages/b"]) /\
    Registers releasing ["w", releaseFile] [("packages", .fields releaseEntries)] releaseEntries ["."] (registerPublic []) := by
  have unsorted : (Json.Layout.indented 2).sorted = false := rfl
  have plain : Json.Plain (.fields [("packages", .fields releaseEntries)]) := by
    refine .fields (by decide) (by decide) (forall_mem_singleton.mpr ?_)
    refine .fields (by decide) (by decide) (forall_mem_singleton.mpr ?_)
    exact .fields (by decide) (by decide) (forall_mem_singleton.mpr (.int 1))
  have empty : Json.Plain (.fields []) := .fields nodup_nil (by simp) (by simp)
  have read : Json.parse? releaseText = some (.fields [("packages", .fields releaseEntries)]) :=
    Json.parse?_of_print? unsorted plain (by decide +kernel)
  have nothing : Json.parse? "\x7b\x7d" = some (.fields []) :=
    Json.parse?_of_print? unsorted empty (by decide +kernel)
  have configured : Configured releasing ["w", releaseFile] [("packages", .fields releaseEntries)] releaseEntries := by
    refine ⟨by decide, by decide, ?_, plain.lasting, rfl⟩
    rw [show releasing.readAt ["w", releaseFile] = some releaseText by decide +kernel, Option.bind_some, read]
  have marked : Marked releasing ["w", releaseFile] "." false := by
    refine ⟨["w", "package.json"], [], by decide, by decide, ?_, rfl⟩
    rw [show releasing.readAt ["w", "package.json"] = some "\x7b\x7d" by decide +kernel, Option.bind_some, nothing]
  rcases packages_registered configured with ⟨all, shown⟩
  exact ⟨all _ _ (.cons (by decide) .nil) (by decide), shown [] [] false .nil marked (by simp)⟩

/-- The entry is emptied when its package is registered. -/
theorem entry_emptied : releasing.textAt ["w", releaseFile] = some releaseText /\
    ((registerAll ["packages/a"]).execute releasing).2.textAt ["w", releaseFile] =
      some "\x7b\n  \"packages\": \x7b\n    \"packages/a\": \x7b\x7d\n  \x7d\n\x7d" := by
  decide +kernel

end Npm
end Refinery
