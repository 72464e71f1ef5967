import Refinery.Proofs.Workspace.FileJob
import Refinery.Sample.Metadata

namespace Refinery

open List Job PathText

/-!
# Listing samples

Samples are found without fail, and listed unless a comment with metadata gives something else than fields.
-/

variable {α β : Type} {w : Workspace}

/-- A job that only looks, and finds an answer. -/
def Job.Answers (job : Job α) : Prop :=
  ∀ w, ∃ value, job.execute w = (.ok value, w)

namespace Job.Answers

variable {job : Job α}

lemma pure (value : α) : Answers (Pure.pure value : Job α) := fun _ => ⟨value, rfl⟩

lemma of_eq {answer : Workspace -> α} (runs : ∀ w, job.execute w = (.ok (answer w), w)) : Answers job :=
  fun w => ⟨answer w, runs w⟩

lemma bind {next : α -> Job β} (first : Answers job) (second : ∀ value, Answers (next value)) : Answers (job >>= next) := by
  intro w
  rcases first w with ⟨value, ran⟩
  rw [bind_ok ran]
  exact second value w

lemma mapM {step : α -> Job β} (each : ∀ item, Answers (step item)) (items : List α) : Answers (items.mapM step) := by
  induction items with
  | nil => exact pure []
  | cons item rest ih =>
    rw [List.mapM_cons]
    exact (each item).bind fun _ => ih.bind fun _ => pure _

lemma filterM {test : α -> Job Bool} (each : ∀ item, Answers (test item)) (items : List α) : Answers (items.filterM test) := by
  intro w
  choose answer runs using fun item => each item w
  exact ⟨_, execute_filterM test answer w items fun item _ => runs item⟩

end Job.Answers

lemma Job.execute_mapM_look {step : α -> Job β} (looks : ∀ item, FileJob false (step item)) (items : List α)
    (w : Workspace) : (∃ values, (items.mapM step).execute w = (.ok values, w) /\
        Forall₂ (fun item value => (step item).execute w = (.ok value, w)) items values) \/
      ∃ err, (items.mapM step).execute w = (.error err, w) /\ ∃ item ∈ items, ((step item).execute w).1 = .error err := by
  induction items with
  | nil => exact .inl ⟨[], rfl, .nil⟩
  | cons item rest ih =>
    have here : (step item).execute w = (((step item).execute w).1, w) := Prod.ext rfl ((looks item).idle rfl w)
    rw [List.mapM_cons]
    cases outcome : ((step item).execute w).1 <;> rw [outcome] at here
    next err => exact .inr ⟨err, bind_error here, item, mem_cons_self, outcome⟩
    next value =>
      rw [bind_ok here]
      rcases ih with ⟨values, ran, each⟩ | ⟨err, ran, other, mem, refused⟩
      · exact .inl ⟨value :: values, bind_ok ran, .cons here each⟩
      · exact .inr ⟨err, bind_error ran, other, mem_cons_of_mem item mem, refused⟩

namespace ShellGlob

lemma answers_namesIn (directory : String) (only : Bool) : Answers (namesIn directory only) := by
  refine Answers.bind (fun w => ⟨w.list _, by rw [execute_attempt, execute_list]⟩) fun outcome => ?_
  cases outcome with
  | error err => exact .pure []
  | ok names =>
    cases only with
    | true => exact .filterM (fun name => .of_eq (execute_isDirectory _)) names
    | false => exact .pure names

lemma answers_below (only : Bool) (depth : Nat) (directory : String) : Answers (below only depth directory) := by
  induction depth generalizing directory with
  | zero => exact .pure []
  | succ depth ih =>
    refine (answers_namesIn directory only).bind fun names => ?_
    exact .bind (.mapM (fun name => (ih _).bind fun _ => .pure _) _) fun _ => .pure _

lemma answers_isThere (path : String) : Answers (isThere path) := by
  rw [isThere]
  split_ifs
  · exact .pure false
  · exact .bind (.of_eq (execute_exists? path)) fun _ => .bind (.of_eq (execute_isLink path)) fun _ => .pure _

lemma answers_component (directory pattern : String) (only : Bool) : Answers (component directory pattern only) := by
  rw [component]
  split_ifs
  · exact .bind (.of_eq execute_depthLimit) fun depth => (answers_below only depth directory).bind fun _ => .pure _
  · exact (answers_namesIn directory only).bind fun _ => .pure _
  · exact (answers_namesIn directory only).bind fun _ => .pure _
  · exact .bind (.of_eq (execute_isDirectory directory)) fun _ => .pure _
  · exact (answers_isThere _).bind fun _ => .pure _

lemma answers_expand (depth : Nat) (pattern : String) (only : Bool) : Answers (expand depth pattern only) := by
  induction depth generalizing pattern only with
  | zero => exact .pure []
  | succ depth ih =>
    have found (directories : List String) : Answers (do
        let found <- directories.mapM fun inside => do
          return (<- component inside (splitLast pattern).2 only).map (join inside)
        return found.flatten) :=
      .bind (.mapM (fun inside => (answers_component inside _ only).bind fun _ => .pure _) directories) fun _ => .pure _
    rw [expand]
    dsimp only
    split_ifs
    · exact .bind (.of_eq (execute_isDirectory _)) fun _ => .pure _
    · exact (answers_isThere pattern).bind fun _ => .pure _
    · exact answers_component "" _ only
    · exact (ih _ true).bind found
    · exact .bind (.pure _) found

lemma answers_paths (pattern : String) : Answers (paths pattern) := by
  refine (answers_expand _ pattern false).bind fun found => ?_
  split <;> exact .pure _

end ShellGlob

namespace Sample

/-- A comment with metadata that is passed over, or gives fields. -/
def Tolerated (content : String) : Prop :=
  ∀ text, commentText? content = some text -> Yaml.parse text = .error (.badYaml .tokens) \/
    ∃ fields inner, Yaml.parse text = .ok (.map fields) /\ Doc.lookup (.text "sample-metadata") fields = some (.map inner)

lemma tolerated_iff {content : String} : (∃ more, commentMetadata content = .ok (.map more)) ↔ Tolerated content := by
  rw [commentMetadata, Tolerated]
  cases commentText? content with
  | none => simp
  | some text =>
    simp only [Option.some.injEq, forall_eq']
    cases Yaml.parse text with
    | error err =>
      by_cases tokens : err = .badYaml .tokens
      · simp [tokens]
      · simp [tokens]
    | ok doc =>
      cases doc with
      | map fields =>
        cases found : Doc.lookup (.text "sample-metadata") fields <;> simp [entryOf, found]
      | _ => simp [entryOf]

/-- A sample that can be read and has a title, with a comment that is tolerated if there is one. -/
def Listable (w : Workspace) (file : String) : Prop :=
  (∃ title, titleOf file = .ok title) /\ ∃ content, ((readText file).execute w).1 = .ok content /\ Tolerated content

/-- An entry with a title and a file. -/
def IsEntry (doc : Doc) : Prop :=
  ∃ fields, doc = .map fields /\ (Doc.lookup (.text "title") fields).isSome /\ (Doc.lookup (.text "file") fields).isSome

lemma fileJob_ofFile (file : String) : FileJob false (ofFile file) :=
  (FileJob.ofExcept _).bind fun _ => (FileJob.readText file).bind fun _ => (FileJob.ofExcept _).bind fun _ =>
    FileJob.ofExcept _

lemma isSome_lookup_assign {key other value : Doc} {fields : List (Doc × Doc)}
    (there : (Doc.lookup key fields).isSome) : (Doc.lookup key (Doc.assign other value fields)).isSome := by
  induction fields with
  | nil => cases there
  | cons field rest ih =>
    rw [Doc.assign]
    split_ifs <;> rw [Doc.lookup, find?_cons] at there ⊢ <;> cases same : Doc.same field.1 key <;>
      rw [same] at there
    · exact there
    · rfl
    · exact ih there
    · rfl

lemma isSome_lookup_foldl {key : Doc} (more : List (Doc × Doc)) {fields : List (Doc × Doc)}
    (there : (Doc.lookup key fields).isSome) :
    (Doc.lookup key (more.foldl (fun fields pair => Doc.assign pair.1 pair.2 fields) fields)).isSome := by
  induction more generalizing fields with
  | nil => exact there
  | cons pair rest ih => exact ih (isSome_lookup_assign there)

lemma isEntry_withComment {title file : String} {more : List (Doc × Doc)} :
    ∃ doc, withComment title file (.map more) = .ok doc /\ IsEntry doc :=
  ⟨_, rfl, _, rfl, isSome_lookup_foldl more (by simp [Doc.lookup, Doc.same]),
    isSome_lookup_foldl more (by simp [Doc.lookup, Doc.same])⟩

lemma ofFile_ok_iff {file : String} : ((∃ doc, (ofFile file).execute w = (.ok doc, w)) ↔ Listable w file) /\
    ∀ doc, (ofFile file).execute w = (.ok doc, w) -> IsEntry doc := by
  have read : (readText file).execute w = (((readText file).execute w).1, w) :=
    Prod.ext rfl ((FileJob.readText file).idle rfl w)
  rw [Listable, ofFile]
  cases titleOf file with
  | error err => simp [execute_bind, execute_ofExcept]
  | ok title =>
    rw [execute_bind, execute_ofExcept]
    dsimp only
    rcases outcome : ((readText file).execute w).1 with err | content
    · rw [execute_bind, read, outcome]
      simp
    · have left : ((∃ given, (Except.ok title : Except Failure String) = .ok given) /\
          ∃ given, (Except.ok content : Except Failure String) = .ok given /\ Tolerated given) ↔ Tolerated content := by
        simp
      rw [bind_ok (outcome ▸ read), left, <- tolerated_iff]
      cases commentMetadata content with
      | error err => simp [execute_bind, execute_ofExcept]
      | ok comment =>
        rw [bind_ok (execute_ofExcept _ w), execute_ofExcept]
        cases comment with
        | map more =>
          rcases @isEntry_withComment title file more with ⟨doc, made, entry⟩
          rw [made]
          simpa using entry
        | _ => simp [withComment]

/-- Samples are found whatever the patterns are, and listed in order, each with a title and its file, exactly if each of
them can be listed; otherwise nothing is listed. -/
theorem inFiles_listed_iff (patterns : List String) (w : Workspace) :
    ∃ found, (patterns.mapM ShellGlob.paths).execute w = (.ok found, w) /\
      ((∃ docs, (inFiles patterns).execute w = (.ok docs, w) /\
          Forall₂ (fun file doc => (ofFile file).execute w = (.ok doc, w) /\ IsEntry doc)
            (Text.sorted found.flatten) docs) ↔ ∀ file ∈ Text.sorted found.flatten, Listable w file) /\
      ((∃ file ∈ Text.sorted found.flatten, ¬ Listable w file) -> ∃ err, (inFiles patterns).execute w = (.error err, w)) := by
  rcases Answers.mapM ShellGlob.answers_paths patterns w with ⟨found, ran⟩
  refine ⟨found, ran, ?_⟩
  rw [inFiles, bind_ok ran]
  generalize Text.sorted found.flatten = files
  rcases execute_mapM_look fileJob_ofFile files w with ⟨docs, listed, each⟩ | ⟨err, failed, file, mem, refused⟩
  · have all : ∀ file ∈ files, Listable w file := by
      clear listed
      induction each with
      | nil => exact forall_mem_nil _
      | cons here _ ih => exact forall_mem_cons.mpr ⟨ofFile_ok_iff.1.mp ⟨_, here⟩, ih⟩
    refine ⟨iff_of_true ⟨docs, listed, each.imp fun file doc here => ⟨here, ofFile_ok_iff.2 doc here⟩⟩ all, ?_⟩
    rintro ⟨file, mem, refused⟩
    exact absurd (all file mem) refused
  · have unlisted : ¬ Listable w file := by
      intro listable
      rcases ofFile_ok_iff.1.mpr listable with ⟨doc, here⟩
      rw [here] at refused
      cases refused
    refine ⟨iff_of_false ?_ fun all => unlisted (all file mem), fun _ => ⟨err, failed⟩⟩
    rintro ⟨docs, listed, -⟩
    rw [failed] at listed
    cases listed

/-- A sample whose comment has nothing under its heading. -/
def emptyComment : Workspace where
  tree := ⟨[(["a.js"], .file { content := "// sample-metadata:\n// title: x\n".toUTF8 })]⟩
  directory := []

theorem unlisted_sample : ((inFiles ["a.js"]).execute emptyComment).1.toOption.isSome = false := by
  decide +kernel

end Sample

end Refinery
