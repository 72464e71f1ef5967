import Refinery.Proofs.Workspace.FileJob

namespace Refinery

open FileJob Job Refinery.Tree Roots

/-!
# Judging searches and moves

A search is put together from looks and visits, and a move from looks and placing files.  `Judgement` is a way
to judge jobs that agrees with this, such as being a file job or a look.
-/

def Failure.Foreign : Failure -> Prop
  | .complaint (.nothingCopied _) => False
  | _ => True

/-! ## Jobs with foreign failures -/

def Job.Spares {α : Type} (job : Job α) : Prop :=
  ∀ w v failure, job.execute w = (.error failure, v) -> failure.Foreign

namespace Job.Spares

variable {α β : Type} {job : Job α} {next : α -> Job β}

lemma sure (ends : ∀ w, ∃ value, (job.execute w).1 = .ok value) : Spares job := by
  intro w v err ran
  obtain ⟨value, ended⟩ := ends w
  rw [ran] at ended
  cases ended

lemma pure (value : α) : Spares (Pure.pure value) :=
  sure fun _ => ⟨value, rfl⟩

lemma get : Spares (MonadState.get : Job Workspace) :=
  sure fun w => ⟨w, rfl⟩

lemma onTree (change : Tree -> Tree) : Spares (onTree change) :=
  sure fun _ => ⟨(), rfl⟩

lemma fail {err : Failure} (foreign : err.Foreign) : Spares (fail err : Job α) := by
  intro w v other ran
  cases ran
  exact foreign

lemma stop {err : Failure} (foreign : err.Foreign) : Spares (Job.fail err >>= next) := by
  intro w v other ran
  cases ran
  exact foreign

lemma bind (first : Spares job) (second : ∀ value, Spares (next value)) : Spares (job >>= next) := by
  intro w v err ran
  rcases begun : job.execute w with ⟨outcome, between⟩
  cases outcome with
  | ok value =>
    rw [bind_ok begun] at ran
    exact second value between v err ran
  | error other =>
    rw [bind_error begun] at ran
    cases ran
    exact first w v err begun

lemma attempt {next : Except Failure α -> Job β} (first : Spares job) (well : ∀ value, Spares (next (.ok value)))
    (badly : ∀ err, err.Foreign -> Spares (next (.error err))) : Spares (attempt job >>= next) := by
  intro w v err ran
  rw [bind_ok (execute_attempt job w)] at ran
  rcases begun : job.execute w with ⟨outcome, between⟩
  rw [begun] at ran
  cases outcome with
  | ok value => exact well value between v err ran
  | error other => exact badly other (first w between other begun) between v err ran

lemma placeOf (path : String) (follow : Bool) : Spares (placeOf path follow) := by
  refine get.bind fun w => ?_
  by_cases empty : path = ""
  · rw [if_pos empty]
    exact stop trivial
  · rw [if_neg empty]
    cases w.tree.locate w.directory (pathOf path) follow with
    | ok place => exact pure place
    | error reason => cases reason <;> exact fail trivial

lemma list (path : String) : Spares (list path) := by
  refine (placeOf path true).bind fun place => get.bind fun w => ?_
  dsimp only
  split
  · exact pure _
  all_goals exact fail trivial

lemma fileAt (path : String) : Spares (fileAt path) := by
  refine (placeOf path true).bind fun place => get.bind fun w => ?_
  split
  · exact pure _
  all_goals exact fail trivial

lemma writeBytes (path : String) (content : ByteArray) : Spares (writeBytes path content) := by
  refine (placeOf path true).bind fun place => get.bind fun w => ?_
  split
  all_goals first | exact onTree _ | exact fail trivial

lemma makeDirectory (path : String) : Spares (makeDirectory path) := by
  refine (placeOf _ false).bind fun place => get.bind fun w => ?_
  split
  · exact stop trivial
  · exact onTree _

lemma makeEach (mayExist : Bool) (paths : List String) : Spares (makeEach mayExist paths) := by
  fun_induction makeEach with
  | case1 => exact pure ()
  | case2 path =>
    refine (makeDirectory path).attempt (fun _ => pure ()) fun err foreign => ?_
    refine bind (sure fun _ => ⟨_, rfl⟩) fun there => ?_
    split
    · exact pure ()
    · exact fail foreign
  | case3 path rest further ih =>
    refine bind (sure fun _ => ⟨_, rfl⟩) fun there => ?_
    cases there with
    | true => exact ih
    | false =>
      refine (makeDirectory path).attempt (fun _ => ih) fun err foreign => ?_
      cases err
      case occupied => exact ih
      all_goals exact stop foreign

lemma makeDirectories (path : String) (mayExist : Bool) : Spares (makeDirectories path mayExist) := by
  rw [Job.makeDirectories]
  split
  · exact stop trivial
  · exact makeEach mayExist _

lemma copyFile (src dest : String) : Spares (copyFile src dest) := by
  have content : ∀ dest, Spares (copyContent src dest) := by
    intro dest
    refine bind (sure fun w => ⟨_, congrArg Prod.fst (execute_sameFile src dest w)⟩) fun same => ?_
    cases same with
    | true => exact stop trivial
    | false => exact ((fileAt src).bind fun _ => pure _).bind fun _ => writeBytes dest _
  have status : ∀ dest, Spares (copyStatus src dest) := fun dest =>
    (fileAt src).bind fun _ => (placeOf dest true).bind fun _ => onTree _
  exact bind (sure fun _ => ⟨_, rfl⟩) fun _ => (content _).bind fun _ => status _

lemma placeFile (src dest : Path) (merge : Option Merge) : Spares (Transfer.placeFile src dest merge) := by
  cases merge with
  | none => exact copyFile _ _
  | some merge =>
    refine bind (sure fun _ => ⟨_, rfl⟩) fun there => ?_
    cases there with
    | false => exact copyFile _ _
    | true =>
      refine bind (sure fun w => ⟨_, congrArg Prod.fst (execute_attempt _ w)⟩) fun outcome => ?_
      cases outcome with
      | ok value => exact pure ()
      | error err => exact copyFile _ _

end Job.Spares

namespace Glob

lemma mapM_stepOf_error {names : List String} {err : Failure} (failed : names.mapM stepOf = .error err) : err = .badValue := by
  induction names with
  | nil => cases failed
  | cons name rest ih =>
    rw [List.mapM_cons] at failed
    cases first : stepOf name with
    | error other =>
      rw [first] at failed
      cases failed
      rw [stepOf] at first
      split_ifs at first
      cases first
      rfl
    | ok step =>
      cases others : rest.mapM stepOf with
      | error other =>
        rw [first, others] at failed
        cases failed
        exact ih others
      | ok steps =>
        rw [first, others] at failed
        cases failed

lemma parse_eq (pattern : String) : parse pattern = if pattern = "" then .error .badValue
    else if (Path.ofString pattern).isAbsolute then .error .unsupported else if (Path.ofString pattern).names.isEmpty then
      .error (if Text.endsWith pattern "/" then .noMember else .noIndex)
    else ((Path.ofString pattern).names.mapM stepOf).map (Glob.mk · (Text.endsWith pattern "/")) := by
  refine ite_congr rfl (fun _ => rfl) fun _ => ite_congr rfl (fun _ => rfl) fun _ =>
    ite_congr rfl (fun _ => rfl) fun _ => ?_
  cases (Path.ofString pattern).names.mapM stepOf <;> rfl

lemma spares_parse (pattern : String) : Job.Spares (Job.ofExcept (parse pattern)) := by
  rw [parse_eq]
  split_ifs
  · exact .fail trivial
  · exact .fail trivial
  · exact .fail trivial
  · exact .fail trivial
  · cases steps : (Path.ofString pattern).names.mapM stepOf with
    | ok found => exact .pure _
    | error err =>
      rw [mapM_stepOf_error steps]
      exact .fail trivial

end Glob

/-! ## Looks -/

structure Job.Looks {α : Type} (job : Job α) : Prop where
  file : FileJob false job
  spares : Spares job

namespace Job.Looks

variable {α β : Type} {job : Job α}

lemma fileJob {writes : Bool} (looks : Looks job) : FileJob writes job :=
  ⟨fun _ => looks.file.idle rfl, looks.file.frame, looks.file.answer, looks.file.view, looks.file.grows, looks.file.sound⟩

lemma pure (value : α) : Looks (Pure.pure value) :=
  ⟨FileJob.pure value, Spares.pure value⟩

lemma bind {next : α -> Job β} (first : Looks job) (second : ∀ value, Looks (next value)) : Looks (job >>= next) :=
  ⟨first.file.bind fun value => (second value).file, first.spares.bind fun value => (second value).spares⟩

lemma isDirectory (path : String) : Looks (isDirectory path) :=
  ⟨FileJob.isDirectory path, .sure fun _ => ⟨_, rfl⟩⟩

lemma list (path : String) : Looks (list path) :=
  ⟨FileJob.list path, .list path⟩

lemma needValue (value : Option α) : Looks (need .badValue value) := by
  cases value with
  | none => exact ⟨FileJob.fail _, .fail trivial⟩
  | some value => exact pure value

lemma relativize (path : Path) : Looks (relativize path) := by
  refine ⟨FileJob.relativize path, fun w v err ran => ?_⟩
  rw [execute_relativize_eq] at ran
  cases relative : relativize? w.session.roots path <;> rw [relative] at ran
  · cases ran
    trivial
  · cases ran

lemma filterM {test : α -> Job Bool} (each : ∀ item, Looks (test item)) (items : List α) : Looks (items.filterM test) := by
  have kept : ∀ (items found : List α), Looks (List.filterAuxM test items found) := by
    intro items
    induction items with
    | nil => exact fun found => pure found
    | cons item rest ih =>
      intro found
      exact (each item).bind fun _ => ih _
  exact (kept items []).bind fun found => pure found.reverse

end Job.Looks

def Workspace.notScript (w : Workspace) (path : Path) : Bool :=
  pathOf w.directory / path ≠ pathOf w.directory / Path.ofString w.script

def Job.notScript (path : Path) : Job Bool := do
  return (<- get).notScript path

lemma Job.Looks.notScript (path : Path) : Looks (notScript path) := by
  refine ⟨.of_look (fun w => .ok (w.notScript path)) (fun _ => rfl) fun alike => ?_, .sure fun _ => ⟨_, rfl⟩⟩
  rw [Workspace.notScript, Workspace.notScript, alike.directory, alike.script]

lemma Choice.unless_script {σ : Type} (visit : σ -> Path -> Job σ) (state : σ) (found : Path) : (do
      let script := Path.ofString (<- get).script
      if (<- absolute found) = (<- absolute script) then return state
      visit state found) =
      (do if <- notScript found then visit state found else return state) := by
  funext w
  change (if pathOf w.directory / found = pathOf w.directory / Path.ofString w.script then
    (pure state : Job σ) else visit state found) w = (if w.notScript found = true then visit state found else pure state : Job σ) w
  split
  next isScript => rw [if_neg (by simp [Workspace.notScript, isScript])]
  next isScript => rw [if_pos (by simp [Workspace.notScript, isScript])]

/-! ## Judgements -/

structure Judgement where
  Holds : {α : Type} -> (before : Workspace -> Prop) -> Job α -> (after : α -> Workspace -> Prop) -> Prop
  pure : ∀ {α : Type} {value : α} {before : Workspace -> Prop} {after : α -> Workspace -> Prop},
    (∀ w, before w -> after value w) -> Holds before (Pure.pure value) after
  bind : ∀ {α β : Type} {before : Workspace -> Prop} {job : Job α}
    {middle : α -> Workspace -> Prop} {next : α -> Job β} {after : β -> Workspace -> Prop},
    Holds before job middle -> (∀ value, Holds (middle value) (next value) after) -> Holds before (job >>= next) after
  look : ∀ {α : Type} {before : Workspace -> Prop} {job : Job α}, job.Looks -> Holds before job fun _ => before

namespace Judgement

variable {α σ : Type} {J : Judgement} {I : σ -> Workspace -> Prop}

lemma foldlM {step : σ -> α -> Job σ} (each : ∀ state item, J.Holds (I state) (step state item) I) (items : List α) (state : σ) :
    J.Holds (I state) (items.foldlM step state) I := by
  induction items generalizing state with
  | nil => exact J.pure fun _ => id
  | cons item rest ih =>
    exact J.bind (each state item) ih

lemma walk {visit : σ -> String -> List String -> List String -> Job σ} (each : ∀ state dir directories files,
      J.Holds (I state) (visit state dir directories files) I) (depth : Nat) (state : σ) (dir : String) :
    J.Holds (I state) (walk visit depth state dir) I := by
  induction depth generalizing state dir with
  | zero => exact J.pure fun _ => id
  | succ depth ih =>
    have listed : (Job.attempt (Job.list dir)).Looks :=
      ⟨(FileJob.list dir).attempt, .sure fun w => ⟨_, congrArg Prod.fst (execute_attempt _ w)⟩⟩
    refine J.bind (J.look listed) fun outcome => ?_
    cases outcome with
    | error err => exact J.pure fun _ => id
    | ok names =>
      refine J.bind (J.look (.filterM (fun _ => .isDirectory _) names)) fun directories => ?_
      refine J.bind (each _ _ _ _) fun after => foldlM (fun inner name => ?_) directories after
      refine J.bind (J.look ⟨isLink _, .sure fun _ => ⟨_, rfl⟩⟩) fun linked => ?_
      cases linked with
      | true => exact J.pure fun _ => id
      | false => exact ih inner _

section Searching

variable {visit : σ -> Path -> Job σ}

lemma foldDirectories (each : ∀ state path, J.Holds (I state) (visit state path) I)
    (depth : Nat) (state : σ) (dir : Path) : J.Holds (I state) (Glob.foldDirectories visit depth state dir) I := by
  induction depth generalizing state dir with
  | zero => exact J.pure fun _ => id
  | succ depth ih =>
    refine J.bind (each state dir) fun after => ?_
    refine J.bind (J.look ((Looks.list _).bind fun _ => .pure _)) fun inner => ?_
    refine J.bind (J.look (.filterM (fun path => ?_) inner)) fun found => foldlM ih found after
    exact (Looks.isDirectory _).bind fun _ =>
      Looks.bind ⟨isLink _, .sure fun _ => ⟨_, rfl⟩⟩ fun _ => .pure _

lemma foldSteps (directoriesOnly : Bool) (steps : List GlobStep)
    (each : ∀ state path, J.Holds (I state) (visit state path) I) (state : σ) (path : Path) :
    J.Holds (I state) (Glob.foldSteps directoriesOnly steps visit state path) I := by
  induction steps generalizing σ state path with
  | nil => exact each state path
  | cons step rest ih =>
    cases step with
    | exact name =>
      have onward : ∀ found : Bool, J.Holds (I state) (if found = true then
          Glob.foldSteps directoriesOnly rest visit state (path.child name)
        else Pure.pure state) I := by
        intro found
        cases found with
        | true => exact ih each state _
        | false => exact J.pure fun _ => id
      rw [Glob.foldSteps]
      split
      · exact J.bind (J.look ⟨exists? _, .sure fun _ => ⟨_, rfl⟩⟩) onward
      · exact J.bind (J.look (.isDirectory _)) onward
    | matching pattern =>
      refine J.bind (J.look (.list _)) fun names => ?_
      refine J.bind (J.look (.filterM (fun name => ?_) names)) fun wanted =>
        foldlM (fun inner name => ih each inner _) _ state
      split
      · exact .pure true
      · exact .isDirectory _
    | anywhere =>
      refine J.bind (J.look ⟨depthLimit, .sure fun _ => ⟨_, rfl⟩⟩) fun depth => ?_
      have once : ∀ (state : List Path × σ) found, J.Holds (I state.2) (if state.1.contains found = true then Pure.pure state
            else do return (found :: state.1, <- visit state.2 found)) fun state => I state.2 := by
        intro state found
        split
        · exact J.pure fun _ => id
        · exact J.bind (each state.2 found) fun _ => J.pure fun _ => id
      have inner : J.Holds (I state) (Glob.foldDirectories (Glob.foldSteps directoriesOnly rest _)
          depth ([], state) path) fun state => I state.2 :=
        foldDirectories (fun state found => ih once state found) depth ([], state) path
      exact J.bind inner fun state => J.pure fun _ => id

lemma fold (dir : Path) (pattern : String) (each : ∀ state path, J.Holds (I state) (visit state path) I) (state : σ) :
    J.Holds (I state) (Glob.fold dir pattern visit state) I := by
  refine J.bind (J.look ⟨ofExcept _, Glob.spares_parse pattern⟩) fun glob => ?_
  refine J.bind (J.look (.isDirectory _)) fun there => ?_
  cases there with
  | true => exact foldSteps _ _ each state dir
  | false => exact J.pure fun _ => id

lemma foldChoice (root : Path) (each : ∀ state path, J.Holds (I state) (visit state path) I) (state : σ)
    (choice : Choice) : J.Holds (I state) (choice.fold root visit state) I := by
  cases choice with
  | path path =>
    rw [Choice.fold]
    split
    · exact fold _ _ each state
    · exact fold _ _ each state
  | text pattern =>
    refine fold root pattern (fun inner found => ?_) state
    rw [Choice.unless_script]
    refine J.bind (J.look (.notScript found)) fun free => ?_
    cases free with
    | true => exact each inner found
    | false => exact J.pure fun _ => id

lemma foldSelection (selection : Selection) (root : Path)
    (each : ∀ state path, J.Holds (I state) (visit state path) I) (state : σ) :
    J.Holds (I state) (selection.fold root visit state) I :=
  foldlM (fun inner choice => foldChoice root each inner choice) _ state

end Searching
end Judgement

def Job.Looks.judgement : Judgement where
  Holds _ job _ := job.Looks
  pure _ := .pure _
  bind := .bind
  look looks := looks

def FileJob.judgement (writes : Bool) : Judgement where
  Holds _ job _ := FileJob writes job
  pure _ := .pure _
  bind := .bind
  look looks := looks.fileJob

/-! ## Moves -/

namespace Job.Looks

lemma isExcluded (skips : List Path) (dir file : Path) : Looks (Transfer.isExcluded skips dir file) := by
  refine judgement.foldlM (I := fun _ _ => True) (fun found exclude => ?_) skips false
  refine (relativize dir).bind fun seen => ?_
  split
  · exact pure true
  · refine (relativize file).bind fun fileSeen => ?_
    split
    · exact pure true
    · exact pure found

lemma exclusionsAt (skips : Selection) (src : Path) : Looks (Transfer.exclusionsAt skips src) := by
  rw [Transfer.exclusionsAt]
  split
  · exact pure []
  · refine bind (judgement.foldSelection (I := fun _ _ => True) skips src (fun found path => ?_) []) fun found => pure found.reverse
    exact (relativize path).bind fun relative => pure (relative :: found)

end Job.Looks

namespace Judgement

open Transfer

variable {J : Judgement} {I : Bool -> Workspace -> Prop} {merge : Option Merge}

structure Places (J : Judgement) (I : Bool -> Workspace -> Prop) (merge : Option Merge) : Prop where
  selected : ∀ (copied : Bool) (source target : Path), J.Holds (I copied) (do placeFile source target merge; return true) I
  below : ∀ (copied : Bool) (source folder target : Path), J.Holds (I copied) (do
    makeDirectories folder; placeFile source target merge; return true) I

variable (places : Places J I merge)
include places

lemma Places.copyNamed (src dest : Path) (skips : List Path) (dir : String) (copied : Bool) (name : String) :
    J.Holds (I copied) (copyNamed src dest skips merge dir copied name) I := by
  refine J.bind (J.look (.needValue _)) fun relative => ?_
  refine J.bind (J.look (.isExcluded skips _ _)) fun excluded => ?_
  cases excluded with
  | true => exact J.pure fun _ => id
  | false => exact places.below copied _ _ _

lemma Places.copyDirectory (src dest : Path) (skips : List Path) : J.Holds (I false) (copyDirectory src dest skips merge) I :=
  J.bind (J.look ⟨depthLimit, .sure fun _ => ⟨_, rfl⟩⟩) fun depth =>
    walk (fun copied dir _ files =>
      foldlM (places.copyNamed src dest skips dir) files copied) depth false _

lemma Places.copyOne (target : Path) (copied : Bool) (excluded : List Path) (src : Path) :
    J.Holds (I copied) (copyOne target merge copied excluded src) I := by
  refine J.bind (J.look (.isDirectory _)) fun there => ?_
  cases there with
  | true =>
    cases copied with
    | true => exact J.pure fun _ => id
    | false => exact places.copyDirectory src target excluded
  | false =>
    by_cases hit : excluded.contains src = true
    · simp only [hit]
      exact J.pure fun _ => id
    · simp only [hit]
      exact places.selected copied src target

lemma Places.moveOne (dest : Option Path) (state : Bool × Selection) (src : Path) :
    J.Holds (I state.1) (moveOne dest merge state src) fun state => I state.1 := by
  have onward : ∀ target, J.Holds (I state.1) (do
      let excluded <- exclusionsAt state.2 src
      let copied <- Transfer.copyOne target merge state.1 excluded src
      return (copied, Selection.ofPaths excluded)) fun state => I state.1 := fun target =>
    J.bind (J.look (.exclusionsAt state.2 src)) fun excluded =>
      J.bind (places.copyOne target state.1 excluded src) fun _ => J.pure fun _ => id
  cases dest with
  | some target => exact onward target
  | none => exact J.bind (J.look (.relativize src)) onward

end Judgement

namespace FileJob

variable {writes : Bool}

lemma exclusionsAt (skips : Selection) (src : Path) : FileJob writes (Transfer.exclusionsAt skips src) :=
  (Job.Looks.exclusionsAt skips src).fileJob

lemma places (merge : Option Merge) : (judgement true).Places (fun _ _ => True) merge where
  selected _ _ _ := (placeFile _ _ merge).bind fun _ => pure true
  below _ _ _ _ := (makeDirectories _ true).bind fun _ => (placeFile _ _ merge).bind fun _ => pure true

lemma moveOne (dest : Option Path) (merge : Option Merge) (state : Bool × Selection)
    (src : Path) : FileJob true (Transfer.moveOne dest merge state src) :=
  (places merge).moveOne dest state src

end FileJob
end Refinery
