import Refinery.Distribution.Shared
import Refinery.Generation.Build
import Refinery.Proofs.Provenance.Obsolete
import Refinery.Proofs.Workspace.Judgement

namespace Refinery

open Job Text Refinery.Tree FileJob

/-!
# Directories that are left

A generation enters the directory of the definitions, and a link is made in the directory of documents.  What
fails there is not followed by the way back.
-/

variable {α β γ : Type} {w v : Workspace}

/-- A job that leaves something about the working directory and the session as it was. -/
def Job.Retains (view : Place -> Session -> γ) (job : Job α) : Prop :=
  ∀ w, view (job.execute w).2.directory (job.execute w).2.session = view w.directory w.session

namespace Job.Retains

variable {view : Place -> Session -> γ} {job : Job α} {writes : Bool}

lemma of_fileJob (file : FileJob writes job) : Retains view job := by
  intro w
  rw [file.frame w]

lemma of_look (file : FileJob false job) : Retains view job :=
  of_fileJob file

lemma look {answer : Workspace -> Except Failure α} (runs : ∀ w, job.execute w = (answer w, w)) : Retains view job := by
  intro w
  rw [runs w]

lemma pure (value : α) : Retains view (Pure.pure value : Job α) := fun _ => rfl

lemma bind {next : α -> Job β} (first : Retains view job) (second : ∀ value, Retains view (next value)) :
    Retains view (job >>= next) := by
  intro w
  have here := first w
  rw [execute_bind]
  rcases ran : job.execute w with ⟨outcome, after⟩
  rw [ran] at here
  cases outcome with
  | error err => exact here
  | ok value => exact (second value after).trans here

lemma note {change : Session -> Session} (same : ∀ place session, view place (change session) = view place session) :
    Retains view (note change) := fun w => same w.directory w.session

lemma run (words : List String) (directory : Option String) (stdin : Option (List String)) :
    Retains view (run words directory stdin) := by
  intro w
  rw [execute_run]
  split_ifs <;> rfl

lemma runChecked (words : List String) (directory : Option String) : Retains view (runChecked words directory) := by
  refine (run words directory none).bind fun completed => ?_
  split_ifs
  · exact .of_look (FileJob.fail _)
  · exact pure _

end Job.Retains

/-! ## Entering and coming back -/

/-- A path leads back to a directory. -/
def Workspace.Returns (w : Workspace) (place : Place) : Prop :=
  w.placeOf (pathOf place).toString true = .ok place /\ w.tree.get? place = some .directory

lemma Job.execute_enter (path : String) (w : Workspace) :
    (∃ place, w.placeOf path true = .ok place /\ w.tree.get? place = some .directory /\
      (enter path).execute w = (.ok (), { w with directory := place })) \/
    (∀ place, w.placeOf path true = .ok place -> w.tree.get? place ≠ some .directory) /\
      ∃ err, (enter path).execute w = (.error err, w) := by
  rw [enter, execute_bind, execute_placeOf]
  cases located : w.placeOf path true with
  | error err => exact .inr ⟨by simp, err, rfl⟩
  | ok place =>
    simp only [execute_bind, execute_get]
    cases found : w.tree.get? place with
    | none => exact .inr ⟨by simp [found], _, rfl⟩
    | some node =>
      cases node with
      | directory => exact .inl ⟨place, rfl, found, rfl⟩
      | file => exact .inr ⟨by simp [found], _, rfl⟩
      | link => exact .inr ⟨by simp [found], _, rfl⟩

lemma Job.of_enter_error {path : String} {err : Failure} (refused : (enter path).execute w = (.error err, v)) : v = w := by
  rcases execute_enter path w with ⟨place, -, -, ran⟩ | ⟨-, other, ran⟩ <;> rw [refused] at ran <;> cases ran
  rfl

lemma Job.Retains.enter (path : String) : Retains (fun _ session => session) (enter path) := by
  intro w
  rcases execute_enter path w with ⟨place, -, -, ran⟩ | ⟨-, err, ran⟩ <;> rw [ran]

lemma directory_back {inside : Job Unit} {rest : Job α} {place : Place}
    (stays : Retains (fun place session => (place, session)) inside)
    (after : Retains (fun place _ => place) rest) (away : v.directory ≠ place) :
    ((do inside; enter (pathOf place); rest).execute v).2.directory = place ↔
      ∃ last, inside.execute v = (.ok (), last) /\ last.Returns place := by
  have still := congrArg Prod.fst (stays v)
  rcases ran : inside.execute v with ⟨outcome, last⟩
  rw [ran] at still
  cases outcome with
  | error err =>
    rw [bind_error ran]
    refine iff_of_false (fun same => away (still.symm.trans same)) ?_
    rintro ⟨_, same, -⟩
    cases same
  | ok value =>
    rw [bind_ok ran]
    simp only [Prod.mk.injEq, true_and, exists_eq_left']
    rcases execute_enter (pathOf place) last with ⟨found, located, dir, entered⟩ | ⟨refused, err, entered⟩
    · have arrived : (rest.execute { last with directory := found }).2.directory = found := after _
      rw [bind_ok entered, arrived]
      constructor
      · rintro rfl
        exact ⟨located, dir⟩
      · rintro ⟨back, -⟩
        rw [located] at back
        exact Except.ok.inj back
    · rw [bind_error entered]
      exact iff_of_false (fun same => away (still.symm.trans same)) fun back => refused place back.1 back.2

/-! ## Plans of a build -/

/-- A job that stays where it is and adds no destination. -/
def Job.Plans (job : Job α) : Prop :=
  Retains (fun place session => (place, session.record.destinations)) job

namespace Job.Plans

lemma chosen? (name : String) : Plans (chosen? name) := fun _ => rfl

lemma preclones : Plans Provenance.preclones := by
  refine Retains.bind (.look execute_session) fun session => ?_
  cases session.preclones with
  | some known => exact .pure known
  | none =>
    have noted (found : Preclones) : Plans (do note fun s => { s with preclones := some found }; return found) :=
      Retains.bind (.note fun _ _ => rfl) fun _ => .pure found
    refine Retains.bind (chosen? _) fun file => ?_
    cases file with
    | none => exact .bind (.pure _) noted
    | some path =>
      exact .bind (.of_look (FileJob.readText path)) fun text =>
        .bind (.of_look (FileJob.ofExcept _)) noted

lemma defaultBranch? (directory : String) : Plans (Repository.defaultBranch? directory) :=
  Retains.bind (.runChecked _ _) fun _ => .pure _

lemma refresh (url : String) (directory : Path) : Plans (Repository.refresh url directory) := by
  refine Retains.bind (.of_look (FileJob.exists? directory)) fun there => ?_
  cases there with
  | true =>
    refine Retains.bind (defaultBranch? _) fun branch => ?_
    exact .bind (.runChecked _ _) fun _ => .bind (.runChecked _ _) fun _ => .pure branch
  | false => exact .bind (.runChecked _ _) fun _ => .pure none

lemma prepare (url : String) : Plans (Repository.prepare url none none false) := by
  refine Retains.bind (.bind preclones fun _ => .pure _) fun known => ?_
  cases Option.filter (· ≠ "") known with
  | some preclone => exact .pure _
  | none =>
    have cache : Plans Repository.cacheDirectory := by
      refine Retains.bind (.bind (fun _ => rfl) fun home => .pure _) fun home => ?_
      exact .bind (.of_fileJob (FileJob.makeDirectories _ _)) fun _ => .pure _
    refine Retains.bind cache fun parent => ?_
    refine Retains.bind (.of_look (FileJob.exists? _)) fun there => ?_
    exact Retains.bind (refresh url _) fun branch => .pure _

lemma noteSource (url : String) (directory : Path) : Plans (Repository.noteSource url directory) := by
  refine Retains.bind (.bind (.runChecked _ _) fun answer => ?_) fun latest => .note fun _ _ => rfl
  cases cut? "\n" answer.output with
  | none => exact .of_look (FileJob.fail _)
  | some parts => exact .pure _

lemma clone (url : String) : Plans (Repository.clone url) := by
  refine Retains.bind (prepare url) fun prepared => ?_
  have noted : Plans (do Roots.add prepared.1; Repository.noteSource url prepared.1; return prepared.1) :=
    Retains.bind (.note fun _ _ => rfl) fun _ => .bind (noteSource url _) fun _ => .pure _
  dsimp only
  split
  · exact .bind (.runChecked _ _) fun _ => noted
  · exact noted

lemma find (definitions : Generation.Definitions) (generator : Nat) : Plans (Generation.find definitions generator) := by
  refine Retains.bind (.look execute_session) fun session => ?_
  cases List.lookup (generator, definitions.repository) session.definitions with
  | some path => exact .pure path
  | none =>
    refine Retains.bind ?_ fun path => .bind (.note fun _ _ => rfl) fun _ => .pure path
    refine Retains.bind (chosen? _) fun setting => ?_
    cases setting with
    | none => exact .bind (.bind (chosen? _) fun _ => .pure _) fun url => clone url
    | some path =>
      change Plans (expandHome _)
      rw [expandHome]
      split <;> exact fun _ => rfl

lemma outputDirectory (given : Option String) : Plans (Generation.outputDirectory given) := by
  have resolve (path : Path) : Plans (resolve path) := fun _ => rfl
  cases given with
  | some path => exact resolve _
  | none =>
    refine Retains.bind (.bind (.look execute_session) fun session => ?_) fun path => resolve _
    exact .bind (.note fun _ _ => rfl) fun _ => .bind (fun _ => rfl) fun _ => .pure _

lemma requireProtos (directory : Path) : Plans (Generation.requireProtos directory) := by
  have listing : FileJob true (Glob.list directory "*.proto") :=
    ((judgement true).fold (I := fun _ _ => True) directory "*.proto"
      (fun _ _ => pure _) []).bind fun _ => pure _
  have checked : Plans (do
      if (<- Glob.list directory "*.proto").isEmpty then complain (.emptyProtoFolder directory) : Job Unit) := by
    refine Retains.bind (.of_fileJob listing) fun found => ?_
    split_ifs
    · exact fun _ => rfl
    · exact .pure ()
  refine Retains.bind (.of_look (FileJob.exists? directory)) fun there => ?_
  cases there with
  | true => exact checked
  | false => exact .bind (fun _ => rfl) fun _ => checked

end Job.Plans

namespace Generation

/-- What is known before the directory is entered. -/
structure BuildPlan where
  request : BuildRequest
  source : String
  root : Path
  protos : Path
  target : String
  output : Path

namespace BuildPlan

variable (plan : BuildPlan)

/-- What is done in the directory of the definitions. -/
def inside : Job Unit := do
  buildTarget plan.request plan.target plan.output
  if plan.request.withProtos then copyProtos plan.protos (plan.request.protoFolder plan.output)

def client : ClientDestination where
  source := plan.source
  apiName := plan.request.service
  apiVersion := plan.request.version
  language := plan.request.language
  generator := "bazel"

def build : Job Unit := do
  let before <- workingDirectory
  enter plan.root
  plan.inside
  enter before
  requireOutput plan.output

lemma retains_inside : Retains (fun place session => (place, session)) plan.inside := by
  have copies : FileJob true (copyProtos plan.protos (plan.request.protoFolder plan.output)) :=
    (FileJob.makeDirectories _ _).bind fun _ => (FileJob.judgement true).fold (I := fun _ _ => True) _ _
      (fun _ _ => copyContent _ _) ()
  have builds : Retains (fun place session => (place, session)) (do
      let _ <- runChecked ["bazel", "--version"]
      let _ <- runChecked ["bazel", "--max_idle_secs=240", "build", plan.target]
      let _ <- runChecked ["tar", "-C", plan.output, s!"--strip-components={plan.request.strip}", "-xzf",
        "bazel-bin/" ++ replace ":" "/" (drop 2 plan.target) ++ ".tar.gz"] : Job Unit) :=
    .bind (.runChecked _ _) fun _ => .bind (.runChecked _ _) fun _ => .bind (.runChecked _ _) fun _ => .pure ()
  refine Retains.bind ?_ fun _ => ?_
  · rw [buildTarget]
    split_ifs
    · exact .bind (.runChecked _ _) fun _ => builds
    · exact builds
  · split_ifs
    · exact .of_fileJob copies
    · exact .pure ()

lemma retains_requireOutput {view : Place -> Session -> γ} (output : Path) : Retains view (requireOutput output) := by
  refine Retains.bind (.of_look (list _)) fun found => ?_
  split_ifs
  · exact fun _ => rfl
  · exact .pure ()

end BuildPlan

def planBuild (generator : Nat) (given : BuildRequest) : Job BuildPlan := do
  let request := { given with
    protoPath := given.protoPath.filter (· ≠ ""), target := given.target.filter (· ≠ "")
    output := given.output.filter (· ≠ ""), protoOutput := given.protoOutput.filter (· ≠ "") }
  let (definitions, sourceName) := request.definitions
  let root <- find definitions generator
  let protos <- if request.target.isNone || request.withProtos then Job.ofExcept request.protos
    else pure .here
  let target <- match request.target with
    | some target => pure target
    | none => do
      let target <- Job.ofExcept (request.usualTarget protos)
      requireProtos (root / protos)
      pure target
  let output <- outputDirectory request.output
  return ⟨request, sourceName, root, protos, target, output⟩

lemma generateByBuild_eq (generator : Nat) (given : BuildRequest) : generateByBuild generator given =
    planBuild generator given >>= fun plan => plan.build >>= fun _ => noteClient plan.client plan.output := by
  unfold generateByBuild planBuild BuildPlan.build BuildPlan.inside
  cases protos : given.withProtos <;> cases target : Option.filter (· ≠ "") given.target <;>
    simp only [bind_assoc, pure_bind, Option.isNone_none, Option.isNone_some, Bool.or_true, Bool.or_false,
      Bool.false_eq_true, if_true, if_false] <;> rfl

lemma plans_planBuild (generator : Nat) (given : BuildRequest) : Plans (planBuild generator given) := by
  have decided {δ : Type} (outcome : Except Failure δ) : Plans (Job.ofExcept outcome) :=
    .of_look (ofExcept outcome)
  unfold planBuild
  simp only [pure_bind]
  refine Retains.bind (Plans.find _ _) fun root => ?_
  have last (output : Option String) {result : Path -> BuildPlan} :
      Plans (do return result (<- outputDirectory output)) :=
    .bind (Plans.outputDirectory output) fun _ => .pure _
  split_ifs
  · refine Retains.bind (decided _) fun protos => ?_
    split
    · exact last _
    · exact .bind (decided _) fun _ => .bind (Plans.requireProtos _) fun _ => last _
  · split
    · exact last _
    · exact .bind (decided _) fun _ => .bind (Plans.requireProtos _) fun _ => last _

lemma session_of_failed {plan : BuildPlan} {err : Failure}
    (failed : ((plan.build >>= fun _ => noteClient plan.client plan.output).execute w).1 = .error err) :
    ((plan.build >>= fun _ => noteClient plan.client plan.output).execute w).2.session = w.session := by
  have builds : Retains (fun _ session => session) plan.build := by
    refine Retains.bind (.look execute_workingDirectory) fun before => .bind (.enter _) fun _ => ?_
    have inside : Retains (fun _ session => session) plan.inside := fun w =>
      congrArg Prod.snd (plan.retains_inside w)
    exact inside.bind fun _ => .bind (.enter _) fun _ => BuildPlan.retains_requireOutput _
  have kept := builds w
  rcases ran : plan.build.execute w with ⟨outcome, after⟩
  rw [ran] at kept
  cases outcome with
  | error other =>
    rwa [bind_error ran]
  | ok value =>
    rw [bind_ok ran] at failed
    cases failed

end Generation

namespace Distribution

/-- What is done in the directory of documents. -/
def linkHere (name : String) : Job Unit := do
  if <- exists? ("../" ++ name) then
    if !(<- exists? (Path.ofString name)) then
      makeLink (Path.ofString ("../" ++ name)) (Path.ofString name)

lemma linkDocument_eq (package name : String) : linkDocument package name = (do
    let back := (<- get).directory
    enter (package ++ "/docs")
    linkHere name
    modify fun w => { w with directory := back }) := by
  unfold linkDocument linkHere
  simp only [bind_assoc]
  refine bind_congr fun _ => bind_congr fun _ => bind_congr fun there => ?_
  cases there with
  | false => rfl
  | true =>
    simp only [if_true, bind_assoc]
    refine bind_congr fun other => ?_
    cases other <;> rfl

lemma retains_linkHere (name : String) : Retains (fun place _ => place) (linkHere name) := by
  have exists? (path : String) : Retains (fun place _ => place) (exists? path) :=
    .of_look (exists? path)
  refine (exists? _).bind fun there => ?_
  split_ifs
  · refine (exists? _).bind fun other => ?_
    split_ifs
    · refine .bind (.of_look (placeOf _ false)) fun place => ?_
      intro w
      rw [execute_bind, execute_get]
      dsimp only
      split_ifs <;> rfl
    · exact .pure ()
  · exact .pure ()

end Distribution

open Generation Refinery.Distribution

/-- A build notes nothing if it fails, and is back in its directory only if nothing failed elsewhere and the way back
is there; who made a link is back only if that did not fail. -/
theorem directory_restored_iff (generator : Nat) (request : BuildRequest) (package name : String) (w : Workspace) :
    (((planBuild generator request).execute w).2.directory = w.directory /\
      ((planBuild generator request).execute w).2.session.record.destinations = w.session.record.destinations /\
      (∀ err u, (planBuild generator request).execute w = (.error err, u) ->
        (generateByBuild generator request).execute w = (.error err, u)) /\
      ∀ plan u, (planBuild generator request).execute w = (.ok plan, u) ->
        (∀ err v, (generateByBuild generator request).execute w = (.error err, v) -> v.session = u.session) /\
        (∀ err v, (enter plan.root).execute u = (.error err, v) ->
          ((generateByBuild generator request).execute w).2.directory = w.directory) /\
        ∀ v, (enter plan.root).execute u = (.ok (), v) -> v.directory ≠ w.directory ->
          (((generateByBuild generator request).execute w).2.directory = w.directory ↔
            ∃ last, plan.inside.execute v = (.ok (), last) /\ last.Returns w.directory)) /\
    (∀ err v, (enter (package ++ "/docs")).execute w = (.error err, v) ->
      ((linkDocument package name).execute w).2.directory = w.directory) /\
    ∀ v, (enter (package ++ "/docs")).execute w = (.ok (), v) -> v.directory ≠ w.directory ->
      (((linkDocument package name).execute w).2.directory = w.directory ↔ ((linkHere name).execute v).1 = .ok ()) := by
  have planned := plans_planBuild generator request w
  rw [Prod.mk.injEq] at planned
  rw [generateByBuild_eq]
  refine ⟨⟨planned.1, planned.2, fun err u ran => bind_error ran, fun plan u ran => ?_⟩, ?_, ?_⟩
  · have here : u.directory = w.directory := by
      have same := planned.1
      rwa [ran] at same
    have opened : (plan.build >>= fun _ => noteClient plan.client plan.output).execute u =
        (enter plan.root >>= fun _ => plan.inside >>= fun _ => enter (pathOf u.directory) >>= fun _ =>
          requireOutput plan.output >>= fun _ => noteClient plan.client plan.output).execute u := by
      rw [BuildPlan.build]
      simp only [bind_assoc]
      exact bind_ok (execute_workingDirectory u)
    rw [bind_ok ran]
    refine ⟨fun err v failed => ?_, fun err v refused => ?_, fun v entered away => ?_⟩
    · have same := session_of_failed (congrArg Prod.fst failed)
      rwa [failed] at same
    · rw [opened, bind_error refused, of_enter_error refused, here]
    · rw [opened, bind_ok entered, here]
      refine directory_back plan.retains_inside ?_ away
      exact (BuildPlan.retains_requireOutput _).bind fun _ =>
        .bind (fun _ => rfl) fun _ => .bind (fun _ => rfl) fun _ => .pure _
  · intro err v refused
    rw [linkDocument_eq, bind_ok (execute_get w), bind_error refused, of_enter_error refused]
  · intro v entered away
    have still := retains_linkHere name v
    rw [linkDocument_eq, bind_ok (execute_get w), bind_ok entered]
    rcases ran : (linkHere name).execute v with ⟨outcome, last⟩
    rw [ran] at still
    cases outcome with
    | error err =>
      rw [bind_error ran]
      exact iff_of_false (fun same => away (still.symm.trans same)) (by simp)
    | ok value =>
      rw [bind_ok ran]
      exact iff_of_true rfl rfl

/-- A package whose document is a link to nothing. -/
def linkedPackage : Workspace where
  tree := ⟨[(["p"], .directory), (["p", "README.rst"], .file { content := .empty }), (["p", "docs"], .directory),
    (["p", "docs", "README.rst"], .link "none")]⟩
  directory := []

/-- Definitions for which the build fails. -/
def failingBuild : Workspace where
  tree := ⟨[(["a"], .directory)]⟩
  directory := []
  settings := [("SYNTHTOOL_GOOGLEAPIS", "/a")]
  rules := [{ start := "bazel --version", status := 1 }]

theorem directories_left : ((linkDocument "p" "README.rst").execute linkedPackage).2.directory = ["p", "docs"] /\
    ((generateByBuild 0 { service := "s", version := "v1", language := "go", target := some "//a:b" }).execute
      failingBuild).2.directory = ["a"] := by
  decide +kernel

end Refinery
