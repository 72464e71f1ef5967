import Refinery.Distribution.Postprocess
import Refinery.Proofs.Workspace.Rewriting

namespace Refinery

open List

/-!
# What is left out of sample projects

A project is rendered with what was left out before the call, by the projects before it and by itself.  So it
gets the files that it would get alone exactly if nothing of that is new to it.
-/

namespace Glob

variable {σ τ : Type} {visit : σ -> Path -> Job σ} {other : τ -> Path -> Job τ} {view : σ -> τ}

/-! ## Searches with less in their state -/

lemma map_foldlM {α : Type} {step : σ -> α -> Job σ} {next : τ -> α -> Job τ}
    (each : ∀ state item, view <$> step state item = next (view state) item) (items : List α)
    (state : σ) : view <$> items.foldlM step state = items.foldlM next (view state) := by
  induction items generalizing state with
  | nil => exact map_pure view state
  | cons item rest ih =>
    rw [foldlM_cons, foldlM_cons, map_bind, <- each, bind_map_left]
    exact bind_congr fun after => ih after

lemma map_foldDirectories (each : ∀ state path, view <$> visit state path = other (view state) path)
    (depth : Nat) (state : σ) (dir : Path) : view <$> foldDirectories visit depth state dir =
      foldDirectories other depth (view state) dir := by
  induction depth generalizing state dir with
  | zero => exact map_pure view state
  | succ depth ih =>
    rw [foldDirectories, foldDirectories, map_bind, <- each, bind_map_left]
    refine bind_congr fun after => ?_
    simp only [map_bind]
    exact bind_congr fun inner => bind_congr fun found => map_foldlM ih found after

lemma map_once (each : ∀ state path, view <$> visit state path = other (view state) path) (known : List Path × σ) (path : Path) :
    Prod.map id view <$> once visit known path = once other (Prod.map id view known) path := by
  rcases known with ⟨seen, state⟩
  simp only [once, Prod.map, id]
  by_cases passed : seen.contains path = true
  · rw [if_pos passed, if_pos passed, map_pure]
    rfl
  · rw [if_neg passed, if_neg passed, map_bind, <- each, bind_map_left]
    exact bind_congr fun after => map_pure _ _

lemma map_foldSteps (directoriesOnly : Bool) (steps : List GlobStep)
    (each : ∀ state path, view <$> visit state path = other (view state) path) (state : σ) (path : Path) :
    view <$> foldSteps directoriesOnly steps visit state path = foldSteps directoriesOnly steps other (view state) path := by
  induction steps generalizing σ τ state path with
  | nil => exact each state path
  | cons step rest ih =>
    cases step with
    | exact name =>
      have onward (found : Bool) :
          view <$> (if found then foldSteps directoriesOnly rest visit state (path.child name) else pure state) =
          if found then foldSteps directoriesOnly rest other (view state) (path.child name)
            else pure (view state) := by
        cases found with
        | true => exact ih each state _
        | false => exact map_pure view state
      rw [foldSteps, foldSteps]
      by_cases last : (rest.isEmpty && !directoriesOnly) = true
      · rw [if_pos last, if_pos last, map_bind]
        exact bind_congr onward
      · rw [if_neg last, if_neg last, map_bind]
        exact bind_congr onward
    | matching pattern =>
      rw [foldSteps, foldSteps, map_bind]
      refine bind_congr fun names => ?_
      rw [map_bind]
      exact bind_congr fun wanted =>  map_foldlM (fun inner (name : String) => ih each inner (path.child name)) _ state
    | anywhere =>
      rw [foldSteps, foldSteps, map_bind]
      refine bind_congr fun depth => ?_
      have searched := map_foldDirectories (ih (map_once each)) depth ([], state) path
      change view <$> (foldDirectories (foldSteps directoriesOnly rest (once visit)) depth ([], state)
          path >>= fun known => pure known.2) =
        foldDirectories (foldSteps directoriesOnly rest (once other)) depth ([], view state) path >>= fun known => pure known.2
      rw [map_bind, <- show Prod.map id view ([], state) = ([], view state) from rfl, <- searched, bind_map_left]
      exact bind_congr fun known => map_pure view known.2

lemma map_fold (dir : Path) (pattern : String)
    (each : ∀ state path, view <$> visit state path = other (view state) path) (state : σ) :
    view <$> fold dir pattern visit state = fold dir pattern other (view state) := by
  rw [fold, fold, map_bind]
  refine bind_congr fun glob => ?_
  rw [map_bind]
  refine bind_congr fun there => ?_
  cases there with
  | true => exact map_foldSteps _ _ each state dir
  | false => exact map_pure view state

end Glob

namespace Distribution

/-! ## The list of exclusions -/

/-- What is left out after some projects, noted with whether they have a configuration. -/
def exclusions (kept : List String) (visited : List (Path × Bool)) : List String :=
  kept ++ ["README.md", "README.rst"] ++ visited.flatMap fun project => leftOut project.2

/-- Visit a project and note it. -/
def noteProject (templates : Template.Folder) (kept : List String) (visited : List (Path × Bool))
    (requirements : Path) : Job (List (Path × Bool)) := do
  let project := requirements.parent
  let visited := visited ++ [(project, <- Job.exists? (project / "noxfile_config.py"))]
  keepExclusions (exclusions kept visited)
  renderProject templates (exclusions kept visited) project
  return visited

lemma map_noteProject (templates : Template.Folder) (kept : List String)
    (visited : List (Path × Bool)) (requirements : Path) : exclusions kept <$> noteProject templates kept visited requirements =
      visitProject templates (exclusions kept visited) requirements := by
  rw [noteProject, visitProject]
  simp only [map_bind, map_pure]
  refine bind_congr fun configured => ?_
  simp [exclusions]

lemma mem_exclusions {kept : List String} {visited : List (Path × Bool)} {name : String} :
    name ∈ exclusions kept visited ↔ name ∈ kept \/ name = "README.md" \/ name = "README.rst" \/ ∃ project, project ∈ visited /\
        (name = "**/*tmpl*" \/ project.2 = true /\ name = "**/noxfile_config.py") := by
  simp only [exclusions, mem_append, mem_flatMap]
  have added (configured : Bool) : name ∈ leftOut configured ↔
      name = "**/*tmpl*" \/ configured = true /\ name = "**/noxfile_config.py" := by
    cases configured <;> simp [leftOut]
  simp [added, or_assoc]

/-- Every project is rendered with what was left out before it and by itself.  That is what is left out of the
project alone exactly if nothing else was left out before the call, and the project has a configuration or no
project before it has one. -/
theorem projects_rendered (root : Path) :
    (renderProjects root = do
      let kept := (<- Job.session).sampleExclusions
      keepExclusions (exclusions kept [])
      let _ <- Glob.fold root "**/requirements.txt" (noteProject (<- sampleTemplates) kept) []) /\
    ∀ kept visited project configured,
      (∀ name, name ∈ exclusions kept (visited ++ [(project, configured)]) ↔
          name ∈ exclusions [] [(project, configured)]) ↔
        (∀ name, name ∈ kept -> name ∈ exclusions [] [(project, configured)]) /\
          (configured = true \/ ∀ earlier, earlier ∈ visited -> earlier.2 = false) := by
  constructor
  · rw [renderProjects]
    refine bind_congr fun session => ?_
    have start : session.sampleExclusions ++ ["README.md", "README.rst"] =
        exclusions session.sampleExclusions [] := (List.append_nil _).symm
    dsimp only
    rw [start]
    refine bind_congr fun _ => bind_congr fun templates => ?_
    rw [<- Glob.map_fold root _ (map_noteProject templates session.sampleExclusions), bind_map_left]
  · intro kept visited project configured
    constructor
    · intro same
      refine ⟨fun name member => (same name).mp (mem_exclusions.mpr (.inl member)), ?_⟩
      by_cases own : configured = true
      · exact .inl own
      · refine .inr fun earlier member => Bool.eq_false_iff.mpr fun hasOwn => own ?_
        have left := (same "**/noxfile_config.py").mp (mem_exclusions.mpr (.inr (.inr (.inr
          ⟨earlier, List.mem_append_left _ member, .inr ⟨hasOwn, rfl⟩⟩))))
        simpa [mem_exclusions] using left
    · rintro ⟨known, alone⟩ name
      constructor
      · intro left
        rcases mem_exclusions.mp left with before | text | page | ⟨other, member, part | ⟨own, rfl⟩⟩
        · exact known name before
        · exact mem_exclusions.mpr (.inr (.inl text))
        · exact mem_exclusions.mpr (.inr (.inr (.inl page)))
        · simp [mem_exclusions, part]
        · have hasOwn : configured = true := by
            rcases List.mem_append.mp member with earlier | here
            · rcases alone with hasOwn | none
              · exact hasOwn
              · exact absurd own (by simp [none other earlier])
            · rw [List.mem_singleton.mp here] at own
              exact own
          simp [mem_exclusions, hasOwn]
      · intro left
        rcases mem_exclusions.mp left with before | text | page | ⟨other, member, added⟩
        · cases before
        · exact mem_exclusions.mpr (.inr (.inl text))
        · exact mem_exclusions.mpr (.inr (.inr (.inl page)))
        · exact mem_exclusions.mpr (.inr (.inr (.inr ⟨other, List.mem_append_right visited member, added⟩)))

def sampleProjects (projects : List (String × Bool)) : Workspace where
  tree := ⟨[(["w"], .directory), (["t"], .directory), (["p"], .directory), (["p", "python_samples"], .directory),
    (["p", "python_samples", "noxfile_config.py"], .file { content := "T".toUTF8 })] ++
    projects.flatMap fun (name, configured) => [(["w", name], .directory),
      (["w", name, "requirements.txt"], .file { content := .empty })] ++
      if configured then [(["w", name, "noxfile_config.py"], .file { content := .empty })] else []⟩
  directory := ["w"]
  settings := [("SYNTHTOOL_TEMPLATES", "/p")]

/-- A project gets the configuration alone, but not after one with its own. -/
theorem configuration_missing : ((renderProjects .here).execute (sampleProjects [("b", false)])).2.textAt
        ["w", "b", "noxfile_config.py"] = some "T" /\
      ((renderProjects .here).execute (sampleProjects [("a", true), ("b", false)])).2.textAt
        ["w", "b", "noxfile_config.py"] = none := by
  decide +kernel

end Distribution
end Refinery
