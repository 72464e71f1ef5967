import Refinery.Proofs.Staging.OwnRoot
import Refinery.Proofs.Transfer.Exactness
import Refinery.Proofs.Workspace.Removal

namespace Refinery.Staging

open List Job Workspace Refinery.Tree

open Transfer (Written Prepared Reaches)

/-!
# Versions laid over a repository

The folders of staged versions are copied over the repository one after the other.  `Laid` says what one more
version extends: the staging directory is as it was, every node comes from the repository or a version, and
every file is that of the last version that has it.
-/

/-- The folder of a version. -/
def folder (version : String) : Path :=
  ⟨.relative, ["owl-bot-staging", version]⟩

/-- Where the staging directory of a workspace is. -/
def base (w : Workspace) : Place :=
  w.directory ++ ["owl-bot-staging"]

/-- Where the folder of a version is. -/
def home (w : Workspace) (version : String) : Place :=
  w.directory ++ ["owl-bot-staging", version]

def Has (w : Workspace) (version : String) : Prop :=
  w.tree.get? (home w version) = some .directory

def Layer (w : Workspace) (place : Place) : Prop :=
  place = w.directory \/ ∃ version, Has w version /\ place = home w version

structure NamesFile (w : Workspace) (exclude : Path) : Prop where
  literal : exclude.Literal
  relative : exclude.anchor = .relative
  plain : ∀ name ∈ exclude.names, IsPlain name
  file : ∀ version, w.tree.get? (home w version ++ exclude.names) ≠ some .directory

/-- A staging directory whose versions can be laid over the repository. -/
structure Staged (w : Workspace) (excludes : List Path) : Prop where
  sound : w.Sound
  standing : w.tree.get? (base w) = some .directory
  linkFree : ∀ rest target, w.tree.get? (base w ++ rest) ≠ some (.link target)
  /-- No version has a special character in its name. -/
  tame : ∀ version, Has w version -> NamePattern.isWild version = false
  /-- No version has a file below a staging directory of its own. -/
  outside : ∀ version name rest file, w.tree.get? (home w version ++ "owl-bot-staging" :: name :: rest) ≠ some (.file file)
  /-- No relative path is a file in one place and a directory in another. -/
  agree : ∀ first second rest file, Layer w first -> Layer w second ->
    w.tree.get? (first ++ rest) = some (.file file) -> w.tree.get? (second ++ rest) ≠ some .directory
  /-- Where a file of a version comes to, and on the way there, no link is. -/
  free : ∀ version rest file, w.tree.get? (home w version ++ rest) = some (.file file) ->
    Path.mk .relative rest ∉ excludes -> ∀ start, start <+: rest ->
      ∀ target, w.tree.get? (w.directory ++ start) ≠ some (.link target)
  excluded : ∀ exclude ∈ excludes, NamesFile w exclude
  /-- Nothing strictly below the folder of a version is tracked. -/
  noneBelow : ∀ root ∈ w.session.roots, ∀ version, root.isBelow (folder version) = true -> root = folder version
  /-- The script that is running is not staged. -/
  script : ∀ version rest, w.notScript ⟨.relative, "owl-bot-staging" :: version :: rest⟩ = true

def topmost (w : Workspace) (excludes : List Path) (versions : List String) (rest : List String)
    (previous : Option FileNode) : Option FileNode :=
  if Path.mk .relative rest ∈ excludes then previous
  else (versions.reverse.findSome? fun version => w.tree.file? (home w version ++ rest)).or previous

/-- Some versions were laid over the repository, which had the `previous` files. -/
structure Laid (w : Workspace) (excludes : List Path) (previous : List String -> Option FileNode)
    (versions : List String) (now : Workspace) : Prop where
  sound : now.Sound
  directory : now.directory = w.directory
  script : now.script = w.script
  staged : ∀ rest, now.tree.get? (base w ++ rest) = w.tree.get? (base w ++ rest)
  layers : ∀ rest node, now.tree.get? (w.directory ++ rest) = some node ->
    ∃ place, Layer w place /\ w.tree.get? (place ++ rest) = some node
  files : ∀ rest, rest.head? ≠ some "owl-bot-staging" ->
    now.tree.file? (w.directory ++ rest) = topmost w excludes versions rest (previous rest)

variable {w now : Workspace} {skips found : List Path} {previous : List String -> Option FileNode}
  {versions rest : List String} {ver : String} {file : FileNode}

lemma usual_eq : usual = Path.here.child "owl-bot-staging" := by
  decide

lemma locate_usual (sound : w.Sound) (follow : Bool) (noLink : ∀ target, w.tree.get? (base w) ≠ some (.link target)) :
    w.tree.locate w.directory usual follow = .ok (base w) := by
  rw [usual_eq]
  exact (LeadsTo.here sound).locate_child sound (by decide) follow noLink

lemma leads_usual (sound : w.Sound) (standing : w.tree.get? (base w) = some .directory) : LeadsTo w usual (base w) :=
  ⟨by rw [usual_eq]; decide, locate_usual sound true (by rw [standing]; simp), standing⟩

lemma execute_removeUsual (sound : w.Sound) (standing : w.tree.get? (base w) = some .directory) :
    (removeTree usual).execute w = (.ok (), { w with tree := w.tree.prune (base w) }) :=
  execute_removeTree (placeOf_of_locate (leads_usual sound standing).proper
    (locate_usual sound false (by rw [standing]; simp))) standing

lemma home_eq (w : Workspace) (ver : String) : home w ver = base w ++ [ver] := by
  rw [home, base, append_assoc]
  rfl

lemma home_append (w : Workspace) (ver : String) (rest : List String) : home w ver ++ rest = base w ++ ver :: rest := by
  rw [home_eq, append_assoc]
  rfl

lemma topmost_concat (w : Workspace) (skips : List Path) (versions : List String)
    (ver : String) (rest : List String) (previous : Option FileNode) : topmost w skips (versions ++ [ver]) rest previous =
      if Path.mk .relative rest ∈ skips then topmost w skips versions rest previous
      else (w.tree.file? (home w ver ++ rest)).or (topmost w skips versions rest previous) := by
  by_cases excluded : Path.mk .relative rest ∈ skips
  · simp only [topmost, if_pos excluded]
  · simp only [topmost, if_neg excluded, reverse_append, reverse_singleton, singleton_append, List.findSome?_cons]
    cases w.tree.file? (home w ver ++ rest) <;> rfl

namespace Staged

variable (staged : Staged w skips) (has : Has w ver)
include staged has

lemma plain : IsPlain ver :=
  staged.sound.tree.isPlain has ver (by simp [home])

lemma head_ne (there : w.tree.get? (home w ver ++ rest) = some (.file file)) : rest.head? ≠ some "owl-bot-staging" := by
  intro head
  rcases rest with _ | ⟨first, _ | ⟨name, more⟩⟩
  · cases head
  · cases head
    exact staged.agree _ _ _ file (.inr ⟨ver, has, rfl⟩) (.inl rfl) there staged.standing
  · cases head
    exact staged.outside ver name more file there

lemma not_staged (there : w.tree.get? (home w ver ++ rest) = some (.file file))
    (more : List String) : ¬ base w ++ more <+: w.directory ++ rest := by
  intro below
  rw [base, append_assoc, prefix_append_right_inj] at below
  obtain ⟨others, rfl⟩ := below
  exact staged.head_ne has there rfl

end Staged

lemma literal_folder (plain : IsPlain ver) (tame : NamePattern.isWild ver = false) : (folder ver).Literal := by
  refine ⟨?_, by simp [folder], ?_⟩
  · intro name mem
    rcases mem_cons.mp mem with rfl | last
    · decide
    · rw [mem_singleton.mp last]
      exact plain.1
  · intro name mem
    rcases mem_cons.mp mem with rfl | last
    · decide
    · rwa [mem_singleton.mp last]

namespace Laid

variable (laid : Laid w skips previous versions now)
include laid

lemma session (other : Session) : Laid w skips previous versions { now with session := other } :=
  ⟨⟨laid.sound.tree, laid.sound.standing⟩, laid.directory, laid.script, laid.staged, laid.layers, laid.files⟩

lemma get?_home (ver : String) (rest : List String) : now.tree.get? (home w ver ++ rest) = w.tree.get? (home w ver ++ rest) := by
  rw [home_append]
  exact laid.staged (ver :: rest)

lemma leads_base (staged : Staged w skips) : LeadsTo now usual (base w) := by
  have standing : now.tree.get? (base now) = some .directory := by
    have same := laid.staged []
    rw [append_nil, staged.standing] at same
    rwa [base, laid.directory]
  have leads := leads_usual laid.sound standing
  rwa [base, laid.directory] at leads

lemma leads (staged : Staged w skips) (has : Has w ver) : LeadsTo now (folder ver) (home w ver) := by
  have standing : now.tree.get? (base w ++ [ver]) = some .directory := by
    rwa [laid.staged, <- home_eq]
  have leads := (laid.leads_base staged).child laid.sound (staged.plain has) standing
  rwa [<- home_eq, usual_eq] at leads

/-! ## What is to be written -/

lemma written_iff (staged : Staged w skips) (has : Has w ver) (mem_found : ∀ path, path ∈ found ↔ (∃ exclude, exclude ∈ skips /\
        path = ⟨(folder ver).anchor, (folder ver).names ++ exclude.names⟩) /\
        (now.tree.find? now.directory path).isSome = true /\ now.notScript path = true) (rest : List String) :
    Written now (folder ver) (home w ver) found rest ↔
      (∃ file, w.tree.get? (home w ver ++ rest) = some (.file file)) /\ Path.mk .relative rest ∉ skips := by
  rw [Written, laid.get?_home]
  refine and_congr_right ?_
  rintro ⟨file, there⟩
  constructor
  · rintro ⟨_, left⟩ mem
    have loc := (laid.leads staged has).locate_below laid.sound ((laid.get?_home ver rest).trans there) rfl
    have present : (now.tree.find? now.directory ⟨(folder ver).anchor, (folder ver).names ++ rest⟩).isSome = true := by
      rw [Tree.find?, loc]
      simp only [laid.get?_home, there, Option.isSome_some]
    have notScript : now.notScript ⟨(folder ver).anchor, (folder ver).names ++ rest⟩ = true := by
      rw [Workspace.notScript, laid.directory, laid.script]
      exact staged.script ver rest
    exact left ((mem_found _).mpr ⟨⟨_, mem, rfl⟩, present, notScript⟩)
  · intro kept
    constructor
    · intro mem
      obtain ⟨⟨exclude, inside, same⟩, _⟩ := (mem_found _).mp mem
      have names : rest.dropLast = exclude.names :=
        append_cancel_left (congrArg Path.names same)
      by_cases top : rest = []
      · rw [top, append_nil] at there
        rw [has] at there
        cases there
      · refine (staged.excluded exclude inside).file ver ?_
        rw [<- names]
        have above := staged.sound.tree.above (by simp [top]) there
        rwa [dropLast_append_of_ne_nil top] at above
    · intro mem
      obtain ⟨⟨exclude, inside, same⟩, _⟩ := (mem_found _).mp mem
      have names : rest = exclude.names := append_cancel_left (congrArg Path.names same)
      have whole : Path.mk .relative rest = exclude := by
        rw [names, <- (staged.excluded exclude inside).relative]
      exact kept (whole ▸ inside)

lemma fits (staged : Staged w skips) (has : Has w ver) (there : w.tree.get? (home w ver ++ rest) = some (.file file))
    (kept : Path.mk .relative rest ∉ skips) : now.tree.Fits (home w ver) w.directory rest := by
  have noLink : ∀ start, start <+: rest -> ∀ target, now.tree.get? (w.directory ++ start) ≠ some (.link target) := by
    intro start early target linked
    obtain ⟨place, layer, found⟩ := laid.layers start _ linked
    rcases layer with rfl | ⟨other, _, rfl⟩
    · exact staged.free ver rest file there kept start early target found
    · rw [home_append] at found
      exact staged.linkFree _ target found
  refine ⟨.inl ?_, ?_, ?_⟩
  · rw [home_eq]
    exact staged.not_staged has there [ver]
  · intro start early short
    cases node : now.tree.get? (w.directory ++ start) with
    | none => exact .inl rfl
    | some kind =>
      cases kind with
      | directory => exact .inr rfl
      | link target => exact absurd node (noLink start early target)
      | file other =>
        obtain ⟨place, layer, found⟩ := laid.layers start _ node
        obtain ⟨more, rfl⟩ := early
        have further : more ≠ [] := by
          rintro rfl
          exact short (append_nil start).symm
        rw [<- append_assoc] at there
        have standing := staged.sound.tree.way more further there
        exact absurd standing (staged.agree _ _ _ other layer (.inr ⟨ver, has, rfl⟩) found)
  · cases node : now.tree.get? (w.directory ++ rest) with
    | none => exact .inl rfl
    | some kind =>
      cases kind with
      | file old => exact .inr ⟨old, rfl⟩
      | link target => exact absurd node (noLink rest (prefix_refl rest) target)
      | directory =>
        obtain ⟨place, layer, found⟩ := laid.layers rest _ node
        exact absurd found (staged.agree _ _ _ file (.inr ⟨ver, has, rfl⟩) layer there)

lemma reaches : Reaches now Path.here w.directory := by
  refine ⟨[], [], w.directory, rfl, (append_nil _).symm, ?_, nofun, ?_⟩
  · have leads := LeadsTo.here laid.sound
    rwa [laid.directory] at leads
  · intro start early named
    exact absurd (prefix_nil.mp early) named

lemma prepared (staged : Staged w skips) (has : Has w ver) (written : ∀ rest, Written now (folder ver) (home w ver) found rest ↔
      (∃ file, w.tree.get? (home w ver ++ rest) = some (.file file)) /\ Path.mk .relative rest ∉ skips) :
    Prepared now (folder ver) (home w ver) Path.here w.directory found where
  sound := laid.sound
  literal := literal_folder (staged.plain has) (staged.tame ver has)
  located := (laid.leads staged has).located
  standing := (laid.leads staged has).standing
  linkFree rest target := by
    rw [laid.get?_home, home_append]
    exact staged.linkFree _ target
  fits rest isWritten := by
    obtain ⟨⟨file, there⟩, kept⟩ := (written rest).mp isWritten
    exact ⟨laid.reaches, laid.fits staged has there kept⟩

/-! ## One more version -/

lemma extend {next : Workspace} (staged : Staged w skips) (has : Has w ver) (sound : next.Sound)
    (frame : next.directory = now.directory /\ next.script = now.script) (copied : now.tree.Copied (home w ver) w.directory
      (fun rest => (∃ file, w.tree.get? (home w ver ++ rest) = some (.file file)) /\
        Path.mk .relative rest ∉ skips) next.tree) : Laid w skips previous (versions ++ [ver]) next where
  sound := sound
  directory := frame.1.trans laid.directory
  script := frame.2.trans laid.script
  staged rest := by
    rw [<- laid.staged]
    apply copied.kept
    rintro other ⟨⟨file, there⟩, _⟩ ⟨below, _⟩
    exact staged.not_staged has there rest below
  layers rest node found := by
    have files : ∀ rest, ((∃ file, w.tree.get? (home w ver ++ rest) = some (.file file)) /\ Path.mk .relative rest ∉ skips) ->
        ∃ file, now.tree.get? (home w ver ++ rest) = some (.file file) := by
      rintro rest ⟨⟨file, there⟩, _⟩
      exact ⟨file, (laid.get?_home ver rest).trans there⟩
    rcases copied.get?_or laid.sound.tree files found with old | new
    · exact laid.layers rest node old
    · rw [laid.get?_home] at new
      exact ⟨home w ver, .inr ⟨ver, has, rfl⟩, new⟩
  files rest head := by
    rw [topmost_concat]
    split
    next excluded =>
      rw [<- laid.files rest head]
      exact copied.file?_left fun isDone => isDone.2 excluded
    next excluded =>
      cases there : w.tree.file? (home w ver ++ rest) with
      | none =>
        rw [Option.none_or, <- laid.files rest head]
        apply copied.file?_left
        rintro ⟨⟨file, found⟩, _⟩
        rw [file?_eq_some_iff.mpr found] at there
        cases there
      | some file =>
        rw [Option.some_or, <- there, <- file?_congr (laid.get?_home ver rest)]
        exact copied.file?_done ⟨⟨file, file?_eq_some_iff.mp there⟩, excluded⟩

lemma extend_absent (staged : Staged w skips) (absent : w.tree.get? (home w ver) = none) :
    Laid w skips previous (versions ++ [ver]) now := by
  refine { laid with files := fun rest head => ?_ }
  have nothing : w.tree.file? (home w ver ++ rest) = none := by
    cases there : w.tree.file? (home w ver ++ rest) with
    | none => rfl
    | some file =>
      exact absurd absent (staged.sound.tree.present_of_prefix (file?_eq_some_iff.mp there) (prefix_append _ rest))
  rw [topmost_concat, nothing, Option.none_or, ite_self]
  exact laid.files rest head

end Laid

end Refinery.Staging
