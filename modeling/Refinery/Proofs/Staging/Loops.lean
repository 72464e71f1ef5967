import Refinery.Npm.Postprocess
import Refinery.Proofs.Staging.Layers

namespace Refinery.Staging

open Text Workspace Job Transfer Roots

open List hiding beq_eq_decide

open Transfer (move)

/-!
# Loops over staged versions

The folders are moved over the repository in their order, the default one last.
-/

/-- The exclusions, as they are given to a move. -/
def patterns (excludes : List Path) : Selection :=
  .many (excludes.map fun path => .text path.toString)

/-- A name of a version: plain, without special characters, and with a folder if anything is staged by it. -/
structure Version (w : Workspace) (version : String) : Prop where
  plain : IsPlain version
  tame : NamePattern.isWild version = false
  staged : w.tree.get? (home w version) = none \/ Has w version

def Tracks (w now : Workspace) : Prop :=
  ∀ root ∈ now.session.roots, root ∈ w.session.roots \/ ∃ version, root = folder version

variable {w now : Workspace} {skips : List Path} {previous : List String -> Option FileNode}
  {versions later : List String} {ver default : String}

lemma eq_of_isBelow_folder {other : String} (below : (folder other).isBelow (folder ver) = true) : folder other = folder ver := by
  obtain ⟨relative, seen⟩ := Option.isSome_iff_exists.mp below
  obtain ⟨_, more, parts, _⟩ := Path.relativeTo?_eq_some_iff.mp seen
  simp only [folder, cons_append, nil_append, List.cons.injEq, true_and] at parts
  rw [parts.1]

lemma Tracks.noneBelow (tracks : Tracks w now) (staged : Staged w skips) (root : Path)
    (mem : root ∈ now.session.roots) (below : root.isBelow (folder ver) = true) : root = folder ver := by
  rcases tracks root mem with before | ⟨other, rfl⟩
  · exact staged.noneBelow root before ver below
  · exact eq_of_isBelow_folder below

namespace Laid

/-! ## One version -/

variable (w now skips previous versions ver) in
/-- The folder of one more version can be moved, which tracks no other roots. -/
def Moves : Prop :=
  ∃ copied next, (move (.ofPaths [folder ver]) none (patterns skips)).execute now =
      (.ok copied, next) /\ next.session.roots = now.session.roots /\ Laid w skips previous (versions ++ [ver]) next

variable (laid : Laid w skips previous versions now) (staged : Staged w skips)
include laid staged

lemma move_folder (tracks : Tracks w now) (inOrder : InOrder now.session.roots)
    (tracked : folder ver ∈ now.session.roots) (has : Has w ver) : Moves w now skips previous versions ver := by
  have leads := laid.leads staged has
  have literal := literal_folder (staged.plain has) (staged.tame ver has)
  have sees : ∀ more, relativize? now.session.roots
      ⟨(folder ver).anchor, (folder ver).names ++ more⟩ = some ⟨.relative, [] ++ more⟩ :=
    relativize?_below inOrder tracked literal.proper (Nat.le_refl 2) (tracks.noneBelow staged)
  have seen := relativize?_self inOrder tracked literal.proper (Nat.le_refl 2)
  rcases Selection.yields_literal leads.isDirectory literal.proper (fun exclude mem =>
    ⟨(staged.excluded exclude mem).literal, (staged.excluded exclude mem).relative⟩) with
    ⟨found, mem_found, yields⟩
  have below : ∀ path ∈ found, (folder ver).Under path := by
    intro path mem
    obtain ⟨⟨exclude, inside, rfl⟩, _⟩ := (mem_found path).mp mem
    exact ⟨exclude.names, (staged.excluded exclude inside).plain, rfl⟩
  have looked := (exclusions_of_yields laid.sound yields below sees).2
  let texts := (skips.map fun path => Choice.text path.toString).map Choice.text'
  have noted : Laid w skips previous versions (now.noting texts) := laid.session _
  have written := noted.written_iff staged has mem_found
  rcases (noted.prepared staged has written).copyDirectory (decides_fromRoot below sees) with
    ⟨copied, next, ran, sound, frame, exact, _⟩
  refine ⟨copied, next, ?_, ?_, ?_⟩
  · rw [<- ran]
    exact (execute_move_rooted laid.sound (.of_leads literal leads) seen rfl none).trans
      (execute_move_leads laid.sound literal leads Path.here rfl looked none)
  · rw [frame]
    rfl
  · refine noted.extend staged has sound ?_ (exact.congr written)
    rw [frame]
    exact ⟨rfl, rfl⟩

lemma move_absent (plain : IsPlain ver) (tame : NamePattern.isWild ver = false) (absent : w.tree.get? (home w ver) = none) : Moves w now skips previous versions ver := by
  have gone : now.tree.get? (base w ++ [ver]) = none := by
    rwa [laid.staged, <- home_eq]
  have loc : now.tree.locate now.directory (folder ver) = .ok (base w ++ [ver]) :=
    (laid.leads_base staged).locate_child laid.sound plain true (by rw [gone]; simp)
  have nowhere : now.tree.find? now.directory (folder ver) = none := by
    rwa [Tree.find?, loc]
  exact ⟨_, _, execute_move_absent laid.sound (literal_folder plain tame) nowhere none rfl none,
    rfl, (laid.session _).extend_absent staged absent⟩

lemma move_version (tracks : Tracks w now) (inOrder : InOrder now.session.roots)
    (tracked : folder ver ∈ now.session.roots) (isVersion : Version w ver) : Moves w now skips previous versions ver := by
  rcases isVersion.staged with absent | has
  · exact laid.move_absent staged isVersion.plain isVersion.tame absent
  · exact laid.move_folder staged tracks inOrder tracked has

lemma execute_removeTree : (removeTree usual).execute now = (.ok (), { now with tree := now.tree.prune (base w) }) := by
  have here : base now = base w := by rw [base, base, laid.directory]
  have removed := execute_removeUsual laid.sound (by rw [here]; exact (laid.leads_base staged).standing)
  rwa [here] at removed

end Laid

/-! ## The versions in order -/

instance decidableHas (w : Workspace) (version : String) : Decidable (Has w version) :=
  inferInstanceAs (Decidable (_ = _))

/-- The staged versions but the default one, in order. -/
def others (w : Workspace) (default : String) : List String :=
  (w.tree.list (base w)).filter fun version => decide (version ≠ default) && decide (Has w version)

section

variable (staged : Staged w skips)
include staged

lemma Staged.laid : Laid w skips (fun rest => w.tree.file? (w.directory ++ rest)) [] w where
  sound := staged.sound
  directory := rfl
  script := rfl
  staged _ := rfl
  layers _ _ found := ⟨w.directory, .inl rfl, found⟩
  files rest _ := by
    rw [topmost, reverse_nil, List.findSome?_nil, Option.none_or, ite_self]

lemma Staged.isVersion (mem : ver ∈ others w default) : Version w ver := by
  have has : Has w ver := by
    simpa using (Bool.and_eq_true_iff.mp (mem_filter.mp mem).2).2
  exact ⟨staged.plain has, staged.tame ver has, .inr has⟩

lemma Staged.all_versions
    (isVersion : Version w default) (ver : String) (mem : ver ∈ others w default ++ [default]) : Version w ver := by
  rcases mem_append.mp mem with inside | last
  · exact staged.isVersion inside
  · rwa [mem_singleton.mp last]

lemma Staged.execute_list : (list usual).execute w = (.ok (w.tree.list (base w)), w) := by
  have leads := staged.laid.leads_base staged
  rw [Job.execute_list, list_of_locate leads.proper leads.located leads.standing]

lemma Staged.isDirectory {name : String}
    (mem : name ∈ w.tree.list (base w)) : w.isDirectory (usual.child name) = decide (Has w name) := by
  have leads := staged.laid.leads_base staged
  obtain ⟨node, found⟩ := Option.isSome_iff_exists.mp (staged.sound.tree.mem_list.mp mem)
  have plain : IsPlain name := staged.sound.tree.isPlain found name (by simp)
  have loc := leads.locate_child staged.sound plain true (staged.linkFree [name])
  rw [Bool.eq_iff_iff, isDirectory_eq_true_iff,
    nodeAt?_of_locate (leads.proper.child plain.1) loc, decide_eq_true_iff, Has, home_eq]

end

lemma div_eq_folder (isName : IsName ver) : (usual / ver : Path) = folder ver := by
  have read : Path.ofString ver = ⟨.relative, [ver]⟩ := by
    have proper : (Path.mk .relative [ver]).Proper := by
      intro name mem
      rwa [mem_singleton.mp mem]
    have text : (Path.mk .relative [ver]).toString = ver := String.empty_append
    rw [<- Path.ofString_toString proper, text]
  change usual.append (Path.ofString ver) = _
  rw [read, usual_eq]
  rfl

lemma Staged.execute_versions (staged : Staged w skips) (isName : IsName default) :
    ∃ roots, (Staging.versions (some default)).execute w = (.ok ((others w default ++ [default]).map folder),
          { w with session := { w.session with roots := roots } }) /\ InOrder roots /\ ∀ root, root ∈ roots ↔
        root ∈ w.session.roots \/ root ∈ (others w default ++ [default]).map folder := by
  let names := w.tree.list (base w)
  have standing : (Job.isDirectory usual).execute w = (.ok true, w) := by
    rw [execute_isDirectory, (staged.laid.leads_base staged).isDirectory]
  have tested : (names.filterM fun name => Job.isDirectory (usual.child name)).execute w =
      (.ok (names.filter fun name => decide (Has w name)), w) :=
    execute_filterM _ _ w _ fun name mem => by
      rw [execute_isDirectory, staged.isDirectory mem]
  have ordered : order (names.filter fun name => decide (Has w name)) (some default) = others w default ++ [default] := by
    have kept : (names.filter fun name => decide (Has w name)).filter
        (fun name => some name ≠ some default) = others w default := by
      rw [filter_filter, others]
      apply filter_congr
      simp
    have inOrder : (others w default).Pairwise (· <= ·) := (sorted_pairwise _).sublist filter_sublist
    rw [order, kept, sorted_of_pairwise inOrder, Option.toList_some]
  have folders : ((others w default ++ [default]).map fun (name : String) => (usual / name : Path)) =
      (others w default ++ [default]).map folder := by
    refine map_congr_left fun name mem => div_eq_folder ?_
    rcases mem_append.mp mem with inside | last
    · exact (staged.isVersion inside).plain.1
    · rwa [mem_singleton.mp last]
  obtain ⟨roots, ran, inOrder, mem_roots⟩ := execute_addAll ((others w default ++ [default]).map folder) w
  refine ⟨roots, ?_, inOrder (.inl (by simp)), mem_roots⟩
  rw [<- folders] at ran
  rw [Staging.versions, bind_ok standing]
  refine (bind_ok staged.execute_list).trans ((bind_ok tested).trans ?_)
  rw [ordered, bind_ok ran, folders]
  rfl

/-! ## The loops -/

variable (laid : Laid w skips previous versions now) (staged : Staged w skips) (tracks : Tracks w now)
include laid staged tracks

lemma Laid.execute_moveEach (inOrder : InOrder now.session.roots)
    (tracked : ∀ ver ∈ later, folder ver ∈ now.session.roots)
    (each : ∀ ver ∈ later, Version w ver) :
    ∃ next, ((later.map folder).forM fun folder => do
        let _ <- move (.ofPaths [folder]) none (patterns skips)).execute now = (.ok (), next) /\
      Laid w skips previous (versions ++ later) next := by
  induction later generalizing versions now with
  | nil =>
    rw [append_nil]
    exact ⟨now, rfl, laid⟩
  | cons ver rest ih =>
    rcases laid.move_version staged tracks inOrder (tracked ver mem_cons_self)
      (each ver mem_cons_self) with ⟨copied, next, moved, sameRoots, onTop⟩
    have tracksNext : Tracks w next := by
      intro root mem
      rw [sameRoots] at mem
      exact tracks root mem
    rcases ih onTop tracksNext (sameRoots ▸ inOrder) (fun other mem => sameRoots ▸ tracked other (mem_cons_of_mem ver mem))
      (fun other mem => each other (mem_cons_of_mem ver mem)) with
      ⟨last, ran, laidLast⟩
    rw [append_assoc] at laidLast
    refine ⟨last, ?_, laidLast⟩
    have stepped : (do
        let _ <- move (.ofPaths [folder ver]) none (patterns skips) : Job Unit).execute now =
        (.ok (), next) := bind_ok moved
    exact (bind_ok stepped).trans ran

end Refinery.Staging
