import Refinery.Proofs.Workspace.Search

namespace Refinery

open List Job Refinery.Tree Glob

/-!
# Searches while files are rewritten

As long as nothing but the contents of files changes, a search goes through a list of paths that is known
before it starts, and ends as it would have ended anyway.  `Yields` says this, and every selection has such a
list.
-/

namespace Workspace

structure Rewritten (w v : Workspace) : Prop where
  before : w.Sound
  sound : v.Sound
  frame : v = { w with tree := v.tree }
  outline : SameOutline w.tree v.tree

variable {w v u : Workspace} {place : Place} {file : FileNode} {path : String}

namespace Rewritten

lemma refl (sound : w.Sound) : w.Rewritten w :=
  ⟨sound, sound, rfl, SameOutline.refl w.tree⟩

lemma trans (first : w.Rewritten v) (second : v.Rewritten u) : w.Rewritten u := by
  refine ⟨first.before, second.sound, ?_, first.outline.trans second.outline⟩
  rw [second.frame, first.frame]

variable (rewritten : w.Rewritten v)
include rewritten

lemma directory : v.directory = w.directory := by
  rw [rewritten.frame]

lemma script : v.script = w.script := by
  rw [rewritten.frame]

lemma placeOf (path : String) (follow : Bool) : v.placeOf path follow = w.placeOf path follow := by
  rw [Workspace.placeOf, Workspace.placeOf, rewritten.directory, rewritten.outline.locate]

lemma outline_nodeAt? (path : String) : (v.nodeAt? path).map Node.outline = (w.nodeAt? path).map Node.outline := by
  rw [Workspace.nodeAt?, Workspace.nodeAt?, rewritten.directory]
  by_cases empty : path = ""
  · rw [if_pos empty, if_pos empty]
  · rw [if_neg empty, if_neg empty, rewritten.outline.find?]

lemma exists? (path : String) : (v.nodeAt? path).isSome = (w.nodeAt? path).isSome := by
  have here := congrArg Option.isSome (rewritten.outline_nodeAt? path)
  rwa [Option.isSome_map, Option.isSome_map] at here

lemma isDirectory (path : String) : v.isDirectory path = w.isDirectory path := by
  have here := congrArg (fun node => (node.map Node.isDirectory).getD false) (rewritten.outline_nodeAt? path)
  have kind : Node.isDirectory ∘ Node.outline = Node.isDirectory := by
    funext node
    cases node <;> rfl
  rwa [Option.map_map, Option.map_map, kind] at here

lemma isLink (path : String) : v.isLink path = w.isLink path := by
  have here := congrArg (fun node => (node.map Node.isLink).getD false)
    (rewritten.outline.symm.findSelf? w.directory (pathOf path))
  have kind : Node.isLink ∘ Node.outline = Node.isLink := by
    funext node
    cases node <;> rfl
  rw [Workspace.isLink, Workspace.isLink, rewritten.directory]
  rwa [Option.map_map, Option.map_map, kind] at here

lemma list (path : String) : v.list path = w.list path := by
  rw [Workspace.list, Workspace.list, rewritten.placeOf]
  cases w.placeOf path true with
  | error err => rfl
  | ok place =>
    have listed : v.tree.list place = w.tree.list place :=
      rewritten.sound.tree.list_of_names rewritten.before.tree fun name =>
        (rewritten.outline.isSome (place ++ [name])).symm
    cases found : w.tree.get? place with
    | none => simp only [found, rewritten.outline.absent found]
    | some node =>
      cases node with
      | file file =>
        obtain ⟨now, there⟩ := rewritten.outline.grows.file found
        simp only [found, there]
      | link target => simp only [found, rewritten.outline.grows.link found]
      | directory => simp only [found, rewritten.outline.grows.directory found, listed]

lemma size : v.tree.size = w.tree.size :=
  rewritten.sound.tree.size_of_places rewritten.before.tree fun place =>
    (rewritten.outline.isSome place).symm

lemma filePlace? (path : String) : v.filePlace? path = w.filePlace? path := by
  apply Option.ext
  intro place
  rw [filePlace?_eq_some_iff, filePlace?_eq_some_iff, rewritten.placeOf]
  refine and_congr_right fun _ => ⟨?_, ?_⟩
  · rintro ⟨file, found⟩
    exact rewritten.outline.symm.grows.file found
  · rintro ⟨file, found⟩
    exact rewritten.outline.grows.file found

lemma put_file (loc : v.placeOf path true = .ok place) (found : v.tree.get? place = some (.file file)) (new : FileNode) :
    w.Rewritten (v.put (some (place, .file new))) := by
  have isOpen := rewritten.sound.isOpen loc
  have receives : v.tree.Receives place (.file new) := isOpen.receives_file found
  have outline : SameOutline v.tree (v.tree.insert place (.file new)) :=
    SameOutline.insert new found
  refine ⟨rewritten.before, ⟨?_, ?_⟩, ?_, rewritten.outline.trans outline⟩
  · exact rewritten.sound.tree.insert receives.named isOpen.plain isOpen.inDirectory receives.clear
  · exact outline.grows.directory rewritten.sound.standing
  · conv_lhs => rw [rewritten.frame]
    rfl

end Rewritten

lemma get?_put_file (found : v.tree.get? place = some (.file file)) (new : FileNode) (other : Place) :
    (v.put (some (place, .file new))).tree.get? other = if other = place then some (.file new) else v.tree.get? other := by
  have named : place ≠ [] := by
    rintro rfl
    cases found
  exact get?_insert v.tree place other (.file new) named

end Workspace

/-! ## Visits that rewrite files -/

variable {α σ : Type} {w v : Workspace} {root : Path}

def Keeps (w : Workspace) (visit : σ -> Path -> Job σ) : Prop :=
  ∀ state path v, w.Rewritten v -> w.Rewritten ((visit state path).execute v).2

def ending (failure : Option Failure) (state : σ) : Job σ :=
  match failure with
  | none => pure state
  | some failure => fail failure

lemma Keeps.foldlM {visit : σ -> Path -> Job σ} (keeps : Keeps w visit) (found : List Path) (state : σ)
    (rewritten : w.Rewritten v) : w.Rewritten ((found.foldlM visit state).execute v).2 := by
  induction found generalizing state v with
  | nil => exact rewritten
  | cons path rest ih =>
    have first := keeps state path v rewritten
    rw [foldlM_cons, execute_bind]
    rcases ran : (visit state path).execute v with ⟨outcome, after⟩
    rw [ran] at first
    cases outcome with
    | ok next => exact ih next first
    | error err => exact first

abbrev Search := {σ : Type} -> (σ -> Path -> Job σ) -> σ -> Job σ

structure Yields (w : Workspace) (search : Search)
    (found : List Path) (failure : Option Failure) : Prop where
  runs : ∀ {σ : Type} {visit : σ -> Path -> Job σ}, Keeps w visit -> ∀ (state : σ) {v : Workspace}, w.Rewritten v ->
    (search visit state).execute v = (found.foldlM visit state >>= ending failure).execute v

namespace Yields

variable {search other : Search} {found more : List Path}
  {err : Option Failure}

lemma congr (yields : Yields w other found err) (same : ∀ {σ : Type} (visit : σ -> Path -> Job σ) (state : σ),
      search visit state = other visit state) : Yields w search found err := by
  refine ⟨fun keeps state _ rewritten => ?_⟩
  rw [same]
  exact yields.runs keeps state rewritten

lemma keeps (yields : Yields w search found err) {visit : σ -> Path -> Job σ}
    (keeps : Keeps w visit) (state : σ) (rewritten : w.Rewritten v) : w.Rewritten ((search visit state).execute v).2 := by
  have visited := keeps.foldlM found state rewritten
  rw [yields.runs keeps state rewritten, execute_bind]
  rcases ran : (found.foldlM visit state).execute v with ⟨outcome, after⟩
  rw [ran] at visited
  cases outcome with
  | error reason => exact visited
  | ok last => cases err <;> exact visited

lemma nothing : Yields w (fun _ state => pure state) [] none :=
  ⟨fun _ _ _ _ => rfl⟩

lemma stops (reason : Failure) : Yields w (fun _ _ => fail reason) [] (some reason) :=
  ⟨fun _ _ _ _ => rfl⟩

lemma visit (path : Path) : Yields w (fun visit state => visit state path) [path] none := by
  refine ⟨fun {σ visit} keeps state v rewritten => ?_⟩
  rw [foldlM_cons, execute_bind, execute_bind]
  obtain ⟨outcome, after⟩ := (visit state path).execute v
  cases outcome <;> rfl

lemma look {job : Job α} {next : α -> Search} (value : α)
    (looks : ∀ {v}, w.Rewritten v -> job.execute v = (.ok value, v)) (onward : Yields w (next value) found err) :
    Yields w (fun visit state => job >>= fun value => next value visit state) found err := by
  refine ⟨fun {σ visit} keeps state v rewritten => ?_⟩
  rw [bind_ok (looks rewritten)]
  exact onward.runs keeps state rewritten

lemma append (first : Yields w search found none) (second : Yields w other more err) :
    Yields w (fun visit state => search visit state >>= other visit) (found ++ more) err := by
  refine ⟨fun {σ visit} keeps state v rewritten => ?_⟩
  rw [foldlM_append, bind_assoc]
  apply execute_bind_congr
  · rw [first.runs keeps state rewritten, execute_bind]
    obtain ⟨outcome, after⟩ := (found.foldlM visit state).execute v
    cases outcome <;> rfl
  · intro value after ran
    have reached := keeps.foldlM found state rewritten
    rw [ran] at reached
    exact second.runs keeps value reached

lemma append_failed {reason : Failure} (first : Yields w search found (some reason)) :
    Yields w (fun visit state => search visit state >>= other visit) found (some reason) := by
  refine ⟨fun {σ visit} keeps state v rewritten => ?_⟩
  rw [execute_bind, first.runs keeps state rewritten, execute_bind]
  obtain ⟨outcome, after⟩ := (found.foldlM visit state).execute v
  cases outcome <;> rfl

lemma flatMap {search : α -> Search}
    {found : α -> List Path} {items : List α} (each : ∀ item ∈ items, Yields w (search item) (found item) none) :
    Yields w (fun visit state => items.foldlM (fun state item => search item visit state) state) (items.flatMap found) none := by
  induction items with
  | nil => exact nothing
  | cons item rest ih =>
    exact (each item mem_cons_self).append (ih fun other mem => each other (mem_cons_of_mem item mem))

lemma nested {outer : Search} {entered : List Path} {inner : Path -> Search} {stop : Option Failure}
    (yields : Yields w outer entered stop) (each : ∀ path, ∃ some stop, Yields w (inner path) some stop)
    (whole : Yields w (fun visit state =>
      entered.foldlM (fun state path => inner path visit state) state >>= ending stop) found err) :
    Yields w (fun visit state => outer (fun state path => inner path visit state) state) found err := by
  refine ⟨fun {σ visit} keeps state v rewritten => ?_⟩
  have steps : Keeps w (fun (state : σ) path => inner path visit state) := by
    intro state path v rewritten
    obtain ⟨_, _, reached⟩ := each path
    exact reached.keeps keeps state rewritten
  rw [yields.runs steps state rewritten]
  exact whole.runs keeps state rewritten

lemma filter (yields : Yields w search found err) (keep : Path -> Bool)
    {choose : {σ : Type} -> (σ -> Path -> Job σ) -> σ -> Path -> Job σ}
    (chooses : ∀ {σ : Type} (visit : σ -> Path -> Job σ) (state : σ) (path : Path) {v : Workspace},
      w.Rewritten v -> (choose visit state path).execute v =
        (if keep path then visit state path else pure state : Job σ).execute v) :
    Yields w (fun visit state => search (choose visit) state) (found.filter keep) err := by
  refine ⟨fun {σ visit} keeps state v rewritten => ?_⟩
  have chosenKeeps : Keeps w (choose visit) := by
    intro state path v rewritten
    rw [chooses visit state path rewritten]
    cases keep path with
    | true => exact keeps state path v rewritten
    | false => exact rewritten
  rw [yields.runs chosenKeeps state rewritten]
  refine execute_bind_congr ?_ fun _ _ _ => rfl
  clear yields
  induction found generalizing state v with
  | nil => rfl
  | cons path rest ih =>
    have first := chooses visit state path rewritten
    rw [foldlM_cons, filter_cons]
    cases kept : keep path <;> rw [kept] at first
    · rw [if_neg Bool.false_ne_true, bind_ok first]
      exact ih state v rewritten
    · refine execute_bind_congr first fun value after ran => ih value after ?_
      have reached := keeps state path v rewritten
      rwa [ran] at reached

end Yields

/-! ## Visiting each path once -/

/-- A visit that passes over the paths that were seen before. -/
def once (visit : σ -> Path -> Job σ) (known : List Path × σ) (path : Path) : Job (List Path × σ) := do
  if known.1.contains path then return known
  let state <- visit known.2 path
  return (path :: known.1, state)

lemma Keeps.once {visit : σ -> Path -> Job σ} (keeps : Keeps w visit) : Keeps w (once visit) := by
  intro known path v rewritten
  rw [Refinery.once]
  by_cases seen : known.1.contains path = true
  · rwa [if_pos seen]
  · have visited := keeps known.2 path v rewritten
    rw [if_neg seen, execute_bind]
    rcases ran : (visit known.2 path).execute v with ⟨outcome, after⟩
    rw [ran] at visited
    cases outcome <;> exact visited

lemma foldlM_once (visit : σ -> Path -> Job σ) (paths seen : List Path) (state : σ) (next : σ -> Job α) :
    (paths.foldlM (once visit) (seen, state) >>= fun known => next known.2) = (firsts seen paths).foldlM visit state >>= next := by
  induction paths generalizing seen state with
  | nil => rfl
  | cons path rest ih =>
    rw [foldlM_cons, firsts, once]
    by_cases known : seen.contains path = true
    · rw [if_pos known, if_pos known, pure_bind]
      exact ih seen state
    · rw [if_neg known, if_neg known, foldlM_cons]
      simp only [bind_assoc, pure_bind]
      congr 1
      funext after
      exact ih (path :: seen) after

lemma Yields.once {search : Search} {found : List Path} {err : Option Failure} (yields : Yields w search found err) :
    Yields w (fun visit state => search (once visit) ([], state) >>= fun known => pure known.2) (firsts [] found) err := by
  refine ⟨fun {σ visit} keeps state v rewritten => ?_⟩
  have ends : (fun known : List Path × σ => ending err known >>= fun known => pure known.2) = fun known => ending err known.2 := by
    cases err <;> rfl
  calc (search (Refinery.once visit) ([], state) >>= fun known => pure known.2).execute v
      = ((found.foldlM (Refinery.once visit) ([], state) >>= ending err) >>= fun known => pure known.2).execute v :=
        execute_bind_congr (yields.runs keeps.once ([], state) rewritten) fun _ _ _ => rfl
    _ = (found.foldlM (Refinery.once visit) ([], state) >>= fun known => ending err known.2).execute v := by rw [bind_assoc, ends]
    _ = _ := by rw [foldlM_once visit found [] state (ending err)]

/-! ## Searches yield lists of paths -/

def Ordered (w : Workspace) (sure : Prop) (good : Path -> Prop) (search : Search) : Prop :=
  ∃ found failure, Yields w search found failure /\ (sure -> failure = none /\ ∀ path ∈ found, good path)

namespace Ordered

variable {search other : Search} {sure surer : Prop}
  {good : Path -> Prop}

lemma mono (ordered : Ordered w sure good search) (implies : surer -> sure) : Ordered w surer good search := by
  obtain ⟨found, err, yields, holds⟩ := ordered
  exact ⟨found, err, yields, fun isSure => holds (implies isSure)⟩

lemma congr (ordered : Ordered w sure good other) (same : ∀ {σ : Type} (visit : σ -> Path -> Job σ) (state : σ),
      search visit state = other visit state) : Ordered w sure good search := by
  obtain ⟨found, err, yields, holds⟩ := ordered
  exact ⟨found, err, yields.congr same, holds⟩

lemma nothing : Ordered w sure good (fun _ state => pure state) :=
  ⟨[], none, Yields.nothing, fun _ => ⟨rfl, nofun⟩⟩

lemma visit {path : Path} (isGood : sure -> good path) : Ordered w sure good (fun visit state => visit state path) := by
  refine ⟨[path], none, Yields.visit path, fun isSure => ⟨rfl, fun each mem => ?_⟩⟩
  rw [mem_singleton.mp mem]
  exact isGood isSure

lemma append (first : Ordered w sure good search) (second : Ordered w sure good other) :
    Ordered w sure good (fun visit state => search visit state >>= other visit) := by
  rcases first with ⟨found, none | reason, yields, holds⟩
  · rcases second with ⟨more, err, after, also⟩
    refine ⟨found ++ more, err, yields.append after, fun isSure => ⟨(also isSure).1, ?_⟩⟩
    intro path mem
    exact (mem_append.mp mem).elim ((holds isSure).2 path) ((also isSure).2 path)
  · exact ⟨found, some reason, yields.append_failed, holds⟩

lemma look {job : Job α} {next : α -> Search}
    (outcome : Except Failure α) (looks : ∀ {v}, w.Rewritten v -> job.execute v = (outcome, v))
    (ends : sure -> ∃ value, outcome = .ok value) (onward : ∀ value, outcome = .ok value -> Ordered w sure good (next value)) :
    Ordered w sure good (fun visit state => job >>= fun value => next value visit state) := by
  cases outcome with
  | error reason =>
    refine ⟨[], some reason, ⟨fun {σ visit} _ state v rewritten => ?_⟩, fun isSure => ?_⟩
    · rw [bind_error (looks rewritten)]
      rfl
    · rcases ends isSure with ⟨value, impossible⟩
      cases impossible
  | ok value =>
    obtain ⟨found, err, yields, holds⟩ := onward value rfl
    exact ⟨found, err, .look value looks yields, holds⟩

lemma flatMap {items : List α} {search : α -> Search}
    (each : ∀ item ∈ items, Ordered w sure good (search item)) : Ordered w sure good
      (fun visit state => items.foldlM (fun state item => search item visit state) state) := by
  induction items with
  | nil => exact nothing
  | cons item rest ih =>
    exact (each item mem_cons_self).append (ih fun other mem => each other (mem_cons_of_mem item mem))

lemma nested {outer : Search} {entered : Path -> Prop} {inner : Path -> Search} (ordered : Ordered w sure entered outer)
    (each : ∀ path, Ordered w (sure /\ entered path) good (inner path)) :
    Ordered w sure good (fun visit state => outer (fun state path => inner path visit state) state) := by
  obtain ⟨found, err, yields, holds⟩ := ordered
  have last : Ordered w sure good (fun _ state => ending err state) := by
    cases err with
    | none => exact nothing
    | some reason =>
      exact ⟨[], some reason, Yields.stops reason, fun isSure => ⟨(holds isSure).1, nofun⟩⟩
  have visits : Ordered w sure good (fun visit state =>
      found.foldlM (fun state path => inner path visit state) state) :=
    flatMap fun path mem => (each path).mono fun isSure => ⟨isSure, (holds isSure).2 path mem⟩
  obtain ⟨paths, stop, whole, also⟩ := visits.append last
  refine ⟨paths, stop, yields.nested (fun path => ?_) whole, also⟩
  obtain ⟨some, stop, reached, _⟩ := each path
  exact ⟨some, stop, reached⟩

lemma once (ordered : Ordered w sure good search) : Ordered w sure good
      (fun visit state => search (once visit) ([], state) >>= fun known => pure known.2) := by
  obtain ⟨found, err, yields, holds⟩ := ordered
  refine ⟨firsts [] found, err, yields.once, fun isSure => ⟨(holds isSure).1, ?_⟩⟩
  exact fun path mem => (holds isSure).2 path (mem_firsts.mp mem).1

end Ordered

namespace Glob

structure Entered (w : Workspace) (base path : Path) : Prop where
  sound : w.Sound
  proper : base.Proper
  under : base.Under path
  isDirectory : w.isDirectory path = true

lemma Entered.list {base path : Path} (entered : Entered w base path) :
    ∃ names, w.list path = .ok names /\ ∀ name ∈ names, IsPlain name :=
  entered.sound.list (entered.under.proper entered.proper) entered.isDirectory

lemma Entered.child {base path : Path} (entered : Entered w base path) {names : List String}
    (listed : w.list path = .ok names) {name : String} (mem : name ∈ names) : base.Under (path.child name) := by
  obtain ⟨others, same, plain⟩ := entered.list
  cases listed.symm.trans same
  exact entered.under.child (plain name mem)

lemma execute_entered (rewritten : w.Rewritten v) (paths : List Path) :
    (paths.filterM fun (path : Path) => do return (<- isDirectory path) && !(<- isLink path)).execute v =
      (.ok (paths.filter fun path => w.isDirectory path && !w.isLink path), v) := by
  apply execute_filterM
  intro path _
  rw [<- rewritten.isDirectory, <- rewritten.isLink]
  rfl

lemma foldDirectories_ordered (w : Workspace) (base : Path) (depth : Nat) (dir : Path) :
    Ordered w (Entered w base dir) (Entered w base) (fun visit state => foldDirectories visit depth state dir) := by
  induction depth generalizing dir with
  | zero => exact .nothing
  | succ depth ih =>
    refine .append (.visit id) (.look ((w.list dir.toString).map fun names =>
      names.map dir.child) ?_ ?_ fun paths listed => ?_)
    · intro v rewritten
      rw [execute_children, rewritten.list]
    · intro entered
      obtain ⟨names, listed, _⟩ := entered.list
      exact ⟨_, by rw [listed]; rfl⟩
    refine .look _ (fun rewritten => execute_entered rewritten paths) (fun _ => ⟨_, rfl⟩) fun inner chosen => ?_
    cases chosen
    refine .flatMap fun path mem => (ih path).mono fun entered => ?_
    obtain ⟨inside, enters⟩ := mem_filter.mp mem
    cases names : w.list dir.toString <;> rw [names] at listed
    · cases listed
    · cases listed
      obtain ⟨name, named, rfl⟩ := mem_map.mp inside
      exact ⟨entered.sound, entered.proper, entered.child names named, (Bool.and_eq_true_iff.mp enters).1⟩

structure Leads (w : Workspace) (base : Path) (steps : List GlobStep) (path : Path) : Prop where
  plain : ∀ step ∈ steps, StepPlain step
  sound : w.Sound
  proper : base.Proper
  under : base.Under path
  isDirectory : steps ≠ [] -> w.isDirectory path = true

variable {base path : Path} {step : GlobStep} {rest : List GlobStep}

lemma Leads.entered (leads : Leads w base (step :: rest) path) : Entered w base path :=
  ⟨leads.sound, leads.proper, leads.under, leads.isDirectory (cons_ne_nil _ _)⟩

lemma Leads.next (leads : Leads w base (step :: rest) path) {inner : Path} (under : base.Under inner)
    (isDirectory : rest ≠ [] -> w.isDirectory inner = true) : Leads w base rest inner :=
  ⟨fun each mem => leads.plain each (mem_cons_of_mem _ mem), leads.sound, leads.proper, under, isDirectory⟩

lemma foldSteps_ordered (w : Workspace) (base : Path) (directoriesOnly : Bool) (steps : List GlobStep)
    (path : Path) : Ordered w (Leads w base steps path) base.Under
      (fun visit state => foldSteps directoriesOnly steps visit state path) := by
  induction steps generalizing path with
  | nil => exact .visit fun leads => leads.under
  | cons step rest ih =>
    cases step with
    | exact name =>
      have onward (found : Bool) (entered : found = true -> rest ≠ [] -> w.isDirectory (path.child name) = true) :
          Ordered w (Leads w base (.exact name :: rest) path) base.Under (fun visit state =>
            if found then foldSteps directoriesOnly rest visit state (path.child name)
            else pure state) := by
        cases found with
        | true =>
          exact (ih (path.child name)).mono fun leads =>
            leads.next (leads.under.child (leads.plain _ mem_cons_self)) (entered rfl)
        | false => exact .nothing
      simp only [foldSteps]
      by_cases last : (rest.isEmpty && !directoriesOnly) = true
      · simp only [last, if_true]
        refine .look (.ok (w.nodeAt? (path.child name)).isSome) ?_ (fun _ => ⟨_, rfl⟩) fun found _ => onward found fun _ more => ?_
        · intro v rewritten
          rw [execute_exists?, rewritten.exists?]
        · exact absurd (List.isEmpty_iff.mp (Bool.and_eq_true_iff.mp last).1) more
      · simp only [last]
        refine .look (.ok (w.isDirectory (path.child name))) ?_ (fun _ => ⟨_, rfl⟩)
          fun found asked => onward found fun isTrue _ => ?_
        · intro v rewritten
          rw [execute_isDirectory, rewritten.isDirectory]
        · rw [Except.ok.inj asked, isTrue]
    | matching pattern =>
      refine .look (w.list path) ?_ ?_ fun names listed => ?_
      · intro v rewritten
        rw [execute_list, rewritten.list]
      · intro leads
        obtain ⟨names, listed, _⟩ := leads.entered.list
        exact ⟨names, listed⟩
      refine .look (.ok (names.filter fun name => if rest.isEmpty && !directoriesOnly then
        true else w.isDirectory (path.child name))) ?_ (fun _ => ⟨_, rfl⟩) fun wanted chosen => ?_
      · intro v rewritten
        apply execute_filterM
        intro name _
        by_cases last : (rest.isEmpty && !directoriesOnly) = true
        · rw [if_pos last, if_pos last, execute_pure]
        · rw [if_neg last, if_neg last, execute_isDirectory, rewritten.isDirectory]
      cases chosen
      refine .flatMap fun name mem => (ih (path.child name)).mono fun leads => ?_
      obtain ⟨inside, isWanted⟩ := mem_filter.mp (mem_filter.mp mem).1
      refine leads.next (leads.entered.child listed inside) fun more => ?_
      simpa [more] using isWanted
    | anywhere =>
      refine .look (.ok (w.tree.size + 1000)) ?_ (fun _ => ⟨_, rfl⟩) fun depth _ => ?_
      · intro v rewritten
        rw [execute_depthLimit, rewritten.size]
      refine Ordered.once (Ordered.nested (((foldDirectories_ordered w base depth path).mono
        fun leads : Leads w base (.anywhere :: rest) path => leads.entered)) fun inner =>
          (ih inner).mono fun sure => ?_)
      exact sure.1.next sure.2.under fun _ => sure.2.isDirectory

lemma fold_ordered (w : Workspace) (base : Path) (pattern : String) :
    Ordered w (Entered w base base /\ Tame pattern) base.Under (fun visit state => fold base pattern visit state) := by
  refine .look (parse pattern) ?_ (fun sure => sure.2.reads) fun glob read => ?_
  · intro v _
    rw [execute_ofExcept]
  refine .look (.ok (w.isDirectory base)) ?_ (fun _ => ⟨_, rfl⟩) fun isDirectory _ => ?_
  · intro v rewritten
    rw [execute_isDirectory, rewritten.isDirectory]
  cases isDirectory with
  | true =>
    refine (foldSteps_ordered w base glob.directoriesOnly glob.steps base).mono fun sure => ?_
    exact ⟨sure.2.steps read, sure.1.sound, sure.1.proper, .refl base, fun _ => sure.1.isDirectory⟩
  | false => exact .nothing

end Glob

lemma Yields.text {pattern : String} {found : List Path} {err : Option Failure}
    (yields : Yields w (fun visit state => fold root pattern visit state) found err) :
    Yields w (fun visit state => (Choice.text pattern).fold root visit state) (found.filter w.notScript) err := by
  refine yields.filter w.notScript fun {σ} visit state path {v} rewritten => ?_
  have place : v.notScript path = w.notScript path := by
    rw [Workspace.notScript, Workspace.notScript, rewritten.directory, rewritten.script]
  rw [<- place]
  rw [Choice.unless_script]
  rfl

lemma Choice.text_ordered (w : Workspace) (root : Path) (pattern : String) :
    Ordered w (Entered w root root /\ Tame pattern) (fun path => root.Under path /\ w.notScript path = true)
      (fun visit state => (Choice.text pattern).fold root visit state) := by
  obtain ⟨found, err, yields, holds⟩ := fold_ordered w root pattern
  refine ⟨found.filter w.notScript, err, yields.text, fun sure => ⟨(holds sure).1, ?_⟩⟩
  intro path mem
  obtain ⟨inside, other⟩ := mem_filter.mp mem
  exact ⟨(holds sure).2 path inside, other⟩

lemma Choice.fold_ordered (w : Workspace) (root : Path) (choice : Choice) :
    Ordered w (Entered w root root /\ Tame choice.text') root.Under
      (fun visit state => choice.fold root visit state) := by
  cases choice with
  | path path =>
    cases absolute : path.isAbsolute with
    | true =>
      rcases Glob.fold_ordered w ⟨path.anchor, []⟩ (Path.mk .relative path.names).toString with ⟨found, err, yields, _⟩
      refine ⟨found, err, yields.congr fun visit state => ?_, fun sure => ?_⟩
      · rw [Choice.fold, if_pos absolute]
      · rcases sure.2.reads with ⟨glob, read⟩
        have relative : (Path.ofString path.toString).isAbsolute = false := (parse_ok read).1
        rw [Path.isAbsolute_ofString absolute] at relative
        cases relative
    | false =>
      refine (Glob.fold_ordered w root path.toString).congr fun visit state => ?_
      rw [Choice.fold, absolute, if_neg Bool.false_ne_true]
  | text pattern =>
    obtain ⟨found, err, yields, holds⟩ := Choice.text_ordered w root pattern
    exact ⟨found, err, yields, fun sure =>
      ⟨(holds sure).1, fun path mem => ((holds sure).2 path mem).1⟩⟩

namespace Selection

lemma fold_ordered (w : Workspace) (root : Path) (choices : List Choice) :
    Ordered w (Entered w root root /\ TameChoices choices) root.Under
      (fun visit state => (Selection.many choices).fold root visit state) :=
  .flatMap fun choice mem => (choice.fold_ordered w root).mono fun sure =>
    ⟨sure.1, sure.2 choice mem⟩

lemma execute_paths {srcs : Selection} (sound : w.Sound) {found : List Path}
    (yields : Yields w (fun visit state => srcs.fold root visit state) found none) :
    (srcs.paths root).execute w = (.ok found, w) := by
  have collects : Keeps w (fun (known : List Path) path => pure (path :: known)) :=
    fun _ _ _ rewritten => rewritten
  have collected (known : List Path) : (found.foldlM (fun known path => pure (path :: known)) known : Job (List Path)) =
        pure (found.reverse ++ known) := by
    rw [foldlM_pure, foldl_flip_cons_eq_append, map_id']
  have ran := yields.runs collects [] (.refl sound)
  rw [collected] at ran
  rw [paths, bind_ok ran]
  simp

lemma yields_literal {base : Path} (dir : w.isDirectory base = true) (proper : base.Proper)
    {names : List Path} (literal : ∀ path ∈ names, path.Literal /\ path.anchor = .relative) :
    ∃ found, (∀ path, path ∈ found ↔ (∃ name, name ∈ names /\ path = ⟨base.anchor, base.names ++ name.names⟩) /\
          (w.tree.find? w.directory path).isSome = true /\ w.notScript path = true) /\
      Yields w (fun visit state => (Selection.many (names.map fun path => .text path.toString)).fold base
        visit state) found none := by
  let spelled (name : Path) : Path := ⟨base.anchor, base.names ++ name.names⟩
  let present (path : Path) : Bool := (w.tree.find? w.directory path).isSome
  let found (name : Path) : List Path := ([spelled name].filter present).filter w.notScript
  have each : ∀ name ∈ names,
      Yields w (fun visit state => (Choice.text name.toString).fold base visit state) (found name) none := by
    intro name mem
    have same : Path.mk .relative name.names = name := by rw [<- (literal name mem).2]
    refine Yields.text ⟨fun {σ visit} keeps state v rewritten => ?_⟩
    have searched := execute_fold_exact rewritten.sound (literal name mem).1 base proper
      ((rewritten.isDirectory _).trans dir) visit state
    have still := congrArg Option.isSome (rewritten.outline.find? w.directory (spelled name))
    rw [Option.isSome_map, Option.isSome_map] at still
    rw [same, rewritten.directory, <- still] at searched
    rw [searched]
    cases there : (w.tree.find? w.directory (spelled name)).isSome with
    | false =>
      have nothing : [spelled name].filter present = [] := by simp [present, there]
      rw [nothing]
      rfl
    | true =>
      have single : [spelled name].filter present = [spelled name] := by simp [present, there]
      rw [single]
      exact (Yields.visit (spelled name)).runs keeps state rewritten
  refine ⟨names.flatMap found, fun path => ?_, ?_⟩
  · simp only [found, mem_flatMap, mem_filter, mem_singleton]
    constructor
    · rintro ⟨name, mem, ⟨same, there⟩, other⟩
      exact ⟨⟨name, mem, same⟩, there, other⟩
    · rintro ⟨⟨name, mem, same⟩, there, other⟩
      exact ⟨name, mem, ⟨same, there⟩, other⟩
  · have visited := Yields.flatMap each
    refine visited.congr fun visit state => ?_
    rw [Selection.fold, Selection.choices, foldlM_map]

end Selection
end Refinery
