import Refinery.Proofs.Provenance.Obsolete
import Refinery.Repository

namespace Refinery

open List Job FileJob Provenance

/-!
# The cache of clones

The directory of a clone has the last name of its address.  If it is there, it is taken for a clone of that
address, so two addresses with one last name share a clone.
-/

namespace Repository

variable {w v between next last : Workspace} {url : String} {urls done : List String}
  {commands more : List Command} {srcs others : List Source} {branch : Option String}
  {directory path : Path}

/-! ## What clones leave behind -/

structure Works (commands : List Command) (sources : List Source) (v next : Workspace) : Prop where
  settings : next.settings = v.settings
  commands : next.journal.commands = v.journal.commands ++ commands
  sources : next.session.record.sources = v.session.record.sources ++ sources

lemma Works.trans (first : Works commands srcs v between) (second : Works more others between next) :
    Works (commands ++ more) (srcs ++ others) v next where
  settings := second.settings.trans first.settings
  commands := by rw [second.commands, first.commands, append_assoc]
  sources := by rw [second.sources, first.sources, append_assoc]

lemma Works.of_same (settings : next.settings = v.settings) (journal : next.journal = v.journal)
    (record : next.session.record = v.session.record) : Works [] [] v next :=
  ⟨settings, by rw [journal, append_nil], by rw [record, append_nil]⟩

lemma Works.of_command {words : List String} {directory : Option String} {completed : Completed}
    (ran : (runChecked words directory).execute v = (.ok completed, next)) : Works [{ words, directory }] [] v next := by
  obtain ⟨answer, after, first, second⟩ := of_bind_ok ran
  rw [execute_run] at first
  split at first
  · cases first
  · cases first
    split at second
    · cases second
    · cases second
      exact ⟨rfl, rfl, (append_nil _).symm⟩

def clonedInto? (directory : String) (command : Command) : Option String :=
  match command.words with
  | ["git", "clone", _, _, url, goal] => if goal = directory then some url else none
  | _ => none

/-- The address of the first clone into a directory. -/
def origin? (commands : List Command) (directory : String) : Option String :=
  commands.findSome? (clonedInto? directory)

lemma origin?_append (commands more : List Command) (directory : String) :
    origin? (commands ++ more) directory = (origin? commands directory).or (origin? more directory) := by
  simp [origin?, List.findSome?_append]

/-! ## One clone -/

def cachePath (settings : List (String × String)) : Path :=
  Path.ofString ((settings.lookup "HOME").getD "/") / ".cache" / "synthtool"

/-- The directory of the cache for the clone of an address. -/
def cloneDirectory (w : Workspace) (url : String) : Path :=
  cachePath w.settings / (Path.ofString url).stem

/-- What a clone does before it looks for its directory. -/
def opening : Job Unit := do
  let _ <- preclones
  let _ <- cacheDirectory

lemma preclones_works {known : Preclones} (ran : preclones.execute v = (.ok known, next)) : Works [] [] v next := by
  rw [preclones, bind_ok (execute_session v)] at ran
  split at ran
  · cases ran
    exact .of_same rfl rfl rfl
  · rcases of_bind_ok ran with ⟨_, _, asked, onward⟩
    cases asked
    split at onward
    · cases onward
      exact .of_same rfl rfl rfl
    next file _ =>
      obtain ⟨text, after, looked, parsing⟩ := of_bind_ok onward
      obtain ⟨_, _, parsed, noted⟩ := of_bind_ok parsing
      have reads : FileJob false (readText file) := readText file
      have same := reads.idle rfl v
      rw [looked] at same
      rw [execute_ofExcept, show after = v from same] at parsed
      rw [<- (Prod.mk.inj parsed).2] at noted
      cases noted
      exact .of_same rfl rfl rfl

lemma cacheDirectory_works {cache : Path} (ran : cacheDirectory.execute v = (.ok cache, next)) :
    cache = cachePath v.settings /\ Works [] [] v next := by
  have home : home.execute v = (.ok (Path.ofString ((v.settings.lookup "HOME").getD "/")), v) := rfl
  rw [cacheDirectory, bind_ok home] at ran
  obtain ⟨_, _, made, ended⟩ := of_bind_ok ran
  cases ended
  have file : FileJob true (makeDirectories (cachePath v.settings)) := makeDirectories _ _
  have frame := file.frame v
  change (Job.makeDirectories (cachePath v.settings)).execute v = _ at made
  rw [made] at frame
  rw [show next = { v with tree := next.tree } from frame]
  exact ⟨rfl, .of_same rfl rfl rfl⟩

lemma refresh_works (ran : (refresh url directory).execute v = (.ok branch, next)) :
    ∃ commands, Works commands [] v next /\ ∀ goal, origin? commands goal =
      if (v.nodeAt? directory).isSome = false /\ directory.toString = goal then some url else none := by
  rw [refresh, bind_ok (execute_exists? directory v)] at ran
  cases there : (v.nodeAt? directory).isSome <;> rw [there] at ran
  · rcases of_bind_ok ran with ⟨_, _, cloned, answered⟩
    cases answered
    exact ⟨_, .of_command cloned, fun goal => by simp [origin?, clonedInto?]⟩
  · rcases of_bind_ok ran with ⟨_, _, listed, afterBranch⟩
    obtain ⟨_, _, branches, found⟩ := of_bind_ok listed
    cases found
    obtain ⟨_, _, checkedOut, afterCheckout⟩ := of_bind_ok afterBranch
    obtain ⟨_, _, pulled, answered⟩ := of_bind_ok afterCheckout
    cases answered
    have works := (Works.of_command branches).trans ((Works.of_command checkedOut).trans (Works.of_command pulled))
    exact ⟨_, works, fun goal => rfl⟩

lemma reset_works {α : Type} {directory : String} {rest : Job α} {answer : α}
    (ran : (match branch.filter (· ≠ "") with
      | some commit => do
        let _ <- runChecked ["git", "reset", "--hard", commit] (some directory)
        rest
      | none => rest).execute v = (.ok answer, next)) :
    ∃ more after, Works more [] v after /\ (∀ goal, origin? more goal = none) /\ rest.execute after = (.ok answer, next) := by
  split at ran
  · rcases of_bind_ok ran with ⟨_, after, reset, onward⟩
    exact ⟨_, after, .of_command reset, fun _ => rfl, onward⟩
  · exact ⟨[], v, .of_same rfl rfl rfl, fun _ => rfl, ran⟩

lemma noteSource_works (ran : (noteSource url directory).execute v = (.ok (), next)) :
    ∃ commands src, (∀ goal, origin? commands goal = none) /\ src.remote = url /\
      src.localPath = directory.toString /\ Works commands [.git src] v next := by
  obtain ⟨latest, between, looked, recorded⟩ := of_bind_ok ran
  obtain ⟨answer, after, asked, cut⟩ := of_bind_ok looked
  have same : after = between := by
    split at cut
    · exact (Prod.mk.inj cut).2
    · cases cut
  subst same
  rw [<- (Prod.mk.inj recorded).2]
  exact ⟨_, _, fun _ => rfl, rfl, rfl, (Works.of_command asked).trans ⟨rfl, (append_nil _).symm, rfl⟩⟩

def Unknown (v : Workspace) (url : String) : Prop :=
  ((preclone? url).execute v).1.toOption.join.filter (· ≠ "") = none

lemma prepare_works (unknown : Unknown v url) (ran : (prepare url none none false).execute v = (.ok (directory, branch), next)) :
    ∃ commands, Works commands [] v next /\ directory = cloneDirectory v url /\ ∀ goal, origin? commands goal =
        if ((opening.execute v).2.nodeAt? directory).isSome = false /\ directory.toString = goal then some url else none := by
  obtain ⟨preclone, ready, looked, onward⟩ := of_bind_ok ran
  have absent : preclone.filter (· ≠ "") = none := by
    rwa [Unknown, looked] at unknown
  rw [absent] at onward
  obtain ⟨cache, opened, made, afterwards⟩ := of_bind_ok onward
  obtain ⟨known, _, asked, answered⟩ := of_bind_ok looked
  cases answered
  obtain ⟨rfl, second⟩ := cacheDirectory_works made
  have first := preclones_works asked
  have isOpened : (opening.execute v).2 = opened := by
    rw [opening, bind_ok asked, bind_ok made]
    rfl
  rw [bind_ok (execute_exists? _ opened), first.settings] at afterwards
  obtain ⟨_, _, refreshed, ended⟩ := of_bind_ok afterwards
  obtain ⟨commands, third, origins⟩ := refresh_works refreshed
  rw [isOpened, <- (Prod.mk.inj (Except.ok.inj (Prod.mk.inj ended).1)).1, <- (Prod.mk.inj ended).2]
  exact ⟨commands, first.trans (second.trans third), rfl, origins⟩

lemma clone_works (unknown : Unknown v url) (ran : (clone url).execute v = (.ok path, next)) :
    ∃ commands src, Works commands [.git src] v next /\ src.remote = url /\
      src.localPath = (cloneDirectory v url).toString /\ ∀ goal, origin? commands goal =
        if ((opening.execute v).2.nodeAt? (cloneDirectory v url)).isSome = false /\
          (cloneDirectory v url).toString = goal then some url else none := by
  obtain ⟨⟨directory, branch⟩, between, prepared, settled⟩ := of_bind_ok ran
  obtain ⟨commands, works, isDirectory, origins⟩ := prepare_works unknown prepared
  obtain ⟨more, later, moreWorks, noClone, rest⟩ := reset_works settled
  obtain ⟨_, added, rooted, noting⟩ := of_bind_ok rest
  have addWorks : Works [] [] later added := by
    rw [<- (Prod.mk.inj rooted).2]
    exact .of_same rfl rfl rfl
  obtain ⟨_, _, noted, ended⟩ := of_bind_ok noting
  rw [(Prod.mk.inj ended).2] at noted
  obtain ⟨lastCommands, src, noneLast, remote, localPath, lastWorks⟩ := noteSource_works noted
  rw [isDirectory] at origins localPath
  refine ⟨_, src, works.trans (moreWorks.trans (addWorks.trans lastWorks)), remote, localPath, fun goal => ?_⟩
  rw [origin?_append, origins, origin?_append, nil_append, noClone, noneLast]
  simp

/-! ## A sequence of clones -/

def cloneEach : List String -> Job Unit
  | [] => pure ()
  | url :: rest => do
    let _ <- clone url
    cloneEach rest

lemma cloneEach_append (done rest : List String) : cloneEach (done ++ rest) = cloneEach done >>= fun _ => cloneEach rest := by
  induction done with
  | nil => rw [cloneEach, pure_bind, nil_append]
  | cons url others ih => simp only [cons_append, cloneEach, ih, bind_assoc]

/-- The workspace after some addresses were cloned. -/
def cloned (w : Workspace) (urls : List String) : Workspace :=
  ((cloneEach urls).execute w).2

/-- The commands that were run from one workspace to a later one. -/
def commandsSince (w later : Workspace) : List Command :=
  later.journal.commands.drop w.journal.commands.length

lemma clone_after (ran : (cloneEach urls).execute w = (.ok (), last)) (early : done ++ [url] <+: urls) :
    ∃ path, (clone url).execute (cloned w done) = (.ok path, cloned w (done ++ [url])) := by
  obtain ⟨rest, rfl⟩ := early
  rw [cloneEach_append] at ran
  obtain ⟨_, after, first, _⟩ := of_bind_ok ran
  rw [cloned, cloned, first]
  rw [cloneEach_append] at first
  obtain ⟨_, middle, before, second⟩ := of_bind_ok first
  obtain ⟨path, _, cloneRan, ended⟩ := of_bind_ok second
  rw [(Prod.mk.inj ended).2] at cloneRan
  rw [before]
  exact ⟨path, cloneRan⟩

def firstShared (w : Workspace) (urls : List String) (url : String) : Option String :=
  urls.find? fun other => (cloneDirectory w other).toString = (cloneDirectory w url).toString

structure Cached (w : Workspace) (urls : List String) (v : Workspace) : Prop where
  settings : v.settings = w.settings
  origins : ∃ commands, v.journal.commands = w.journal.commands ++ commands /\
    ∀ url, origin? commands (cloneDirectory w url) = firstShared w urls url
  sources : ∃ sources : List GitSource, v.session.record.sources = w.session.record.sources ++ sources.map .git /\
    sources.map (fun source => (source.remote, source.localPath)) = urls.map fun url => (url, (cloneDirectory w url).toString)

lemma Cached.nothing (w : Workspace) : Cached w [] w where
  settings := rfl
  origins := ⟨[], (append_nil _).symm, fun _ => rfl⟩
  sources := ⟨[], (append_nil _).symm, rfl⟩

lemma Cached.origin (cached : Cached w urls v) (url : String) :
    origin? (commandsSince w v) (cloneDirectory w url) = firstShared w urls url := by
  obtain ⟨commands, since, origins⟩ := cached.origins
  rw [commandsSince, since, drop_left]
  exact origins url

def Tended (w v : Workspace) (url : String) : Prop :=
  ((opening.execute v).2.nodeAt? (cloneDirectory w url)).isSome = (origin? (commandsSince w v) (cloneDirectory w url)).isSome

lemma Cached.step (cached : Cached w done v) (unknown : Unknown v url)
    (tended : Tended w v url) (ran : (clone url).execute v = (.ok path, next)) : Cached w (done ++ [url]) next := by
  have same (each : String) : cloneDirectory v each = cloneDirectory w each := by
    rw [cloneDirectory, cached.settings, <- cloneDirectory]
  obtain ⟨commands, src, works, remote, localPath, clones⟩ := clone_works unknown ran
  rw [Tended, cached.origin] at tended
  rw [same] at localPath clones
  rw [tended] at clones
  refine ⟨works.settings.trans cached.settings, ?_, ?_⟩
  · rcases cached.origins with ⟨earlier, journal, origins⟩
    refine ⟨earlier ++ commands, by rw [works.commands, journal, append_assoc], fun each => ?_⟩
    rw [origin?_append, origins, clones, firstShared, firstShared, firstShared, List.find?_append]
    by_cases shared : (cloneDirectory w url).toString = (cloneDirectory w each).toString
    · rw [shared]
      cases done.find? _ <;> simp [shared]
    · simp [shared]
  · rcases cached.sources with ⟨earlier, record, addresses⟩
    refine ⟨earlier ++ [src], ?_, ?_⟩
    · rw [works.sources, record, append_assoc, map_append]
      rfl
    · rw [map_append, addresses, map_append]
      simp [remote, localPath]

/-- Clones one after another that end well, from an empty cache and without precloned repositories. -/
structure CleanRun (w : Workspace) (urls : List String) (last : Workspace) : Prop where
  unknown : ∀ done, done <+: urls -> ∀ url ∈ urls, Unknown (cloned w done) url
  tended : ∀ done, done <+: urls -> ∀ url ∈ urls, Tended w (cloned w done) url
  ran : (cloneEach urls).execute w = (.ok (), last)

lemma CleanRun.cached (run : CleanRun w urls last) (early : done <+: urls) : Cached w done (cloned w done) := by
  induction done using List.reverseRecOn with
  | nil => exact Cached.nothing w
  | append_singleton done url ih =>
    have before := (prefix_append done [url]).trans early
    have mem : url ∈ urls := early.subset (by simp)
    obtain ⟨path, cloneRan⟩ := clone_after run.ran early
    exact (ih before).step (run.unknown done before url mem) (run.tended done before url mem) cloneRan

/-- Every address has a directory of its own. -/
def Separate (w : Workspace) (urls : List String) : Prop :=
  ∀ first ∈ urls, ∀ second ∈ urls, (cloneDirectory w first).toString = (cloneDirectory w second).toString -> first = second

lemma separate_iff : Separate w urls ↔ ∀ url ∈ urls, firstShared w urls url = some url := by
  constructor
  · intro separate url mem
    cases found : firstShared w urls url with
    | none => exact absurd (List.find?_eq_none.mp found url mem) (by simp)
    | some first =>
      have same := List.find?_some found
      rw [separate first (List.mem_of_find?_eq_some found) url mem (by simpa using same)]
  · intro own first inFirst second inSecond same
    have shared := own second inSecond
    rw [firstShared, <- same] at shared
    exact Option.some.inj ((own first inFirst).symm.trans shared)

/-- From an empty cache, with no precloned repository and no failing command: the directory of each clone was
made from the same address, and so every recorded address is the one that the files came from, exactly if no
two addresses have one last name. -/
theorem clones_unmixed_iff (run : CleanRun w urls last) : ((∀ done url, done ++ [url] <+: urls ->
        origin? (commandsSince w (cloned w (done ++ [url]))) (cloneDirectory w url) = some url) ↔ Separate w urls) /\
    ∃ sources : List GitSource, last.session.record.sources = w.session.record.sources ++ sources.map .git /\
      sources.map GitSource.remote = urls /\ ((∀ source, source ∈ sources ->
          origin? (commandsSince w last) source.localPath = some source.remote) ↔ Separate w urls) := by
  constructor
  · constructor
    · intro unmixed
      rw [separate_iff]
      intro url member
      rcases List.append_of_mem member with ⟨done, rest, parts⟩
      have early : done ++ [url] <+: urls := ⟨rest, by simp [parts]⟩
      have first := unmixed done url early
      rw [(run.cached early).origin, firstShared] at first
      rw [parts, firstShared, List.append_cons, List.find?_append, first, Option.some_or]
    · intro separate done url early
      have separateDone : Separate w (done ++ [url]) := fun first inFirst second inSecond =>
        separate first (early.subset inFirst) second (early.subset inSecond)
      rw [(run.cached early).origin]
      exact separate_iff.mp separateDone url (by simp)
  · have isLast : cloned w urls = last := by rw [cloned, run.ran]
    have cached := run.cached List.prefix_rfl
    rw [isLast] at cached
    rcases cached.sources with ⟨sources, since, addresses⟩
    have remotes := congrArg (List.map Prod.fst) addresses
    rw [List.map_map, List.map_map] at remotes
    refine ⟨sources, since, remotes.trans (List.map_id urls), ?_⟩
    rw [separate_iff]
    -- A source and its address are at one position, so both sides speak of the same pairs.
    have pairs : ∀ url text, (∃ source, source ∈ sources /\ source.remote = url /\
        source.localPath = text) ↔ url ∈ urls /\ text = (cloneDirectory w url).toString := by
      intro url text
      have member : (url, text) ∈ sources.map (fun source => (source.remote, source.localPath)) ↔
          (url, text) ∈ urls.map fun url => (url, (cloneDirectory w url).toString) := by
        rw [addresses]
      simpa [eq_comm] using member
    constructor
    · intro came url member
      rcases (pairs url _).mpr ⟨member, rfl⟩ with ⟨source, inside, remote, localPath⟩
      rw [<- cached.origin, <- localPath, came source inside, remote]
    · intro first source inside
      rcases (pairs _ _).mp ⟨source, inside, rfl, rfl⟩ with ⟨member, localPath⟩
      rw [localPath, cached.origin]
      exact first source.remote member

def freshHome (repositories : List (String × String)) : Workspace where
  tree := ⟨[(["h"], .directory), (["w"], .directory)]⟩
  directory := ["w"]
  settings := [("HOME", "/h")]
  rules := { start := "git log", output := "0\n" } :: repositories.map fun (repository, name) =>
    { start := "git clone --recurse-submodules --single-branch " ++ address false repository
      changes := [(["h", ".cache", "synthtool", name, "README"], .put (.file ⟨.empty, 0o644, 0⟩))] }

def twoNames : Workspace :=
  freshHome [("a/x", "x"), ("a/y", "y")]

/-- Two repositories of different names, the first cloned again. -/
theorem clones_unmixed_again :
    let urls := ["a/x", "a/y", "a/x"].map (address false)
    CleanRun twoNames urls (cloned twoNames urls) /\ ∀ done url, done ++ [url] <+: urls ->
        origin? (commandsSince twoNames (cloned twoNames (done ++ [url]))) (cloneDirectory twoNames url) = some url := by
  intro urls
  have clean : ∀ done, done ∈ urls.inits -> ∀ url, url ∈ urls ->
      ((preclone? url).execute (cloned twoNames done)).1.toOption.join.filter (· ≠ "") = none /\
      ((opening.execute (cloned twoNames done)).2.nodeAt? (cloneDirectory twoNames url)).isSome =
        (origin? (commandsSince twoNames (cloned twoNames done)) (cloneDirectory twoNames url)).isSome := by
    decide +kernel
  have run : CleanRun twoNames urls (cloned twoNames urls) :=
    ⟨fun done early url member => (clean done ((List.mem_inits done urls).mpr early) url member).1,
      fun done early url member => (clean done ((List.mem_inits done urls).mpr early) url member).2,
      run_eq_of_toOption (by decide +kernel)⟩
  have separate : ∀ first, first ∈ urls -> ∀ second, second ∈ urls ->
      (cloneDirectory twoNames first).toString = (cloneDirectory twoNames second).toString -> first = second := by decide +kernel
  exact ⟨run, (clones_unmixed_iff run).1.mpr separate⟩

/-- The second of two repositories with one name is not cloned. -/
theorem clones_mixed :
    let home := freshHome [("a/x", "x"), ("b/x", "x")]
    ¬ ∀ done url, done ++ [url] <+: ["a/x", "b/x"].map (address false) ->
      origin? (commandsSince home (cloned home (done ++ [url]))) (cloneDirectory home url) = some url := by
  intro home unmixed
  have found := unmixed [address false "a/x"] (address false "b/x") (by decide)
  revert found
  decide +kernel

end Repository
end Refinery
