import Refinery.Proofs.Transfer.Moving

namespace Refinery.Transfer

open List Job Refinery.Tree

/-!
# Moving sources together or one by one

A move of several sources carries two things from one source to the next: whether anything was copied, which
makes it pass over directories, and what the patterns before found.  So it does what one move for each source
does only if each is faithful.
-/

variable {α : Type}

/-- Two runs with one answer that leave one view of the tree. -/
structure Agree (first second : Except Failure α × Workspace) : Prop where
  answer : first.1 = second.1
  view : Same first.2.tree second.2.tree

def moveSource (destination : Path) (excludes : List Choice) (merge : Option Merge) (source : Path) : Job Bool :=
  move (.many [.path source]) (some destination) (.many excludes) merge

/-- One move for each source.  The answer tells whether one of them copied anything. -/
def moveEach (destination : Path) (excludes : List Choice) (merge : Option Merge) : List Path -> Job Bool
  | [] => pure false
  | source :: rest => do
    let copied <- moveSource destination excludes merge source
    let later <- moveEach destination excludes merge rest
    return copied || later

/-- What is asked of a source, when something was `copied` before or not and patterns are `left`.  If it is a
directory that is passed over, its own move ends as looking up these patterns does and changes nothing.
Otherwise its own move does the same with these patterns as with the given ones; whether it copies anything
matters only if nothing was copied before. -/
def Faithful (destination : Path) (excludes : List Choice) (merge : Option Merge) (copied : Bool)
    (left : List Choice) (source : Path) (w : Workspace) : Prop :=
  let own := (moveSource destination excludes merge source).execute w
  if copied && w.isDirectory source then
    own.1.map (fun _ => ()) = ((exclusionsAt (.many left) source).execute w).1.map (fun _ => ()) /\ Same own.2.tree w.tree
  else
    let other := (moveSource destination left merge source).execute w
    other.1.map (copied || ·) = own.1.map (copied || ·) /\ Same other.2.tree own.2.tree

/-- Every source is faithful after the own moves of those before it. -/
def Splits (destination : Path) (excludes : List Choice) (merge : Option Merge) :
    Bool -> List Choice -> List Path -> Workspace -> Prop
  | _, _, [], _ => True
  | copied, left, source :: rest, w =>
    let own := (moveSource destination excludes merge source).execute w
    Faithful destination excludes merge copied left source w /\ ∀ answer found, own.1 = .ok answer ->
        ((exclusionsAt (.many left) source).execute w).1 = .ok found ->
        Splits destination excludes merge (copied || answer) (found.map .path) rest own.2

/-! ## One source -/

variable {dest : Path} {merge : Option Merge} {w v : Workspace} {source : Path}
  {copied answer : Bool} {skips left : List Choice}

lemma execute_moveSource (sound : w.Sound) (given : Given w source) (skips : List Choice) :
    (moveSource dest skips merge source).execute w = (((moveOne (some dest) merge (false, .many skips) source).execute
          (w.noting (skips.map Choice.text'))).1.map Prod.fst, ((moveOne (some dest) merge (false, .many skips) source).execute
          (w.noting (skips.map Choice.text'))).2) := by
  have moved := execute_move_given sound (some dest) skips merge [source] fun other mem => by
      rwa [mem_singleton.mp mem]
  refine moved.trans ?_
  rw [execute_moveFrom_cons]
  rcases (moveOne (some dest) merge (false, .many skips) source).execute (w.noting (skips.map Choice.text')) with ⟨outcome, after⟩
  cases outcome <;> rfl

lemma moveSource_alike (dest : Path) (merge : Option Merge) (skips : List Choice)
    (alike : w.Alike v) (given : Given w source) : ((moveSource dest skips merge source).execute w).1 =
        ((moveOne (some dest) merge (false, .many skips) source).execute v).1.map Prod.fst /\
      ((moveSource dest skips merge source).execute w).2.Alike
        ((moveOne (some dest) merge (false, .many skips) source).execute v).2 := by
  have step := FileJob.moveOne (some dest) merge (false, .many skips) source
  have noted : (w.noting (skips.map Choice.text')).Alike v :=
    ⟨(alike.sound.noting _).otherSound, alike.otherSound, alike.same, alike.directory, alike.roots, alike.script⟩
  rw [execute_moveSource alike.sound given]
  exact ⟨by rw [step.answer noted], step.alike noted⟩

lemma given_moveSource {other : Path} (alike : w.Alike v) (given : Given w source) (later : Given w other) :
    Given ((moveSource dest skips merge source).execute w).2 other := by
  have step := FileJob.moveOne (some dest) merge (false, .many skips) source
  have own := (moveSource_alike dest merge skips alike given).2
  refine ⟨later.literal, ?_⟩
  rw [own.directory, Tree.find?_congr own.same]
  apply step.present alike.otherSound
  rw [<- alike.directory, <- Tree.find?_congr alike.same]
  exact later.present

lemma execute_exclusionsAt_nil (source : Path) (w : Workspace) : (exclusionsAt (.many []) source).execute w = (.ok [], w) := rfl

lemma faithful_self (turned : (copied && w.isDirectory source) = false) : Faithful dest skips merge copied skips source w := by
  rw [Faithful, turned, if_neg Bool.false_ne_true]
  exact ⟨rfl, Same.refl _⟩

lemma copyOne_passed (found : List Path) (dir : w.isDirectory source = true) :
    (copyOne dest merge true found source).execute w = (.ok true, w) := by
  rw [copyOne, bind_ok (execute_isDirectory _ w), dir]
  rfl

private lemma map_false_or (outcome : Except Failure Bool) : outcome.map (false || ·) = outcome := by
  cases outcome <;> rfl

lemma copyOne_copied (found : List Path) (turned : (copied && w.isDirectory source) = false) :
    (copyOne dest merge copied found source).execute w = (((copyOne dest merge false found source).execute w).1.map (copied || ·),
        ((copyOne dest merge false found source).execute w).2) := by
  rw [copyOne, copyOne, bind_ok (execute_isDirectory _ w), bind_ok (execute_isDirectory _ w)]
  cases dir : w.isDirectory source with
  | true =>
    cases copied with
    | true =>
      rw [dir] at turned
      cases turned
    | false => exact Prod.ext (map_false_or _).symm rfl
  | false =>
    by_cases hit : found.contains source = true
    · simp only [hit, Bool.false_eq_true, if_false, if_true, execute_pure]
      simp [Except.map]
    · simp only [hit, Bool.false_eq_true, if_false, execute_bind]
      obtain ⟨outcome, after⟩ := (placeFile source dest merge).execute w
      cases outcome with
      | error err => rfl
      | ok value => simp [Except.map]

lemma moveOne_copied (left : Selection) (turned : (copied && w.isDirectory source) = false) :
    (moveOne (some dest) merge (copied, left) source).execute w =
      (((moveOne (some dest) merge (false, left) source).execute w).1.map fun state => (copied || state.1, state.2),
        ((moveOne (some dest) merge (false, left) source).execute w).2) := by
  rw [execute_moveOne, execute_moveOne]
  cases ((exclusionsAt left source).execute w).1 with
  | error err => rfl
  | ok found =>
    simp only [copyOne_copied found turned]
    cases ((copyOne dest merge false found source).execute w).1 <;> rfl

private lemma same_iff {first second third : Tree} (same : Same first second) :
    Same third first ↔ Same second third :=
  ⟨fun other => (other.trans same).symm, fun other => (same.trans other).symm⟩

lemma faithful_iff (alike : w.Alike v) (given : Given w source) : Faithful dest skips merge copied left source w ↔
      ((moveOne (some dest) merge (copied, .many left) source).execute v).1.map Prod.fst =
          ((moveSource dest skips merge source).execute w).1.map (copied || ·) /\
        Same ((moveOne (some dest) merge (copied, .many left) source).execute v).2.tree
          ((moveSource dest skips merge source).execute w).2.tree := by
  have dir : w.isDirectory source = v.isDirectory source := by
    rw [Workspace.isDirectory, Workspace.isDirectory, alike.nodeAt?]
  have looked : FileJob true (exclusionsAt (.many left) source) := FileJob.exclusionsAt _ source
  rw [Faithful]
  generalize (moveSource dest skips merge source).execute w = own
  cases turned : copied && w.isDirectory source with
  | true =>
    obtain ⟨rfl, isDirectory⟩ := Bool.and_eq_true_iff.mp turned
    rw [if_pos rfl, looked.answer alike, execute_moveOne, same_iff alike.same]
    cases ((exclusionsAt (.many left) source).execute v).1 with
    | error err =>
      cases own.1 with
      | error other => simp [Except.map, eq_comm]
      | ok answer => simp [Except.map]
    | ok found =>
      simp only [copyOne_passed found (dir ▸ isDirectory)]
      refine and_congr ?_ Iff.rfl
      cases own.1 with
      | error other => simp [Except.map]
      | ok answer => exact iff_of_true rfl rfl
  | false =>
    rw [dir] at turned
    obtain ⟨answer, after⟩ := moveSource_alike dest merge left alike given
    rw [if_neg Bool.false_ne_true, moveOne_copied (.many left) turned]
    simp only [answer]
    have answers : ∀ outcome : Except Failure (Bool × Selection), (outcome.map Prod.fst).map (copied || ·) =
          (outcome.map fun state => (copied || state.1, state.2)).map Prod.fst := by
      intro outcome
      cases outcome <;> rfl
    rw [answers]
    exact and_congr Iff.rfl ⟨fun same => after.same.symm.trans same, fun same => after.same.trans same⟩

lemma moveOne_next {done : Bool} {left next : Selection}
    (ended : ((moveOne (some dest) merge (copied, left) source).execute w).1 = .ok (done, next)) :
    ∃ found, ((exclusionsAt left source).execute w).1 = .ok found /\ next = Selection.ofPaths found := by
  rw [execute_moveOne] at ended
  cases looked : ((exclusionsAt left source).execute w).1 with
  | error err =>
    rw [looked] at ended
    cases ended
  | ok found =>
    rw [looked] at ended
    cases answered : ((copyOne dest merge copied found source).execute w).1 with
    | error err =>
      simp only [answered] at ended
      cases ended
    | ok value =>
      simp only [answered] at ended
      cases ended
      exact ⟨found, rfl, rfl⟩

lemma moveOne_of_faithful (alike : w.Alike v) (given : Given w source) (faithful : Faithful dest skips merge copied left source w)
    (ended : ((moveSource dest skips merge source).execute w).1 = .ok answer) :
    ∃ found, ((exclusionsAt (.many left) source).execute w).1 = .ok found /\
      ((moveOne (some dest) merge (copied, .many left) source).execute v).1 =
        .ok (copied || answer, .many (found.map .path)) /\ ((moveSource dest skips merge source).execute w).2.Alike
        ((moveOne (some dest) merge (copied, .many left) source).execute v).2 := by
  have looked : FileJob true (exclusionsAt (.many left) source) := FileJob.exclusionsAt _ source
  have step := FileJob.moveOne (some dest) merge (copied, .many left) source
  obtain ⟨answers, same⟩ := (faithful_iff alike given).mp faithful
  have fresh := FileJob.moveOne (some dest) merge (false, .many skips) source
  have own := (moveSource_alike dest merge skips alike given).2
  rw [ended] at answers
  cases stepped : ((moveOne (some dest) merge (copied, .many left) source).execute v).1 with
  | error err =>
    rw [stepped] at answers
    cases answers
  | ok state =>
    rw [stepped] at answers
    obtain ⟨done, next⟩ := state
    cases answers
    obtain ⟨found, lookedUp, rfl⟩ := moveOne_next stepped
    refine ⟨found, by rw [looked.answer alike]; exact lookedUp, rfl, ?_⟩
    refine ⟨own.sound, step.keeps alike.otherSound, same.symm, ?_, ?_, ?_⟩
    · rw [own.directory, step.frame, fresh.frame]
    · rw [own.roots, step.frame, fresh.frame]
    · rw [own.script, step.frame, fresh.frame]

/-! ## All sources -/

lemma execute_moveEach_cons (dest : Path) (skips : List Choice) (merge : Option Merge)
    (source : Path) (rest : List Path) (w : Workspace) :
    (moveEach dest skips merge (source :: rest)).execute w = match (moveSource dest skips merge source).execute w with
      | (.ok answer, after) =>
        (((moveEach dest skips merge rest).execute after).1.map (answer || ·), ((moveEach dest skips merge rest).execute after).2)
      | (.error err, after) => (.error err, after) := by
  rw [moveEach, execute_bind]
  obtain ⟨outcome, after⟩ := (moveSource dest skips merge source).execute w
  cases outcome with
  | error err => rfl
  | ok answer =>
    simp only [execute_bind]
    obtain ⟨later, last⟩ := (moveEach dest skips merge rest).execute after
    cases later <;> rfl

def AgreeFrom (destination : Path) (excludes : List Choice) (merge : Option Merge) (copied : Bool)
    (left : List Choice) (sources : List Path) (w v : Workspace) : Prop :=
  ((moveFrom (some destination) merge (copied, .many left) sources).execute v).1 =
      ((moveEach destination excludes merge sources).execute w).1.map (copied || ·) /\
    Same ((moveFrom (some destination) merge (copied, .many left) sources).execute v).2.tree
      ((moveEach destination excludes merge sources).execute w).2.tree

lemma agreeFrom_nil (dest : Path) (skips : List Choice) (merge : Option Merge)
    (copied : Bool) (left : List Choice) (alike : w.Alike v) : AgreeFrom dest skips merge copied left [] w v :=
  ⟨by simp [moveFrom, moveEach, Except.map], alike.same.symm⟩

lemma agreeFrom_singleton (alike : w.Alike v) (given : Given w source) :
    AgreeFrom dest skips merge copied left [source] w v ↔ Faithful dest skips merge copied left source w := by
  rw [faithful_iff alike given, AgreeFrom, execute_moveFrom_cons, execute_moveEach_cons]
  rcases (moveOne (some dest) merge (copied, .many left) source).execute v with ⟨stepped, after⟩
  obtain ⟨ended, last⟩ := (moveSource dest skips merge source).execute w
  cases stepped <;> cases ended <;> simp [moveFrom, moveEach, Except.map]

lemma agreeFrom_cons_error {err : Failure} (rest : List Path) (alike : w.Alike v) (given : Given w source)
    (faithful : Faithful dest skips merge copied left source w)
    (ended : ((moveSource dest skips merge source).execute w).1 = .error err) :
    AgreeFrom dest skips merge copied left (source :: rest) w v := by
  obtain ⟨answers, same⟩ := (faithful_iff alike given).mp faithful
  rw [AgreeFrom, execute_moveFrom_cons, execute_moveEach_cons]
  rcases stepped : (moveOne (some dest) merge (copied, .many left) source).execute v with ⟨outcome, after⟩
  rcases ran : (moveSource dest skips merge source).execute w with ⟨ending, last⟩
  rw [ran] at ended answers same
  rw [stepped] at answers same
  cases ended
  cases outcome with
  | ok state => cases answers
  | error other => exact ⟨answers, same⟩

lemma agreeFrom_cons_ok {found : List Path} (rest : List Path)
    (ended : ((moveSource dest skips merge source).execute w).1 = .ok answer)
    (stepped : ((moveOne (some dest) merge (copied, .many left) source).execute v).1 =
      .ok (copied || answer, .many (found.map .path))) : AgreeFrom dest skips merge copied left (source :: rest) w v ↔
      AgreeFrom dest skips merge (copied || answer) (found.map .path) rest ((moveSource dest skips merge source).execute w).2
        ((moveOne (some dest) merge (copied, .many left) source).execute v).2 := by
  rw [AgreeFrom, AgreeFrom, execute_moveFrom_cons, execute_moveEach_cons]
  rcases step : (moveOne (some dest) merge (copied, .many left) source).execute v with ⟨outcome, after⟩
  rcases own : (moveSource dest skips merge source).execute w with ⟨ending, last⟩
  rw [own] at ended
  rw [step] at stepped
  cases ended
  cases stepped
  have answers : ∀ outcome : Except Failure Bool,
      (outcome.map (answer || ·)).map (copied || ·) = outcome.map (copied || answer || ·) := by
    intro outcome
    cases outcome <;> simp [Except.map, Bool.or_assoc]
  simp only [answers]

lemma agreeFrom_iff (dest : Path) (skips : List Choice) (merge : Option Merge)
    (copied : Bool) (left : List Choice) (srcs : List Path) (alike : w.Alike v) (given : ∀ source ∈ srcs, Given w source) :
    (∀ count, AgreeFrom dest skips merge copied left (srcs.take count) w v) ↔ Splits dest skips merge copied left srcs w := by
  induction srcs generalizing copied left w v with
  | nil =>
    refine iff_of_true (fun count => ?_) trivial
    rw [take_nil]
    exact agreeFrom_nil dest skips merge copied left alike
  | cons source rest ih =>
    have here := given source mem_cons_self
    have later : ∀ other ∈ rest, Given ((moveSource dest skips merge source).execute w).2 other :=
      fun other mem => given_moveSource alike here (given other (mem_cons_of_mem source mem))
    constructor
    · intro agree
      have faithful := (agreeFrom_singleton alike here).mp (agree 1)
      refine ⟨faithful, ?_⟩
      intro answer found ended looked
      obtain ⟨same, lookedUp, stepped, after⟩ := moveOne_of_faithful alike here faithful ended
      cases looked.symm.trans lookedUp
      refine (ih (copied || answer) (found.map .path) after later).mp fun count => ?_
      exact (agreeFrom_cons_ok (rest.take count) ended stepped).mp (agree (count + 1))
    · rintro ⟨faithful, onward⟩ count
      cases count with
      | zero => exact agreeFrom_nil dest skips merge copied left alike
      | succ count =>
        cases ended : ((moveSource dest skips merge source).execute w).1 with
        | error err => exact agreeFrom_cons_error _ alike here faithful ended
        | ok answer =>
          obtain ⟨found, looked, stepped, after⟩ := moveOne_of_faithful alike here faithful ended
          apply (agreeFrom_cons_ok (rest.take count) ended stepped).mpr
          exact (ih _ _ after later).mpr (onward answer found ended looked) count

/-- Moving sources together does, for every number of them, what moving them one by one does, exactly
if every source is faithful when its turn comes. -/
theorem move_agree_iff_splits (sound : w.Sound) (destination : Path) (excludes : List Choice)
    (merge : Option Merge) (sources : List Path) (given : ∀ source, source ∈ sources -> Given w source) : (∀ count,
        Agree ((move (.many ((sources.take count).map .path)) (some destination) (.many excludes) merge).execute w)
          ((moveEach destination excludes merge (sources.take count)).execute w)) ↔
      Splits destination excludes merge false excludes sources w := by
  have alike := sound.noting (excludes.map Choice.text')
  rw [<- agreeFrom_iff destination excludes merge false excludes sources alike given]
  refine forall_congr' fun count => ?_
  rw [execute_move_given sound (some destination) excludes merge (sources.take count)
    fun source member => given source (List.mem_of_mem_take member), AgreeFrom, map_false_or]
  exact ⟨fun agree => ⟨agree.answer, agree.view⟩, fun agree => ⟨agree.1, agree.2⟩⟩

def severalSources : Workspace where
  tree := ⟨[(["w"], .directory), (["w", "a"], .directory),
    (["w", "a", "x"], .file { content := "1".toUTF8 }), (["w", "b"], .directory),
    (["w", "b", "y"], .file { content := "2".toUTF8 }),
    (["w", "c"], .file { content := "3".toUTF8, mode := 0o755 }), (["w", "out"], .directory)]⟩
  directory := ["w"]

set_option maxRecDepth 100000 in
/-- A directory and then a file are moved together as they are one by one. -/
theorem severalSources_agree : severalSources.Sound /\ Given severalSources ⟨.relative, ["a"]⟩ /\
      Given severalSources ⟨.relative, ["c"]⟩ /\ ∀ count,
        Agree ((move (.many (([⟨.relative, ["a"]⟩, ⟨.relative, ["c"]⟩].take count).map .path))
            (some ⟨.relative, ["out"]⟩) (.many []) none).execute severalSources) ((moveEach ⟨.relative, ["out"]⟩ [] none
            ([⟨.relative, ["a"]⟩, ⟨.relative, ["c"]⟩].take count)).execute severalSources) := by
  have sound : severalSources.Sound := by decide +kernel
  have first : Given severalSources ⟨.relative, ["a"]⟩ := by decide +kernel
  have second : Given severalSources ⟨.relative, ["c"]⟩ := by decide +kernel
  have isFile : ((moveSource ⟨.relative, ["out"]⟩ [] none ⟨.relative, ["a"]⟩).execute
      severalSources).2.isDirectory (Path.mk .relative ["c"]) = false := by decide +kernel
  refine ⟨sound, first, second, ?_⟩
  apply (move_agree_iff_splits sound ⟨.relative, ["out"]⟩ [] none _ ?_).mpr
  · refine ⟨faithful_self (Bool.false_and _), ?_⟩
    intro answer found _ looked
    rw [execute_exclusionsAt_nil] at looked
    cases looked
    refine ⟨faithful_self ?_, fun _ _ _ _ => trivial⟩
    rw [isFile, Bool.and_false]
  · intro source member
    rcases List.mem_cons.mp member with rfl | member
    · exact first
    · rw [List.mem_singleton.mp member]
      exact second

set_option maxRecDepth 100000 in
/-- Of two directories that are moved together only the first is copied. -/
theorem severalSources_differ : (((move (.many [.path ⟨.relative, ["a"]⟩, .path ⟨.relative, ["b"]⟩])
        (some ⟨.relative, ["out"]⟩) (.many []) none).execute severalSources).2.tree.get? ["w", "out", "y"]) = none /\
      (((moveEach ⟨.relative, ["out"]⟩ [] none [⟨.relative, ["a"]⟩, ⟨.relative, ["b"]⟩]).execute severalSources).2.tree.get?
          ["w", "out", "y"]) = some (.file { content := "2".toUTF8 }) := by
  decide +kernel

end Refinery.Transfer
