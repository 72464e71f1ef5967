import Refinery.Proofs.Transfer.Exclusion
import Refinery.Proofs.Workspace.Copying

namespace Refinery.Transfer

open List Job Workspace PathText

/-!
# The way of a walk

A walk that copies goes on while files are written.  As long as nothing goes away and the directories in it
get no new names, it is one loop over a list that is known beforehand.
-/

/-! ## The list of files -/

def isDirectoryAt (tree : Tree) (place : Place) : Bool :=
  ((tree.get? place).map Node.isDirectory).getD false

lemma isDirectoryAt_eq_true_iff {tree : Tree} {place : Place} :
    isDirectoryAt tree place = true ↔ tree.get? place = some .directory := by
  rw [isDirectoryAt]
  cases tree.get? place with
  | none => simp
  | some node => cases node <;> simp [Node.isDirectory]

abbrev Stop := List String × String

/-- The names down to the file. -/
def Stop.names (stop : Stop) : List String :=
  stop.1 ++ [stop.2]

def itinerary (tree : Tree) (home : Place) : Nat -> List String -> List Stop
  | 0, _ => []
  | depth + 1, way =>
    let names := tree.list (home ++ way)
    let directories := names.filter fun name => isDirectoryAt tree (home ++ (way ++ [name]))
    let files := names.filter fun name => !isDirectoryAt tree (home ++ (way ++ [name]))
    files.map (Prod.mk way) ++ directories.flatMap fun name => itinerary tree home depth (way ++ [name])

variable {tree other : Tree} {home : Place} {depth : Nat} {way : List String} {stop : Stop}

lemma mem_itinerary (sound : tree.Sound) (mem : stop ∈ itinerary tree home depth way) :
    way <+: stop.1 /\ ∃ node, tree.get? (home ++ stop.names) = some node /\ node ≠ .directory := by
  induction depth generalizing way with
  | zero => cases mem
  | succ depth ih =>
    rcases mem_append.mp mem with here | below
    · rcases mem_map.mp here with ⟨name, chosen, rfl⟩
      obtain ⟨listed, notDirectory⟩ := mem_filter.mp chosen
      rw [sound.mem_list, append_assoc] at listed
      obtain ⟨node, found⟩ := Option.isSome_iff_exists.mp listed
      refine ⟨prefix_refl way, node, found, ?_⟩
      rintro rfl
      rw [isDirectoryAt, found] at notDirectory
      cases notDirectory
    · rcases mem_flatMap.mp below with ⟨name, _, inner⟩
      obtain ⟨early, found⟩ := ih inner
      exact ⟨(prefix_append way [name]).trans early, found⟩

lemma files_itinerary (sound : tree.Sound) (linkFree : ∀ rest target, tree.get? (home ++ rest) ≠ some (.link target))
    (mem : stop ∈ itinerary tree home depth way) : ∃ file, tree.get? (home ++ stop.names) = some (.file file) := by
  obtain ⟨node, found, notDirectory⟩ := (mem_itinerary sound mem).2
  cases node with
  | directory => exact absurd rfl notDirectory
  | link target => exact absurd found (linkFree _ target)
  | file file => exact ⟨file, found⟩

lemma mem_itinerary_of_file (sound : tree.Sound) {file : FileNode}
    (found : tree.get? (home ++ stop.names) = some (.file file)) (early : way <+: stop.1)
    (deep : tree.size < depth + (home ++ way).length) : stop ∈ itinerary tree home depth way := by
  obtain ⟨last, name⟩ := stop
  obtain ⟨more, rfl⟩ := early
  induction depth generalizing way more with
  | zero =>
    have long := sound.length_le_size found
    simp only [Stop.names, length_append] at long deep
    omega
  | succ depth ih =>
    have present : ∀ next rest, more ++ [name] = next :: rest -> next ∈ tree.list (home ++ way) := by
      intro next rest parts
      rw [sound.mem_list, Option.isSome_iff_ne_none]
      refine sound.present_of_prefix found ⟨rest, ?_⟩
      simp [Stop.names, parts]
    cases more with
    | nil =>
      refine mem_append_left _ (mem_map.mpr ⟨name, ?_, by simp⟩)
      refine mem_filter.mpr ⟨present name [] rfl, ?_⟩
      rw [Stop.names, append_nil] at found
      rw [isDirectoryAt, found]
      rfl
    | cons next rest =>
      have standing : tree.get? (home ++ (way ++ [next])) = some .directory := by
        refine sound.way (rest ++ [name]) (by simp) (?_ : _ = some (.file file))
        simpa [Stop.names] using found
      refine mem_append_right _ (mem_flatMap.mpr ⟨next, ?_, ?_⟩)
      · exact mem_filter.mpr ⟨present next (rest ++ [name]) rfl, isDirectoryAt_eq_true_iff.mpr standing⟩
      · have parts : way ++ next :: rest = way ++ [next] ++ rest := by simp
        rw [parts] at found ⊢
        refine ih ?_ rest found
        simp only [length_append, length_singleton] at deep ⊢
        omega

lemma itinerary_deep {limit : Nat} (within : ∀ rest node, tree.get? (home ++ rest) = some node -> (home ++ rest).length <= limit)
    (standing : tree.get? (home ++ way) = some .directory) (deep : limit < depth + (home ++ way).length)
    (more : Nat) : itinerary tree home (depth + more) way = itinerary tree home depth way := by
  induction depth generalizing way with
  | zero =>
    have short := within way _ standing
    omega
  | succ depth ih =>
    rw [Nat.add_right_comm, itinerary, itinerary]
    congr 1
    refine flatMap_congr fun name mem => ih ?_ ?_
    · exact isDirectoryAt_eq_true_iff.mp (mem_filter.mp mem).2
    · simp only [length_append, length_singleton] at deep ⊢
      omega

/-! ## Loops with an invariant -/

section Loop

variable {σ α : Type} {Inv : Workspace -> Prop} {items : List α}

lemma foldlM_keeps {step : σ -> α -> Job σ} (keeps : ∀ item ∈ items, ∀ state now answer next, Inv now ->
      (step state item).execute now = (.ok answer, next) -> Inv next) {state answer : σ} {now next : Workspace} (holds : Inv now)
    (ran : (items.foldlM step state).execute now = (.ok answer, next)) : Inv next := by
  induction items generalizing state now with
  | nil =>
    cases ran
    exact holds
  | cons item rest ih =>
    obtain ⟨first, between, stepped, onward⟩ := of_bind_ok ran
    exact ih (fun other mem => keeps other (mem_cons_of_mem item mem))
      (keeps item mem_cons_self state now first between holds stepped) onward

lemma execute_foldlM_congr {step otherStep : σ -> α -> Job σ} (keeps : ∀ item ∈ items, ∀ state now answer next, Inv now ->
      (otherStep state item).execute now = (.ok answer, next) -> Inv next) (same : ∀ item ∈ items, ∀ state now, Inv now ->
      (step state item).execute now = (otherStep state item).execute now) (state : σ) {now : Workspace} (holds : Inv now) :
    (items.foldlM step state).execute now = (items.foldlM otherStep state).execute now := by
  induction items generalizing state now with
  | nil => rfl
  | cons item rest ih =>
    rw [foldlM_cons, foldlM_cons, execute_bind, execute_bind, same item mem_cons_self state now holds]
    rcases ran : (otherStep state item).execute now with ⟨outcome, next⟩
    cases outcome with
    | error err => rfl
    | ok value =>
      exact ih (fun other mem => keeps other (mem_cons_of_mem item mem))
        (fun other mem => same other (mem_cons_of_mem item mem)) value
        (keeps item mem_cons_self state now value next holds ran)

lemma foldlM_flatMap {β : Type} (step : σ -> β -> Job σ) (parts : α -> List β) (items : List α)
    (state : σ) : (items.flatMap parts).foldlM step state =
      items.foldlM (fun state item => (parts item).foldlM step state) state := by
  induction items generalizing state with
  | nil => rfl
  | cons item rest ih => simp [ih]

end Loop

/-! ## The walk as a loop -/

variable {w now : Workspace} {src dest : Path} {skips : List Path} {merge : Option Merge}

structure Steady (w : Workspace) (source : Path) (home : Place) (now : Workspace) : Prop where
  sound : now.Sound
  leads : Job.LeadsTo now source home
  named : source.names ≠ []
  kept : ∀ rest node, w.tree.get? (home ++ rest) = some node -> now.tree.get? (home ++ rest) = some node
  fresh : ∀ way name, way ≠ [] -> w.tree.get? (home ++ way) = some .directory ->
    now.tree.get? (home ++ (way ++ [name])) = w.tree.get? (home ++ (way ++ [name]))
  linkFree : ∀ rest target, w.tree.get? (home ++ rest) ≠ some (.link target)

def carry (source destination : Path) (excludes : List Path) (merge : Option Merge) (copied : Bool) (stop : Stop) : Job Bool :=
  copyNamed source destination excludes merge (Path.mk source.anchor (source.names ++ stop.1)) copied stop.2

def deliver (source destination : Path) (merge : Option Merge) (stop : Stop) : Job Unit := do
  makeDirectories (Path.mk destination.anchor (destination.names ++ stop.1))
  placeFile ⟨source.anchor, source.names ++ stop.names⟩
    ((Path.mk destination.anchor (destination.names ++ stop.1)).child stop.2) merge

lemma execute_carry (leads : LeadsTo w src home) (sound : w.Sound) {node : Node}
    (found : w.tree.get? (home ++ stop.names) = some node) {excluded : Bool}
    (decided : (isExcluded skips ⟨src.anchor, src.names ++ stop.1⟩
      ⟨src.anchor, src.names ++ stop.names⟩).execute now = (.ok excluded, now)) (copied : Bool) :
    (carry src dest skips merge copied stop).execute now = if excluded then (.ok copied, now)
      else (deliver src dest merge stop >>= fun _ => pure true).execute now := by
  have proper : (Path.mk src.anchor (src.names ++ stop.1)).Proper := by
    intro each mem
    refine leads.proper_below sound found each ?_
    rcases mem_append.mp mem with upper | later <;> simp [Stop.names, *]
  have relative : (Path.mk src.anchor (src.names ++ stop.1)).relativeTo? src =
      some ⟨.relative, stop.1⟩ := Path.relativeTo?_append rfl rfl
  rw [carry, copyNamed, Path.ofString_toString proper, relative, bind_ok (execute_need_some _ _ now), Path.child, append_assoc]
  refine (bind_ok decided).trans ?_
  cases excluded with
  | true => rfl
  | false =>
    rw [deliver, bind_assoc]
    rfl

namespace Steady

lemma of_same (sound : now.Sound) (leads : LeadsTo now src home) (named : src.names ≠ [])
    (same : ∀ rest, now.tree.get? (home ++ rest) = w.tree.get? (home ++ rest))
    (linkFree : ∀ rest target, w.tree.get? (home ++ rest) ≠ some (.link target)) : Steady w src home now :=
  ⟨sound, leads, named, fun rest _ found => (same rest).trans found, fun _ _ _ _ => same _, linkFree⟩

lemma isDirectory_join (steady : Steady w src home now) {name : String} (there : (w.tree.get? (home ++ (way ++ [name]))).isSome) :
    now.isDirectory (join (Path.mk src.anchor (src.names ++ way)) name) =
      isDirectoryAt w.tree (home ++ (way ++ [name])) := by
  obtain ⟨node, found⟩ := Option.isSome_iff_exists.mp there
  have foundNow := steady.kept _ node found
  have noLink : ∀ target, now.tree.get? (home ++ (way ++ [name])) ≠ some (.link target) := by
    rw [foundNow, <- found]
    exact steady.linkFree _
  rw [steady.leads.isDirectory_join steady.sound steady.named foundNow noLink, isDirectoryAt, found]
  rfl

lemma execute_walk (steady : Steady w src home now) (sound : w.Sound)
    (standing : w.tree.get? (home ++ way) = some .directory)
    (same : ∀ name, now.tree.get? (home ++ (way ++ [name])) = w.tree.get? (home ++ (way ++ [name])))
    {σ : Type} (visit : σ -> String -> List String -> List String -> Job σ) (depth : Nat) (state : σ) :
    let names := w.tree.list (home ++ way)
    let directories := names.filter fun name => isDirectoryAt w.tree (home ++ (way ++ [name]))
    let files := names.filter fun name => !isDirectoryAt w.tree (home ++ (way ++ [name]))
    (walk visit (depth + 1) state (Path.mk src.anchor (src.names ++ way))).execute now =
      (visit state (Path.mk src.anchor (src.names ++ way)) directories files >>= fun state =>
        directories.foldlM (fun state name => do
          let inner := join (Path.mk src.anchor (src.names ++ way)) name
          if <- isLink inner then return state else walk visit depth state inner)
        state).execute now := by
  intro names directories files
  let text := (Path.mk src.anchor (src.names ++ way)).toString
  have leadsNow := steady.leads.below steady.sound (steady.kept way _ standing)
  have listed : now.tree.list (home ++ way) = names :=
    steady.sound.tree.list_congr sound.tree fun name => by rw [append_assoc, same]
  have attempted : (attempt (list text)).execute now = (.ok (.ok names), now) := by
    rw [execute_attempt, execute_list, list_of_locate leadsNow.proper leadsNow.located leadsNow.standing, listed]
  have tested : (names.filterM fun name => isDirectory (join text name)).execute now = (.ok directories, now) := by
    have seen : directories = names.filter fun name => now.isDirectory (join text name) := by
      refine filter_congr fun name mem => ?_
      rw [sound.tree.mem_list, append_assoc] at mem
      exact (steady.isDirectory_join mem).symm
    rw [seen]
    exact execute_filterM _ _ now names fun name _ => execute_isDirectory _ now
  have others : (names.filter fun name => !directories.contains name) = files := by
    refine filter_congr fun name mem => ?_
    have inside : directories.contains name = isDirectoryAt w.tree (home ++ (way ++ [name])) := by
      rw [Bool.eq_iff_iff, contains_iff_mem, mem_filter]
      exact and_iff_right mem
    rw [inside]
  rw [walk, bind_ok attempted]
  refine (bind_ok tested).trans ?_
  rw [others]

lemma itinerary_depth (sound : w.Sound) (steady : Steady w src home now) (standing : w.tree.get? (home ++ []) = some .directory) :
    itinerary w.tree home (now.tree.size + 1000) [] = itinerary w.tree home (w.tree.size + 1000) [] := by
  have within : ∀ rest node, w.tree.get? (home ++ rest) = some node -> (home ++ rest).length <= now.tree.size :=
    fun rest node found => steady.sound.tree.length_le_size (steady.kept rest node found)
  rw [<- itinerary_deep within standing (by omega) (w.tree.size + 1000), Nat.add_comm,
    itinerary_deep (fun _ _ found => sound.tree.length_le_size found) standing (by omega)]

variable {Inv : Workspace -> Prop}

variable (sound : w.Sound) (steady : ∀ now, Inv now -> Steady w src home now)
  (keeps : ∀ stop file, w.tree.get? (home ++ stop.names) = some (.file file) -> ∀ copied now answer next, Inv now ->
    (carry src dest skips merge copied stop).execute now = (.ok answer, next) -> Inv next)
include sound steady keeps

lemma execute_walk_copy (standing : w.tree.get? (home ++ way) = some .directory)
    (same : way = [] -> ∀ name, now.tree.get? (home ++ [name]) = w.tree.get? (home ++ [name]))
    (copied : Bool) (holds : Inv now) : (walk (fun copied dir _ files =>
        files.foldlM (copyNamed src dest skips merge dir) copied)
      depth copied (Path.mk src.anchor (src.names ++ way))).execute now =
      ((itinerary w.tree home depth way).foldlM (carry src dest skips merge) copied).execute now := by
  have all : ∀ depth way stop, stop ∈ itinerary w.tree home depth way -> ∀ copied now answer next, Inv now ->
        (carry src dest skips merge copied stop).execute now = (.ok answer, next) ->
        Inv next := by
    intro depth way stop mem
    obtain ⟨file, found⟩ := files_itinerary sound.tree (steady now holds).linkFree mem
    exact keeps stop file found
  induction depth generalizing way copied now with
  | zero => rfl
  | succ depth ih =>
    have seen : ∀ name, now.tree.get? (home ++ (way ++ [name])) = w.tree.get? (home ++ (way ++ [name])) := by
      intro name
      by_cases top : way = []
      · rw [top]
        exact same top name
      · exact (steady now holds).fresh way name top standing
    refine ((steady now holds).execute_walk sound standing seen _ depth copied).trans ?_
    rw [itinerary, foldlM_append, foldlM_map]
    refine execute_bind_congr rfl fun value between ran => ?_
    have holdsBetween : Inv between := by
      refine foldlM_keeps (fun name mem copied now answer next => ?_) holds ran
      refine all (depth + 1) way (way, name) ?_ copied now answer next
      exact mem_append_left _ (mem_map_of_mem mem)
    rw [foldlM_flatMap]
    refine execute_foldlM_congr (fun name mem copied now answer next holds ran => ?_)
      (fun name mem copied now holds => ?_) value holdsBetween
    · exact foldlM_keeps (fun stop inside => all depth (way ++ [name]) stop inside) holds ran
    · have there := isDirectoryAt_eq_true_iff.mp (mem_filter.mp mem).2
      have held := steady now holds
      have thereNow := held.kept _ _ there
      have noLink := held.leads.isLink_below held.sound (by simp) thereNow
      rw [held.leads.join_below held.sound held.named thereNow, bind_ok (execute_isLink _ now), noLink]
      exact ih there (by simp) copied holds

lemma execute_copyDirectory (standing : w.tree.get? home = some .directory)
    (same : ∀ name, now.tree.get? (home ++ [name]) = w.tree.get? (home ++ [name])) (holds : Inv now) :
    (copyDirectory src dest skips merge).execute now = ((itinerary w.tree home (w.tree.size + 1000) []).foldlM
        (carry src dest skips merge) false).execute now := by
  rw [<- append_nil home] at standing
  have walked : (walk _ (now.tree.size + 1000) false _).execute now = _ :=
    execute_walk_copy sound steady keeps standing (fun _ => same) false holds
  rw [append_nil] at walked
  rw [copyDirectory, bind_ok (execute_depthLimit now), walked, itinerary_depth sound (steady now holds) standing]

end Steady

end Refinery.Transfer
