import Refinery.Proofs.Workspace.Copying
import Refinery.Proofs.Workspace.Rewriting
import Refinery.Replacement

namespace Refinery

open List Job Workspace Text Refinery.Tree

/-!
# Replacing in overlapping selections

A selection may yield a file several times, and each time the file is rewritten as it is then.  Rewriting a
file changes no other one and no way to it.  So a run is described by how often it came to each file,
`Replaced`, and the order of the patterns does not matter.
-/

namespace Substitution

/-- A file after a replacement, with the number of places.  A text is read with every line end as a line feed,
and stays as it is if there is no place. -/
def onFile (s : Substitution) (file : FileNode) : Except Failure (FileNode × Nat) :=
  match String.fromUTF8? file.content with
  | some text => do
    let (changed, count) <- s.inText (unifyLineEnds text)
    if count = 0 then return (file, 0)
    if encodable changed then return ({ file with content := changed.toUTF8, age := 0 }, count)
    throw .unencodable
  | none => do
    let (changed, count) <- s.inBytes file.content
    if count = 0 then return (file, 0)
    return ({ file with content := changed, age := 0 }, count)

def successive (s : Substitution) : Nat -> FileNode -> Except Failure (FileNode × Nat)
  | 0, file => .ok (file, 0)
  | times + 1, file => do
    let (before, count) <- s.successive times file
    let (after, more) <- s.onFile before
    return (after, count + more)

/-- Nothing in a file matches. -/
def Unmatched (s : Substitution) (content : ByteArray) : Prop :=
  match String.fromUTF8? content with
  | some text => (s.expression.matchesIn (unifyLineEnds text).toList).1 = []
  | none => ∀ e, Expression.ofBytes s.flags (charsOfBytes s.source.toUTF8) = .ok e ->
      (e.matchesIn (charsOfBytes content)).1 = []

end Substitution

namespace Workspace

/-- The places of the files that paths lead to, with repetitions. -/
def filePlaces (w : Workspace) (paths : List Path) : List Place :=
  paths.filterMap fun path => w.filePlace? path.toString

/-- How often paths lead to the file at a place. -/
def visits (w : Workspace) (paths : List Path) (place : Place) : Nat :=
  (w.filePlaces paths).count place

end Workspace

/-- What a substitution in files leaves: each is rewritten as often as a path leads to it, and its tally is
the number of places in it. -/
structure Replaced (s : Substitution) (w : Workspace) (paths : List Path) (tally : Place -> Nat)
    (v : Workspace) : Prop where
  frame : v = { w with tree := v.tree }
  others : ∀ place, (∀ file, w.tree.get? place ≠ some (.file file)) -> v.tree.get? place = w.tree.get? place
  files : ∀ place file, w.tree.get? place = some (.file file) ->
    ∃ last, s.successive (w.visits paths place) file = .ok (last, tally place) /\ v.tree.get? place = some (.file last)

namespace Substitution

variable {s : Substitution} {file last : FileNode} {times count : Nat}

/-! ## One file -/

lemma count_of_substitute {e : Expression} {replacement text changed : List Char}
    (ends : e.substitute replacement text = .ok (changed, count)) : count = (e.matchesIn text).1.length := by
  obtain ⟨parts, -, made⟩ := bind_eq_ok.mp ends
  cases made
  rfl

lemma count_of_inText {text changed : String} (ends : s.inText text = .ok (changed, count)) :
    count = (s.expression.matchesIn text.toList).1.length := by
  obtain ⟨outcome, substituted, made⟩ := bind_eq_ok.mp ends
  cases made
  exact count_of_substitute substituted

lemma count_of_inBytes {bytes changed : ByteArray} (ends : s.inBytes bytes = .ok (changed, count)) :
    ∃ e, Expression.ofBytes s.flags (charsOfBytes s.source.toUTF8) = .ok e /\
      count = (e.matchesIn (charsOfBytes bytes)).1.length := by
  obtain ⟨e, read, more⟩ := bind_eq_ok.mp ends
  obtain ⟨outcome, substituted, made⟩ := bind_eq_ok.mp more
  cases made
  exact ⟨e, read, count_of_substitute substituted⟩

lemma onFile_text {text : String} (read : String.fromUTF8? file.content = some text) :
    s.onFile file = s.inText (unifyLineEnds text) >>= fun outcome =>
      if outcome.2 = 0 then .ok (file, 0) else if encodable outcome.1 then
        .ok ({ file with content := outcome.1.toUTF8, age := 0 }, outcome.2) else .error .unencodable := by
  rw [onFile, read]
  rfl

lemma onFile_bytes (unread : String.fromUTF8? file.content = none) : s.onFile file = s.inBytes file.content >>= fun outcome =>
      if outcome.2 = 0 then .ok (file, 0) else .ok ({ file with content := outcome.1, age := 0 }, outcome.2) := by
  rw [onFile, unread]
  rfl

lemma onFile_of_unmatched (unmatched : s.Unmatched file.content)
    (ends : s.onFile file = .ok (last, count)) : last = file /\ count = 0 := by
  rw [Unmatched] at unmatched
  split at unmatched
  next _ read =>
    rw [onFile_text read] at ends
    obtain ⟨outcome, replaced, made⟩ := bind_eq_ok.mp ends
    have none : outcome.2 = 0 := by
      rw [count_of_inText replaced, unmatched]
      rfl
    rw [if_pos none] at made
    cases made
    exact ⟨rfl, rfl⟩
  next read =>
    rw [onFile_bytes read] at ends
    obtain ⟨outcome, replaced, made⟩ := bind_eq_ok.mp ends
    obtain ⟨e, parsed, counted⟩ := count_of_inBytes replaced
    have none : outcome.2 = 0 := by
      rw [counted, unmatched e parsed]
      rfl
    rw [if_pos none] at made
    cases made
    exact ⟨rfl, rfl⟩

lemma successive_succ (s : Substitution) (times : Nat) (file : FileNode) :
    s.successive (times + 1) file = s.successive times file >>= fun before =>
      s.onFile before.1 >>= fun after => .ok (after.1, before.2 + after.2) := rfl

lemma successive_error {err : Failure} (failed : s.successive times file = .error err)
    {more : Nat} (later : times <= more) : s.successive more file = .error err := by
  induction more, later using Nat.le_induction with
  | base => exact failed
  | succ more _ ih =>
    rw [successive_succ, ih]
    rfl

lemma successive_of_unmatched (unmatched : s.Unmatched file.content)
    (ends : s.successive times file = .ok (last, count)) : last = file /\ count = 0 := by
  induction times generalizing last count with
  | zero =>
    cases ends
    exact ⟨rfl, rfl⟩
  | succ times ih =>
    obtain ⟨before, earlier, later⟩ := bind_eq_ok.mp ends
    obtain ⟨after, next, made⟩ := bind_eq_ok.mp later
    obtain ⟨same, none⟩ := ih earlier
    rw [same] at next
    obtain ⟨kept, nothing⟩ := onFile_of_unmatched unmatched next
    cases made
    exact ⟨kept, by rw [none, nothing]⟩

end Substitution

/-! ## One path -/

namespace Workspace

variable {w v : Workspace} {path : String} {place : Place} {file : FileNode}

namespace Rewritten

lemma written (rewritten : w.Rewritten v) (loc : v.placeOf path true = .ok place)
    (found : v.tree.get? place = some (.file file)) {after : Workspace}
    (wrote : after = v \/ ∃ new, after = v.put (some (place, .file new))) : w.Rewritten after := by
  rcases wrote with rfl | ⟨new, rfl⟩
  · exact rewritten
  · exact rewritten.put_file loc found new

end Rewritten

lemma get?_written (found : v.tree.get? place = some (.file file)) {after : Workspace} {next : FileNode} {count : Nat}
    (wrote : next = file /\ after = v \/ count ≠ 0 /\ after = v.put (some (place, .file next))) (other : Place) :
    after.tree.get? other = if other = place then some (.file next) else v.tree.get? other := by
  rcases wrote with ⟨rfl, rfl⟩ | ⟨-, rfl⟩
  · by_cases here : other = place
    · rw [if_pos here, here, found]
    · rw [if_neg here]
  · exact get?_put_file found next other

end Workspace

namespace Substitution

variable {w v : Workspace} {path : Path} {place : Place} {s : Substitution} {file : FileNode} {count : Nat}

lemma execute_counted {τ : Type} (write : τ -> Job Unit) {result : τ × Nat -> Except Failure (FileNode × Nat)}
    (writes : ∀ outcome, ∃ new, (write outcome.1).execute v = ((result outcome).map fun _ => (), v.put (some (place, .file new))) /\
      ∀ next count, result outcome = .ok (next, count) -> next = new /\ count = outcome.2)
    (found : Except Failure (τ × Nat)) : ∃ after, (Job.ofExcept found >>= fun outcome =>
        if outcome.2 ≠ 0 then write outcome.1 >>= fun _ => pure outcome.2 else pure outcome.2 : Job Nat).execute v =
          ((found >>= fun outcome => if outcome.2 = 0 then .ok (file, 0) else result outcome).map Prod.snd, after) /\
      (after = v \/ ∃ new, after = v.put (some (place, .file new))) /\ ∀ next count, (found >>= fun outcome =>
          if outcome.2 = 0 then .ok (file, 0) else result outcome) = .ok (next, count) ->
        next = file /\ after = v \/ count ≠ 0 /\ after = v.put (some (place, .file next)) := by
  cases found with
  | error err => exact ⟨v, rfl, .inl rfl, fun _ _ ends => by cases ends⟩
  | ok outcome =>
    rw [bind_ok (execute_ofExcept (.ok outcome) v)]
    change ∃ after, _ = (Except.map Prod.snd (if outcome.2 = 0 then _ else _), _) /\ _ /\
      ∀ next count, (if outcome.2 = 0 then _ else _) = _ -> _
    by_cases none : outcome.2 = 0
    · rw [if_pos none, if_neg (not_not.mpr none)]
      refine ⟨v, by rw [none]; rfl, .inl rfl, fun next count ends => ?_⟩
      cases ends
      exact .inl ⟨rfl, rfl⟩
    · rw [if_neg none, if_pos none, execute_bind]
      obtain ⟨new, wrote, same⟩ := writes outcome
      rw [wrote]
      refine ⟨_, ?_, .inr ⟨new, rfl⟩, fun next count ends => ?_⟩
      · cases ends : result outcome with
        | error err => rfl
        | ok made =>
          change (Except.ok outcome.2, _) = (Except.ok made.2, _)
          rw [(same made.1 made.2 ends).2]
      · rcases same next count ends with ⟨rfl, rfl⟩
        exact .inr ⟨none, rfl⟩

lemma execute_inFile (loc : v.placeOf path true = .ok place) (found : v.tree.get? place = some (.file file)) :
    ∃ after, (s.inFile path).execute v = ((s.onFile file).map Prod.snd, after) /\
      (after = v \/ ∃ new, after = v.put (some (place, .file new))) /\ ∀ next count, s.onFile file = .ok (next, count) ->
        next = file /\ after = v \/ count ≠ 0 /\ after = v.put (some (place, .file next)) := by
  have wrote (content : ByteArray) : (writeBytes path content).execute v =
      (.ok (), v.put (some (place, .file { file with content, age := 0 }))) := by
    rw [execute_writeBytes]
    simp only [writing, loc, found]
  rw [inFile, bind_ok (execute_readBytes loc found)]
  cases decoded : String.fromUTF8? file.content with
  | some text =>
    rw [onFile_text decoded]
    refine execute_counted (writeText path) (fun outcome => ?_) _
    by_cases enc : encodable outcome.1 = true
    · rw [writeText, if_pos enc, if_pos enc, wrote]
      refine ⟨_, rfl, fun next count ends => ?_⟩
      cases ends
      exact ⟨rfl, rfl⟩
    · rw [writeText, if_neg enc, if_neg enc, bind_ok (wrote _)]
      exact ⟨_, rfl, fun _ _ ends => by cases ends⟩
  | none =>
    rw [onFile_bytes decoded]
    refine execute_counted (writeBytes path) (fun outcome => ?_) _
    rw [wrote]
    refine ⟨_, rfl, fun next count ends => ?_⟩
    cases ends
    exact ⟨rfl, rfl⟩

def visit (s : Substitution) (count : Nat) (path : Path) : Job Nat := do
  if <- isFile path then return count + (<- s.inFile path)
  return count

lemma execute_visit_nothing (nothing : v.filePlace? path = none) : (s.visit count path).execute v = (.ok count, v) := by
  rw [visit, bind_ok (execute_isFile path v), isFile_eq, nothing]
  rfl

lemma execute_visit_file (reached : v.filePlace? path = some place) : (s.visit count path).execute v =
      (s.inFile path >>= fun more => pure (count + more) : Job Nat).execute v := by
  rw [visit, bind_ok (execute_isFile path v), isFile_eq, reached]
  rfl

lemma keeps_visit (s : Substitution) (w : Workspace) : Keeps w s.visit := by
  intro count path v rewritten
  cases reached : v.filePlace? path with
  | none =>
    rwa [execute_visit_nothing reached]
  | some place =>
    obtain ⟨loc, file, found⟩ := filePlace?_eq_some_iff.mp reached
    rcases execute_inFile (s := s) loc found with ⟨after, ran, wrote, -⟩
    have kept := rewritten.written loc found wrote
    rw [execute_visit_file reached, execute_bind, ran]
    cases s.onFile file <;> exact kept

end Substitution

/-! ## A list of paths -/

section Runs

variable {s : Substitution} {w v after : Workspace} {paths others : List Path} {path : Path} {place : Place}
  {tally : Place -> Nat} {file : FileNode}

lemma Workspace.filePlaces_concat (w : Workspace) (paths : List Path) (path : Path) :
    w.filePlaces (paths ++ [path]) = w.filePlaces paths ++ (w.filePlace? path).toList := by
  cases reached : w.filePlace? path <;> simp [filePlaces, reached]

lemma Workspace.visits_concat (reached : w.filePlace? path = some place) (other : Place) :
    w.visits (paths ++ [path]) other = w.visits paths other + if other = place then 1 else 0 := by
  rw [visits, visits, filePlaces_concat, reached, count_append]
  by_cases here : other = place
  · simp [here]
  · simp [here, Ne.symm here]

namespace Replaced

lemma nothing (s : Substitution) (w : Workspace) : Replaced s w [] (fun _ => 0) w :=
  ⟨rfl, fun _ _ => rfl, fun _ file found => ⟨file, rfl, found⟩⟩

variable (replaced : Replaced s w paths tally v)
include replaced

lemma pass (nothing : w.filePlace? path = none) : Replaced s w (paths ++ [path]) tally v := by
  have same (place : Place) : w.visits (paths ++ [path]) place = w.visits paths place := by
    rw [visits, visits, filePlaces_concat, nothing]
    simp
  refine ⟨replaced.frame, replaced.others, fun place file found => ?_⟩
  rw [same]
  exact replaced.files place file found

lemma again (reached : w.filePlace? path = some place)
    {now next : FileNode} {more : Nat} (found : v.tree.get? place = some (.file now))
    (ends : s.onFile now = .ok (next, more)) (frame : after = { w with tree := after.tree })
    (changed : ∀ other, after.tree.get? other = if other = place then some (.file next) else v.tree.get? other) :
    Replaced s w (paths ++ [path]) (Function.update tally place (tally place + more)) after := by
  obtain ⟨-, first, original⟩ := filePlace?_eq_some_iff.mp reached
  refine ⟨frame, ?_, ?_⟩
  · intro other notFile
    have apart : other ≠ place := by
      rintro rfl
      exact notFile first original
    rw [changed, if_neg apart]
    exact replaced.others other notFile
  · intro other file there
    obtain ⟨last, counted, present⟩ := replaced.files other file there
    rw [visits_concat reached, changed]
    by_cases here : other = place
    · subst here
      have same : last = now := by
        rw [present] at found
        cases found
        rfl
      rw [if_pos rfl, if_pos rfl, Substitution.successive_succ, counted, Function.update_self]
      refine ⟨next, ?_, rfl⟩
      change (s.onFile last >>= _) = _
      rw [same, ends]
      rfl
    · rw [if_neg here, if_neg here, Function.update_of_ne here]
      exact ⟨last, counted, present⟩

lemma tally_eq_zero (found : w.tree.get? place = some (.file file)) (unreached : place ∉ w.filePlaces paths) :
    tally place = 0 := by
  obtain ⟨last, counted, -⟩ := replaced.files place file found
  rw [visits, count_eq_zero_of_not_mem unreached] at counted
  exact (Prod.mk.inj (Except.ok.inj counted)).2.symm

lemma sum_again (reached : w.filePlace? path = some place) (more : Nat) :
    ∑ other ∈ (w.filePlaces (paths ++ [path])).toFinset, Function.update tally place (tally place + more) other =
      ∑ other ∈ (w.filePlaces paths).toFinset, tally other + more := by
  obtain ⟨-, file, found⟩ := filePlace?_eq_some_iff.mp reached
  have places : (w.filePlaces (paths ++ [path])).toFinset = insert place (w.filePlaces paths).toFinset := by
    rw [filePlaces_concat, reached]
    simp
  have counted : ∑ other ∈ insert place (w.filePlaces paths).toFinset, tally other =
      ∑ other ∈ (w.filePlaces paths).toFinset, tally other := by
    apply Finset.sum_insert_of_eq_zero_if_notMem
    intro unreached
    exact replaced.tally_eq_zero found fun mem => unreached (mem_toFinset.mpr mem)
  have mem : place ∈ insert place (w.filePlaces paths).toFinset := Finset.mem_insert_self _ _
  have apart := Finset.add_sum_erase _ tally mem
  rw [places, Finset.sum_update_of_mem mem, <- counted, Finset.sdiff_singleton_eq_erase]
  omega

lemma visit (rewritten : w.Rewritten v) (path : Path) :
    (∃ tally' after, (s.visit (∑ place ∈ (w.filePlaces paths).toFinset, tally place) path).execute v =
        (.ok (∑ place ∈ (w.filePlaces (paths ++ [path])).toFinset, tally' place), after) /\
      w.Rewritten after /\ Replaced s w (paths ++ [path]) tally' after) \/ ∃ err after place file,
      (s.visit (∑ place ∈ (w.filePlaces paths).toFinset, tally place) path).execute v =
        (.error err, after) /\ w.tree.get? place = some (.file file) /\
      s.successive (w.visits (paths ++ [path]) place) file = .error err := by
  have place? := rewritten.filePlace? path
  cases reached : w.filePlace? path with
  | none =>
    rw [Substitution.execute_visit_nothing (place?.trans reached), filePlaces_concat, reached]
    exact .inl ⟨tally, v, by simp, rewritten, replaced.pass reached⟩
  | some place =>
    obtain ⟨-, file, found⟩ := filePlace?_eq_some_iff.mp reached
    obtain ⟨loc, now, there⟩ := filePlace?_eq_some_iff.mp (place?.trans reached)
    rcases Substitution.execute_inFile (s := s) loc there with ⟨after, done, wrote, changed⟩
    have kept := rewritten.written loc there wrote
    rw [Substitution.execute_visit_file (place?.trans reached)]
    cases ends : s.onFile now with
    | ok outcome =>
      obtain ⟨next, more⟩ := outcome
      rw [ends] at done
      rw [bind_ok done]
      refine .inl ⟨Function.update tally place (tally place + more), after, ?_, kept, ?_⟩
      · rw [replaced.sum_again reached]
        rfl
      · exact replaced.again reached there ends kept.frame (get?_written there (changed next more ends))
    | error err =>
      rw [ends] at done
      rw [bind_error done]
      refine .inr ⟨err, after, place, file, rfl, found, ?_⟩
      obtain ⟨last, counted, present⟩ := replaced.files place file found
      rw [there] at present
      cases present
      rw [visits_concat reached, if_pos rfl, Substitution.successive_succ, counted]
      change s.onFile now >>= _ = _
      rw [ends]
      rfl

lemma unique {tally' : Place -> Nat} (again : Replaced s w others tally' after)
    (visits : ∀ place, w.visits others place = w.visits paths place) : Same v.tree after.tree /\
      ∀ place file, w.tree.get? place = some (.file file) -> tally place = tally' place := by
  have each (place : Place) (file : FileNode) (found : w.tree.get? place = some (.file file)) :
      v.tree.get? place = after.tree.get? place /\ tally place = tally' place := by
    obtain ⟨last, counted, present⟩ := replaced.files place file found
    obtain ⟨last', counted', present'⟩ := again.files place file found
    rw [visits, counted] at counted'
    obtain ⟨same, equal⟩ := Prod.mk.inj (Except.ok.inj counted')
    exact ⟨by rw [present, present', same], equal⟩
  refine ⟨fun place => ?_, fun place file found => (each place file found).2⟩
  by_cases isFile : ∃ file, w.tree.get? place = some (.file file)
  · rcases isFile with ⟨file, found⟩
    exact (each place file found).1
  · have notFile := not_exists.mp isFile
    rw [replaced.others place notFile, again.others place notFile]

end Replaced

lemma visit_cases (s : Substitution) (sound : w.Sound) (paths : List Path) : (∃ tally v, (paths.foldlM s.visit 0).execute w =
        (.ok (∑ place ∈ (w.filePlaces paths).toFinset, tally place), v) /\ w.Rewritten v /\ Replaced s w paths tally v) \/
    ∃ err v place file, (paths.foldlM s.visit 0).execute w = (.error err, v) /\
      w.tree.get? place = some (.file file) /\ s.successive (w.visits paths place) file = .error err := by
  induction paths using List.reverseRecOn with
  | nil => exact .inl ⟨fun _ => 0, w, rfl, .refl sound, .nothing s w⟩
  | append_singleton paths path ih =>
    have single (count : Nat) : [path].foldlM s.visit count = s.visit count path := by
      simp only [foldlM_cons, foldlM_nil, bind_pure]
    rw [foldlM_append]
    rcases ih with ⟨tally, v, ran, rewritten, replaced⟩ | ⟨err, v, place, file, ran, found, failed⟩
    · rw [bind_ok ran, single]
      exact replaced.visit rewritten path
    · rw [bind_error ran]
      refine .inr ⟨err, v, place, file, rfl, found, Substitution.successive_error failed ?_⟩
      rw [visits, visits, filePlaces_concat, count_append]
      exact Nat.le_add_right _ _

lemma Replaced.unchanged (replaced : Replaced s w paths tally v) (present : w.tree.get? place = some (.file file))
    (spared : w.visits paths place = 0 \/ s.Unmatched file.content) : v.tree.get? place = some (.file file) := by
  obtain ⟨now, counted, there⟩ := replaced.files place file present
  have same : now = file := by
    rcases spared with unvisited | unmatched
    · rw [unvisited] at counted
      exact (Prod.mk.inj (Except.ok.inj counted)).1.symm
    · exact (Substitution.successive_of_unmatched unmatched counted).1
  rw [there, same]

end Runs

/-! ## Selections -/

namespace Selection

variable {σ : Type} {w : Workspace} {sources : Selection}

end Selection

namespace Replacement

variable {sources : Selection} {before after : String} {flags : Pattern.Flags} {w last : Workspace}
  {total : Nat}

end Replacement

end Refinery
