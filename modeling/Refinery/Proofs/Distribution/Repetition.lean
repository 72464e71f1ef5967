import Refinery.Distribution.Shared
import Refinery.Proofs.Replacement.OrderIndependence

namespace Refinery

open List Job Workspace Text FileJob

/-!
# Making listed replacements again

A listed replacement is made in a file and then tried again, which must find nothing.  A later one can bring
back what an earlier one replaced.  This module says when it does not.
-/

lemma Job.ofExcept_bind_eq_ok {α β : Type} {outcome : Except Failure α} {next : α -> Job β} {answer : β}
    {w last : Workspace} (ran : (ofExcept outcome >>= next).execute w = (.ok answer, last)) :
    ∃ value, outcome = .ok value /\ (next value).execute w = (.ok answer, last) := by
  obtain ⟨value, after, first, second⟩ := of_bind_ok ran
  rw [execute_ofExcept] at first
  obtain ⟨ended, rfl⟩ := Prod.mk.inj first
  exact ⟨value, ended, second⟩

namespace Substitution

variable {s : Substitution} {w v next u : Workspace} {path : Path} {place : Place} {file last : FileNode}
  {found : List Path} {count total : Nat}

def Rests (s : Substitution) (file : FileNode) : Prop :=
  (s.onFile file).map Prod.snd = .ok 0

lemma execute_inFile_rests (loc : v.placeOf path true = .ok place)
    (there : v.tree.get? place = some (.file file)) (rests : s.Rests file) : (s.inFile path).execute v = (.ok 0, v) := by
  rcases execute_inFile (s := s) loc there with ⟨after, ran, -, wrote⟩
  rw [rests] at ran
  rw [Rests] at rests
  cases ends : s.onFile file <;> rw [ends] at rests
  · cases rests
  next outcome =>
    rcases wrote outcome.1 outcome.2 ends with ⟨-, same⟩ | ⟨some, -⟩
    · rw [ran, same]
    · exact absurd (Except.ok.inj rests) some

lemma rests_of_successive {times : Nat} (ends : s.successive (times + 1) file = .ok (last, 0)) : s.Rests file := by
  induction times generalizing last with
  | zero =>
    obtain ⟨_, first, more⟩ := bind_eq_ok.mp ends
    obtain ⟨⟨_, count⟩, replaced, made⟩ := bind_eq_ok.mp more
    cases first
    have none : count = 0 := by simpa using (Prod.mk.inj (Except.ok.inj made)).2
    rw [Rests, replaced, none]
    rfl
  | succ times ih =>
    obtain ⟨⟨_, count⟩, first, more⟩ := bind_eq_ok.mp ends
    obtain ⟨_, _, made⟩ := bind_eq_ok.mp more
    have none : count = 0 := (Nat.add_eq_zero_iff.mp (Prod.mk.inj (Except.ok.inj made)).2).1
    exact ih (none ▸ first)

def Settled (s : Substitution) (v : Workspace) (found : List Path) : Prop :=
  ∀ place ∈ v.filePlaces found, ∀ file, v.tree.get? place = some (.file file) -> s.Rests file

lemma Settled.execute (settled : s.Settled v found) : (found.foldlM s.visit count).execute v = (.ok count, v) := by
  induction found with
  | nil => rfl
  | cons path rest ih =>
    rw [Settled, Workspace.filePlaces, filterMap_cons] at settled
    split at settled
    next reached =>
      rw [foldlM_cons, bind_ok (execute_visit_nothing reached)]
      exact ih settled
    next place reached =>
      obtain ⟨loc, file, there⟩ := filePlace?_eq_some_iff.mp reached
      have rests := settled place mem_cons_self file there
      have none : (s.visit count path).execute v = (.ok count, v) := by
        rw [execute_visit_file reached, bind_ok (execute_inFile_rests loc there rests)]
        rfl
      rw [foldlM_cons, bind_ok none]
      exact ih fun other mem => settled other (mem_cons_of_mem place mem)

lemma foldlM_visit (sound : v.Sound) (ran : (found.foldlM s.visit 0).execute v = (.ok total, next)) :
    v.Rewritten next /\ (∀ place, place ∉ v.filePlaces found -> next.tree.get? place = v.tree.get? place) /\
      (total = 0 -> s.Settled v found) := by
  rcases visit_cases s sound found with ⟨tally, after, visited, rewritten, replaced⟩ | ⟨err, after, place, file, failed, _⟩
  · rw [visited] at ran
    cases ran
    refine ⟨rewritten, fun place away => ?_, fun none place mem file there => ?_⟩
    · by_cases isFile : ∃ file, v.tree.get? place = some (.file file)
      · rcases isFile with ⟨file, there⟩
        rw [replaced.unchanged there (.inl (count_eq_zero_of_not_mem away)), there]
      · exact replaced.others place (not_exists.mp isFile)
    · rcases replaced.files place file there with ⟨last, counted, _⟩
      have zero := Finset.sum_eq_zero_iff.mp none place (mem_toFinset.mpr mem)
      obtain ⟨times, often⟩ := Nat.exists_eq_succ_of_ne_zero (count_pos_iff.mpr mem).ne'
      rw [zero, visits, often] at counted
      exact rests_of_successive counted
  · rw [failed] at ran
    cases ran

end Substitution

namespace Workspace.Rewritten

variable {w v u : Workspace}

lemma filePlaces (rewritten : w.Rewritten v) (found : List Path) : v.filePlaces found = w.filePlaces found := by
  simp only [Workspace.filePlaces, rewritten.filePlace?]

end Workspace.Rewritten

namespace Distribution

variable {w v next u : Workspace} {listed : Doc} {path : String} {place : Place} {count : Nat}

/-! ## One listed replacement -/

def reached (w : Workspace) (path : String) : List Place :=
  w.filePlaces (((Selection.one (.text path)).paths.execute w).1.toOption.getD [])

def unchecked (listed : Doc) (path : String) : Job Nat := do
  let before <- Job.ofExcept (listed.entry "before")
  let after <- Job.ofExcept (listed.entry "after")
  Replacement.replaceIn (.one (.text path)) (<- Job.ofExcept before.needText) (<- Job.ofExcept after.needText)

lemma replaceOnce_eq (listed : Doc) (path : String) : replaceOnce listed path = do
    let count <- unchecked listed path
    if (<- unchecked listed path) ≠ 0 then fail .unmetAssumption
    return count :=
  rfl

lemma unchecked_runs (rewritten : w.Rewritten v) (ran : (unchecked listed path).execute v = (.ok count, next)) :
    ∃ (s : Substitution) (found : List Path), w.filePlaces found = reached w path /\ ∀ u, w.Rewritten u ->
        (unchecked listed path).execute u = (found.foldlM s.visit 0).execute u := by
  obtain ⟨before, hasBefore, ran⟩ := ofExcept_bind_eq_ok ran
  obtain ⟨after, hasAfter, ran⟩ := ofExcept_bind_eq_ok ran
  obtain ⟨beforeText, isBefore, ran⟩ := ofExcept_bind_eq_ok ran
  obtain ⟨afterText, isAfter, ran⟩ := ofExcept_bind_eq_ok ran
  obtain ⟨s, parsed, folded⟩ := ofExcept_bind_eq_ok ran
  obtain ⟨found, err, yields, _⟩ := Choice.fold_ordered w Path.here (.text path)
  have single : Yields w (fun visit state => (Selection.one (.text path)).fold Path.here visit state) found err :=
    yields.congr fun visit state => by
      simp only [Selection.fold, Selection.choices, foldlM_cons, foldlM_nil, bind_pure]
  have complete : err = none := by
    cases err with
    | none => rfl
    | some reason =>
      change ((Selection.one (.text path)).fold Path.here s.visit 0).execute v = _ at folded
      rw [single.runs (s.keeps_visit w) 0 rewritten] at folded
      obtain ⟨_, _, _, ended⟩ := of_bind_ok folded
      cases ended
  subst complete
  refine ⟨s, found, ?_, fun u rewrittenU => ?_⟩
  · rw [reached, Selection.execute_paths rewritten.before single]
    rfl
  · have searched := single.runs (s.keeps_visit w) 0 rewrittenU
    change _ = (_ >>= pure : Job Nat).execute u at searched
    rw [bind_pure] at searched
    rw [<- searched, unchecked, hasBefore, hasAfter]
    change (Job.ofExcept before.needText >>= fun before => Job.ofExcept after.needText >>= fun after =>
      Replacement.replaceIn (.one (.text path)) before after).execute u = _
    rw [isBefore, isAfter]
    change (Replacement.replaceIn (.one (.text path)) beforeText afterText).execute u = _
    rw [Replacement.replaceIn, parsed]
    rfl

lemma replaceOnce_settles (rewritten : w.Rewritten v)
    (ran : (replaceOnce listed path).execute v = (.ok count, next)) : w.Rewritten next /\
      (∀ place, place ∉ reached w path -> next.tree.get? place = v.tree.get? place) /\
      ∀ u, w.Rewritten u -> (∀ place ∈ reached w path,
        u.tree.get? place = next.tree.get? place) -> (replaceOnce listed path).execute u = (.ok 0, u) := by
  rw [replaceOnce_eq] at ran
  obtain ⟨first, middle, firstRan, ran⟩ := of_bind_ok ran
  obtain ⟨second, last, secondRan, ended⟩ := of_bind_ok ran
  obtain ⟨s, found, places, runs⟩ := unchecked_runs rewritten firstRan
  have none : second = 0 /\ last = next := by
    split at ended
    · cases ended
    next again =>
      cases ended
      exact ⟨not_not.mp again, rfl⟩
  obtain ⟨rfl, rfl⟩ := none
  rw [runs v rewritten] at firstRan
  obtain ⟨toMiddle, outside, _⟩ := Substitution.foldlM_visit rewritten.sound firstRan
  have rewrittenMiddle := rewritten.trans toMiddle
  rw [runs middle rewrittenMiddle] at secondRan
  have settled := (Substitution.foldlM_visit toMiddle.sound secondRan).2.2 rfl
  rw [settled.execute] at secondRan
  cases secondRan
  rw [rewritten.filePlaces, places] at outside
  refine ⟨rewrittenMiddle, outside, fun u rewrittenU same => ?_⟩
  have settledU : s.Settled u found := by
    intro place mem file there
    rw [rewrittenU.filePlaces] at mem
    refine settled place (by rwa [rewrittenMiddle.filePlaces]) file ?_
    rw [<- same place (places ▸ mem), there]
  have idle : (unchecked listed path).execute u = (.ok 0, u) := by
    rw [runs u rewrittenU, settledU.execute]
  rw [replaceOnce_eq, bind_ok idle, bind_ok idle]
  rfl

/-! ## All listed replacements -/

variable {package folder : String} {steps : List (Doc × String)} {file : Path} {files : List Path}
  {paths docs : List Doc}

def stepOf? (package : String) (listed path : Doc) : Option (Doc × String) :=
  (path.needText.toOption.filter (Text.contains · package)).map (listed, ·)

def stepsOf (package : String) (listed : Doc) : List (Doc × String) :=
  ((listed.entry "paths" >>= Doc.each).toOption.getD []).filterMap (stepOf? package listed)

def listings (w : Workspace) (folder : String) : List Path :=
  if (w.nodeAt? (Path.ofString folder)).isSome then
    ((w.list (Path.ofString folder)).toOption.getD []).map (Path.ofString folder).child
  else []

def stepsIn (w : Workspace) (package : String) (file : Path) : List (Doc × String) :=
  (((listedIn file).execute w).1.toOption.getD []).flatMap (stepsOf package)

def allSteps (w : Workspace) (folder package : String) : List (Doc × String) :=
  (listings w folder).flatMap (stepsIn w package)

/-- No replacement for the package finds anything. -/
def AtRest (w : Workspace) (folder package : String) : Prop :=
  ∀ step ∈ allSteps w folder package, (replaceOnce step.1 step.2).execute w = (.ok 0, w)

/-- No file is selected by two of the replacements, and none of the listings by any. -/
structure Apart (w : Workspace) (folder package : String) : Prop where
  files : (allSteps w folder package).Pairwise fun first second =>
    ∀ place ∈ reached w first.2, place ∉ reached w second.2
  listings : ∀ step ∈ allSteps w folder package, ∀ place ∈ w.filePlaces (listings w folder), place ∉ reached w step.2

def runSteps (steps : List (Doc × String)) : Job Unit :=
  steps.forM fun step => do
    let _ <- replaceOnce step.1 step.2

lemma runSteps_cons (step : Doc × String) (rest : List (Doc × String)) :
    runSteps (step :: rest) = replaceOnce step.1 step.2 >>= fun _ => runSteps rest := by
  change ((replaceOnce step.1 step.2 >>= fun _ => pure ()) >>= fun _ => runSteps rest) = _
  rw [bind_assoc]
  rfl

lemma runSteps_append (first second : List (Doc × String)) :
    runSteps (first ++ second) = runSteps first >>= fun _ => runSteps second :=
  forM_append

lemma runSteps_of_foldlM {state last : Nat × Nat}
    (ran : (paths.foldlM (applyIn package listed) state).execute v = (.ok last, next)) :
    (runSteps (paths.filterMap (stepOf? package listed))).execute v = (.ok (), next) := by
  induction paths generalizing v state with
  | nil =>
    cases ran
    rfl
  | cons path rest ih =>
    obtain ⟨middle, between, first, later⟩ := of_bind_ok ran
    obtain ⟨text, isText, made⟩ := ofExcept_bind_eq_ok first
    rw [filterMap_cons, stepOf?, isText]
    cases inside : contains text package <;> rw [inside] at made
    · cases made
      simpa [Except.toOption, Option.filter, inside] using ih later
    · rcases of_bind_ok made with ⟨count, _, replaced, ended⟩
      cases ended
      simp only [Except.toOption, Option.filter, inside, if_true, Option.map_some]
      rw [runSteps_cons, bind_ok replaced]
      exact ih later

lemma fileJob_checkMade (listed : Doc) (expected : Nat) (made : Nat × Nat) : FileJob false (checkMade listed expected made) := by
  have compares : FileJob false (Job.ofExcept (listed.entry "count") >>= fun count =>
      if !count.same (.int made.2) then fail .unmetAssumption else pure ()) := by
    refine bind (ofExcept _) fun count => ?_
    split
    · exact fail _
    · exact pure ()
  rw [checkMade]
  split
  · split
    · exact bind (fail _) fun _ => compares
    · exact compares
  · exact pure ()

lemma runSteps_of_applyListed (ran : (applyListed package listed).execute v = (.ok (), next)) :
    (runSteps (stepsOf package listed)).execute v = (.ok (), next) := by
  obtain ⟨paths, listing, made⟩ := ofExcept_bind_eq_ok ran
  obtain ⟨counted, after, folded, checked⟩ := of_bind_ok made
  have same := (fileJob_checkMade listed paths.length counted).idle rfl after
  rw [checked] at same
  have entry : (listed.entry "paths" >>= Doc.each) = .ok paths := listing
  rw [stepsOf, entry, show next = after from same]
  exact runSteps_of_foldlM folded

lemma runSteps_of_listed (ran : (docs.forM (applyListed package)).execute v = (.ok (), next)) :
    (runSteps (docs.flatMap (stepsOf package))).execute v = (.ok (), next) := by
  induction docs generalizing v with
  | nil => exact ran
  | cons listed rest ih =>
    obtain ⟨_, between, first, later⟩ := of_bind_ok ran
    rw [flatMap_cons, runSteps_append, bind_ok (runSteps_of_applyListed first)]
    exact ih later

lemma runSteps_frame (rewritten : w.Rewritten v) (ran : (runSteps steps).execute v = (.ok (), next)) :
    w.Rewritten next /\ ∀ place, (∀ step ∈ steps, place ∉ reached w step.2) -> next.tree.get? place = v.tree.get? place := by
  induction steps generalizing v with
  | nil =>
    cases ran
    exact ⟨rewritten, fun _ _ => rfl⟩
  | cons step rest ih =>
    rw [runSteps_cons] at ran
    obtain ⟨count, between, first, later⟩ := of_bind_ok ran
    obtain ⟨middle, outside, _⟩ := replaceOnce_settles rewritten first
    obtain ⟨final, frame⟩ := ih middle later
    refine ⟨final, fun place away => ?_⟩
    rw [frame place fun other mem => away other (mem_cons_of_mem step mem), outside place (away step mem_cons_self)]

lemma runSteps_settles (rewritten : w.Rewritten v) (ran : (runSteps steps).execute v = (.ok (), next))
    (apart : steps.Pairwise fun first second => ∀ place ∈ reached w first.2, place ∉ reached w second.2) :
    ∀ step ∈ steps, (replaceOnce step.1 step.2).execute next = (.ok 0, next) := by
  induction steps generalizing v with
  | nil => exact fun _ mem => absurd mem not_mem_nil
  | cons step rest ih =>
    rw [runSteps_cons] at ran
    obtain ⟨count, between, first, later⟩ := of_bind_ok ran
    obtain ⟨middle, _, again⟩ := replaceOnce_settles rewritten first
    obtain ⟨final, frame⟩ := runSteps_frame middle later
    obtain ⟨head, tail⟩ := pairwise_cons.mp apart
    intro other mem
    rcases mem_cons.mp mem with rfl | later'
    · exact again next final fun place inside =>
        frame place fun second isSecond => head second isSecond place inside
    · exact ih middle later tail other later'

/-! ## Reading the listings -/

def listingOf (content : ByteArray) : Except Failure (List Doc) := do
  let text <- ((String.fromUTF8? content).map unifyLineEnds).elim (.error .undecodable) .ok
  (<- (<- Yaml.parse text).entry "replacements").each

lemma execute_listedIn {node : FileNode} (found : v.fileAt file = .ok node) :
    (listedIn file).execute v = (listingOf node.content, v) := by
  have there : (Job.fileAt file).execute v = (.ok node, v) := by rw [execute_fileAt, found]
  have read : (Job.readBytes file).execute v = (.ok node.content, v) := by
    rw [Job.readBytes, bind_ok there]
    rfl
  rw [listedIn, Job.readText, bind_assoc, bind_ok read, Job.decode, listingOf]
  cases String.fromUTF8? node.content with
  | none => rfl
  | some bytes =>
    change (ofExcept (Yaml.parse (unifyLineEnds bytes)) >>= fun doc =>
      Job.ofExcept (doc.entry "replacements" >>= Doc.each)).execute v =
        (Yaml.parse (unifyLineEnds bytes) >>= fun doc => doc.entry "replacements" >>= Doc.each, v)
    cases Yaml.parse (unifyLineEnds bytes) with
    | error err => rfl
    | ok doc => exact execute_ofExcept _ v

lemma fileAt_of_listedIn (read : ((listedIn file).execute v).1 = .ok docs) :
    ∃ node place, v.fileAt file = .ok node /\ v.filePlace? file = some place := by
  obtain ⟨_, _, isText, _⟩ := of_bind_ok (Prod.ext read rfl)
  obtain ⟨_, _, isBytes, _⟩ := of_bind_ok isText
  obtain ⟨node, _, opened, _⟩ := of_bind_ok isBytes
  rw [execute_fileAt] at opened
  have found := (Prod.mk.inj opened).1
  obtain ⟨place, loc, there⟩ := fileAt_eq_ok_iff.mp found
  exact ⟨node, place, found, filePlace?_eq_some_iff.mpr ⟨loc, node, there⟩⟩

lemma stepsIn_kept (rewritten : w.Rewritten v)
    (kept : ∀ place, w.filePlace? file = some place -> v.tree.get? place = w.tree.get? place) :
    stepsIn v package file = stepsIn w package file := by
  cases leads : w.filePlace? file with
  | some place =>
    obtain ⟨loc, node, there⟩ := filePlace?_eq_some_iff.mp leads
    have same := kept place leads
    have before := fileAt_eq_ok_iff.mpr ⟨place, loc, there⟩
    have after : v.fileAt file = .ok node :=
      fileAt_eq_ok_iff.mpr ⟨place, rewritten.placeOf file true ▸ loc, same ▸ there⟩
    rw [stepsIn, execute_listedIn after, stepsIn, execute_listedIn before]
  | none =>
    have nothing (u : Workspace) (away : u.filePlace? file = none) : stepsIn u package file = [] := by
      cases read : ((listedIn file).execute u).1 with
      | error err =>
        rw [stepsIn, read]
        rfl
      | ok docs =>
        obtain ⟨_, place, _, leads⟩ := fileAt_of_listedIn read
        rw [away] at leads
        cases leads
    rw [nothing w leads, nothing v (rewritten.filePlace? file ▸ leads)]

lemma fileJob_listedIn (file : Path) : FileJob false (listedIn file) :=
  bind (readText _) fun _ =>
    bind (ofExcept _) fun _ => ofExcept _

lemma runSteps_of_applyFrom (ran : (applyFrom package file).execute v = (.ok (), next)) :
    (runSteps (stepsIn v package file)).execute v = (.ok (), next) := by
  obtain ⟨docs, after, read, made⟩ := of_bind_ok ran
  have same := (fileJob_listedIn file).idle rfl v
  rw [read] at same
  rw [stepsIn, read, <- show after = v from same]
  exact runSteps_of_listed made

lemma runSteps_of_files (rewritten : w.Rewritten v) (kept : ∀ place ∈ w.filePlaces files, v.tree.get? place = w.tree.get? place)
    (spared : ∀ step ∈ files.flatMap (stepsIn w package), ∀ place ∈ w.filePlaces files, place ∉ reached w step.2)
    (ran : (files.forM (applyFrom package)).execute v = (.ok (), next)) :
    (runSteps (files.flatMap (stepsIn w package))).execute v = (.ok (), next) := by
  induction files generalizing v with
  | nil => exact ran
  | cons file rest ih =>
    obtain ⟨_, between, first, later⟩ := of_bind_ok ran
    have made := runSteps_of_applyFrom first
    rw [stepsIn_kept rewritten fun place leads =>
      kept place (mem_filterMap.mpr ⟨file, mem_cons_self, leads⟩)] at made
    rw [flatMap_cons, runSteps_append, bind_ok made]
    obtain ⟨middle, frame⟩ := runSteps_frame rewritten made
    have more {place : Place} (mem : place ∈ w.filePlaces rest) : place ∈ w.filePlaces (file :: rest) :=
      ((sublist_cons_self file rest).filterMap _).subset mem
    refine ih middle (fun place mem => ?_) (fun step mem place isListing =>
      spared step (mem_append_right _ mem) place (more isListing)) later
    rw [frame place fun step isStep =>
      spared step (mem_append_left _ isStep) place (more mem)]
    exact kept place (more mem)

/-! ## Making them again -/

def IdleIn {α : Type} (v : Workspace) (job : Job α) : Prop :=
  (job.execute v).2 = v

lemma IdleIn.bind {α β : Type} {job : Job α} {later : α -> Job β} (first : IdleIn v job)
    (second : ∀ value, (job.execute v).1 = .ok value -> IdleIn v (later value)) : IdleIn v (job >>= later) := by
  cases ran : (job.execute v).1 with
  | error err =>
    rw [IdleIn, bind_error (Prod.ext ran first)]
  | ok value =>
    rw [IdleIn, bind_ok (Prod.ext ran first)]
    exact second value ran

lemma IdleIn.foldlM {α σ : Type} {step : σ -> α -> Job σ} {items : List α} {state : σ}
    (each : ∀ item ∈ items, ∀ state, IdleIn v (step state item)) : IdleIn v (items.foldlM step state) := by
  induction items generalizing state with
  | nil => rfl
  | cons item rest ih =>
    exact (each item mem_cons_self state).bind fun _ _ =>
      ih fun other mem => each other (mem_cons_of_mem item mem)

lemma IdleIn.forM {α : Type} {step : α -> Job Unit} {items : List α}
    (each : ∀ item ∈ items, IdleIn v (step item)) : IdleIn v (items.forM step) := by
  induction items with
  | nil => rfl
  | cons item rest ih =>
    exact (each item mem_cons_self).bind fun _ _ =>
      ih fun other mem => each other (mem_cons_of_mem item mem)

lemma listings_of_children (present : (v.nodeAt? (Path.ofString folder)).isSome = true)
    (children : ((Job.children (Path.ofString folder)).execute v).1 = .ok files) : listings v folder = files := by
  rw [execute_children] at children
  rw [listings, if_pos present]
  cases listed : v.list (Path.ofString folder) <;> rw [listed] at children
  · cases children
  · exact Except.ok.inj children

lemma mem_stepsOf {path : Doc} {text : String} (listing : (listed.entry "paths" >>= Doc.each) = .ok paths) (mem : path ∈ paths)
    (isText : path.needText = .ok text) (inside : contains text package = true) : (listed, text) ∈ stepsOf package listed := by
  rw [stepsOf, listing]
  refine mem_filterMap.mpr ⟨path, mem, ?_⟩
  rw [stepOf?, isText]
  simp [Except.toOption, Option.filter, inside]

lemma AtRest.idle (rest : AtRest v folder package) : IdleIn v (applyReplacements folder package) := by
  refine IdleIn.bind ((FileJob.exists? _).idle rfl v) fun present isPresent => ?_
  cases present with
  | false => rfl
  | true =>
    refine IdleIn.bind ((FileJob.children _).idle rfl v) fun files isFiles =>
      IdleIn.forM fun file isFile => ?_
    refine IdleIn.bind ((fileJob_listedIn file).idle rfl v) fun docs read =>
      IdleIn.forM fun listed isListed => ?_
    refine IdleIn.bind ((FileJob.ofExcept _).idle rfl v) fun paths isPaths => ?_
    refine IdleIn.bind (IdleIn.foldlM fun path isPath state => ?_)
      fun made _ => (fileJob_checkMade listed paths.length made).idle rfl v
    refine IdleIn.bind ((FileJob.ofExcept _).idle rfl v) fun text isText => ?_
    rw [execute_ofExcept] at isPaths isText
    cases inside : contains text package with
    | false => rfl
    | true =>
      have isStep : (listed, text) ∈ allSteps v folder package := by
        rw [allSteps, listings_of_children (Except.ok.inj isPresent) isFiles]
        refine mem_flatMap.mpr ⟨file, isFile, ?_⟩
        rw [stepsIn, read]
        exact mem_flatMap.mpr ⟨listed, isListed, mem_stepsOf isPaths isPath isText inside⟩
      exact IdleIn.bind (congrArg Prod.snd (rest (listed, text) isStep)) fun _ _ => rfl

lemma forM_of_applyReplacements (ran : (applyReplacements folder package).execute w = (.ok (), next)) :
    ((listings w folder).forM (applyFrom package)).execute w = (.ok (), next) := by
  rw [applyReplacements, bind_ok (execute_exists? _ w)] at ran
  cases present : (w.nodeAt? (Path.ofString folder)).isSome with
  | false =>
    rw [present] at ran
    rw [listings, present]
    exact ran
  | true =>
    rw [present] at ran
    obtain ⟨files, after, listed, ran⟩ := of_bind_ok ran
    have same := (FileJob.children (Path.ofString folder)).idle rfl w
    rw [listed] at same
    rwa [listings_of_children present (congrArg Prod.fst listed), <- show after = w from same]

lemma Apart.atRest (apart : Apart w folder package) (sound : w.Sound)
    (ran : (applyReplacements folder package).execute w = (.ok (), next)) : AtRest next folder package := by
  have start := Rewritten.refl sound
  have made := runSteps_of_files start (fun _ _ => rfl) apart.listings (forM_of_applyReplacements ran)
  obtain ⟨rewritten, frame⟩ := runSteps_frame start made
  have same : allSteps next folder package = allSteps w folder package := by
    rw [allSteps, allSteps, Distribution.listings, rewritten.exists?, rewritten.list, <- Distribution.listings]
    refine flatMap_congr fun file mem => stepsIn_kept rewritten fun place leads => ?_
    exact frame place fun step isStep =>
      apart.listings step isStep place (mem_filterMap.mpr ⟨file, mem, leads⟩)
  rw [AtRest, same]
  exact runSteps_settles start made apart.files

/-- Making the listed replacements again changes no file if no file is selected by two of them and none of the
listings by any; more generally, if none of them finds anything. -/
theorem replacements_again (sound : w.Sound) (ran : (applyReplacements folder package).execute w = (.ok (), next))
    (settled : Apart w folder package \/ AtRest next folder package) :
    ((applyReplacements folder package).execute next).2 = next := by
  rcases settled with apart | rest
  · exact (apart.atRest sound ran).idle
  · exact rest.idle

/-- A package with a file and a listing of replacements in its files. -/
def listing (text : String) : Workspace where
  tree := ⟨[(["w"], .directory), (["w", "p"], .directory), (["w", "p", "a"], .file { content := "x".toUTF8 }),
    (["w", "s"], .directory), (["w", "s", "l"], .file { content := text.toUTF8 })]⟩
  directory := ["w"]

def madeFrom (text : String) : Workspace :=
  ((applyReplacements "s" "p").execute (listing text)).2

def oneReplacement : String :=
  "replacements:\n- paths: [p/a]\n  before: x\n  after: y\n  count: 1\n"

theorem one_replacement_again : ((applyReplacements "s" "p").execute (madeFrom oneReplacement)).2 = madeFrom oneReplacement := by
  have ran : (applyReplacements "s" "p").execute (listing oneReplacement) =
      (.ok (), madeFrom oneReplacement) := run_eq_of_toOption (by decide +kernel)
  have apart : Apart (listing oneReplacement) "s" "p" := ⟨by decide +kernel, by decide +kernel⟩
  exact replacements_again (by decide) ran (.inl apart)

/-- The second replacement brings back what the first one replaced. -/
theorem replacements_grow :
    let text := oneReplacement ++ "- paths: [p/a]\n  before: y\n  after: xz\n  count: 1\n"
    ((applyReplacements "s" "p").execute (listing text)).1.toOption = some () /\
      (madeFrom text).textAt ["w", "p", "a"] = some "xz" /\
      ((applyReplacements "s" "p").execute (madeFrom text)).2.textAt ["w", "p", "a"] = some "xzz" := by
  decide +kernel

end Distribution
end Refinery
