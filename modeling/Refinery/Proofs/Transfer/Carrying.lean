import Refinery.Proofs.Transfer.Delivery

namespace Refinery.Transfer

open List Job Workspace Transfer

/-!
# Carrying files one after another

No file comes into the way of another.  So it can be told from the tree at the start whether a file is left
out, carried or refused.  `Carried` says what a run has made of the tree; a run goes on up to the first file
that is refused.
-/

variable {w now : Workspace} {src dest : Path} {home : Place} {aim : Aim} {merge : Option Merge}
  {stop : Stop} {new file : FileNode} {err : Failure} {tree : Tree}

/-! ## Where different files come to -/

lemma Stop.eq_of_names {first second : Stop} (same : first.names = second.names) : first = second := by
  obtain ⟨way, name⟩ := append_inj' same rfl
  exact Prod.ext way (List.cons.inj name).1

lemma way_slot (tree : Tree) (aim : Aim) (stop : Stop) : aim.goal ++ stop.1 <+: slot tree (aim.goal ++ stop.names) stop.2 := by
  obtain ⟨more, place⟩ := slot_eq tree (aim.goal ++ stop.names) stop.2
  rw [place, <- goal_names, append_assoc]
  exact prefix_append _ _

section Files

variable {other : Stop} (sound : tree.Sound) (found : tree.get? (home ++ stop.names) = some (.file new))
  (otherFound : tree.get? (home ++ other.names) = some (.file file))
include sound found otherFound

lemma eq_of_goal {more others : List String} (goal : Place)
    (same : goal ++ stop.names ++ more = goal ++ other.names ++ others) : stop = other := by
  rw [append_assoc, append_assoc] at same
  have whole := append_cancel_left same
  rcases prefix_or_prefix_of_prefix (prefix_append stop.names more) (whole ▸ prefix_append other.names others) with inside | outside
  · exact Stop.eq_of_names (sound.eq_of_file_prefix found otherFound inside)
  · exact (Stop.eq_of_names (sound.eq_of_file_prefix otherFound found outside)).symm

lemma eq_of_slot (same : slot tree (aim.goal ++ stop.names) stop.2 =
    slot tree (aim.goal ++ other.names) other.2) : stop = other := by
  obtain ⟨more, place⟩ := slot_eq tree (aim.goal ++ stop.names) stop.2
  obtain ⟨others, otherPlace⟩ := slot_eq tree (aim.goal ++ other.names) other.2
  exact eq_of_goal sound found otherFound aim.goal (place ▸ otherPlace ▸ same)

lemma goal_aside (goal : Place) (more : List String) : ¬ goal ++ stop.names ++ more <+: goal ++ other.1 := by
  intro early
  rw [append_assoc] at early
  have within := (prefix_append_right_inj goal).mp early
  have start := (prefix_append stop.names more).trans (within.trans (prefix_append _ [other.2]))
  have short := within.length_le
  rw [sound.eq_of_file_prefix found otherFound start] at short
  simp [Stop.names] at short

end Files

/-! ## How a file fares -/

structure Free (w : Workspace) (source : Path) (home : Place) (destination : Path) (aim : Aim) (stop : Stop) :
    Prop where
  bound : Bound w source home destination aim
  file : ∃ new, w.tree.get? (home ++ stop.names) = some (.file new)
  takes : Takes w.tree aim stop
  aside : ¬ home <+: slot w.tree (aim.goal ++ stop.names) stop.2 \/
    ∃ name, home ++ [name] <+: slot w.tree (aim.goal ++ stop.names) stop.2 /\ w.tree.get? (home ++ [name]) = none

inductive Fares (w : Workspace) (source : Path) (home : Place) (destination : Path) (aim : Aim)
    (out : Stop -> Bool) (stop : Stop) : Prop
  | leftOut (hit : out stop = true)
  | free (free : Free w source home destination aim stop)
  | refused {failure : Failure} (bound : Bound w source home destination aim)
      (refused : Refused w.tree destination aim stop failure)

section

variable (free : Free w src home dest aim stop)
include free

lemma Free.ne_of_present {rest : List String} {node : Node} (found : w.tree.get? (home ++ rest) = some node) :
    home ++ rest ≠ slot w.tree (aim.goal ++ stop.names) stop.2 := by
  intro same
  rcases free.aside with outside | ⟨name, inside, absent⟩
  · exact outside (same ▸ prefix_append home rest)
  · exact free.bound.sound.tree.present_of_prefix found (same ▸ inside) absent

lemma Free.not_below {way : List String} {node : Node} (named : way ≠ []) (found : w.tree.get? (home ++ way) = some node) :
    ¬ home ++ way <+: slot w.tree (aim.goal ++ stop.names) stop.2 := by
  intro below
  rcases free.aside with outside | ⟨name, inside, absent⟩
  · exact outside ((prefix_append home way).trans below)
  · refine free.bound.sound.tree.present_of_prefix found ?_ absent
    refine prefix_of_prefix_length_le inside below ?_
    simpa using Nat.succ_le_of_lt (length_pos_iff.mpr named)

end

/-! ## Files carried one after another -/

variable {done : Stop -> Prop} {out : Stop -> Bool} {skips : List Path} {place : Place}

def Paved (w : Workspace) (aim : Aim) (done : Stop -> Prop) (place : Place) : Prop :=
  w.tree.get? place = none /\ ∃ stop, done stop /\ place <+: aim.goal ++ stop.1

structure Carried (w : Workspace) (source : Path) (home : Place) (destination : Path) (aim : Aim)
    (merge : Option Merge) (done : Stop -> Prop) (now : Workspace) : Prop where
  sound : now.Sound
  frame : now = { w with tree := now.tree }
  grows : Tree.Grows w.tree now.tree
  free : ∀ stop, done stop -> Free w source home destination aim stop
  put : ∀ stop new, done stop -> w.tree.get? (home ++ stop.names) = some (.file new) ->
    ∃ file, now.tree.get? (slot w.tree (aim.goal ++ stop.names) stop.2) = some (.file file) /\
      file.mode = new.mode /\ file.content = landing w.tree destination aim merge stop new /\
      (merge = none -> file = new)
  made : ∀ place, Paved w aim done place -> now.tree.get? place = some .directory
  kept : ∀ place, ¬ Paved w aim done place -> (∀ stop, done stop -> place ≠ slot w.tree (aim.goal ++ stop.names) stop.2) ->
    now.tree.get? place = w.tree.get? place

lemma Carried.congr {others : Stop -> Prop} (carried : Carried w src home dest aim merge done now)
    (same : ∀ stop, done stop ↔ others stop) : Carried w src home dest aim merge others now :=
  (funext fun stop => propext (same stop) : done = others) ▸ carried

namespace Carried

variable (carried : Carried w src home dest aim merge done now)
include carried

lemma directory : now.directory = w.directory := by
  rw [carried.frame]

lemma bound (bound : Bound w src home dest aim) : Bound now src home dest aim :=
  ⟨carried.sound, bound.leads.grown carried.grows carried.directory, bound.names,
    bound.anchored.grown carried.grows carried.directory, bound.plain⟩

lemma get?_source {rest : List String} {node : Node} (found : w.tree.get? (home ++ rest) = some node) :
    now.tree.get? (home ++ rest) = some node := by
  rw [carried.kept, found]
  · rintro ⟨absent, _⟩
    cases found.symm.trans absent
  · exact fun stop isDone => (carried.free stop isDone).ne_of_present found

lemma steady (leads : LeadsTo w src home) (named : src.names ≠ [])
    (linkFree : ∀ rest target, w.tree.get? (home ++ rest) ≠ some (.link target)) : Steady w src home now where
  sound := carried.sound
  leads := leads.grown carried.grows carried.directory
  named := named
  kept rest node found := carried.get?_source found
  fresh way name further standing := by
    have aside : ∀ stop, done stop -> ¬ home ++ (way ++ [name]) <+: slot w.tree (aim.goal ++ stop.names) stop.2 := by
      intro stop isDone below
      rw [<- append_assoc] at below
      exact (carried.free stop isDone).not_below further standing ((prefix_append _ _).trans below)
    refine carried.kept _ ?_ fun stop isDone same => aside stop isDone (same ▸ prefix_refl _)
    rintro ⟨_, stop, isDone, early⟩
    exact aside stop isDone (early.trans (way_slot w.tree aim stop))
  linkFree := linkFree

variable (sound : w.Sound) (found : w.tree.get? (home ++ stop.names) = some (.file new))
include sound found

lemma ne_of_way (early : place <+: aim.goal ++ stop.1) (other : Stop) (isDone : done other) :
    place ≠ slot w.tree (aim.goal ++ other.names) other.2 := by
  rintro rfl
  obtain ⟨_, otherFound⟩ := (carried.free other isDone).file
  obtain ⟨more, place⟩ := slot_eq w.tree (aim.goal ++ other.names) other.2
  exact goal_aside sound.tree otherFound found aim.goal more (place ▸ early)

lemma not_paved (more : List String) : ¬ Paved w aim done (aim.goal ++ stop.names ++ more) := by
  rintro ⟨_, other, isDone, early⟩
  obtain ⟨_, otherFound⟩ := (carried.free other isDone).file
  exact goal_aside sound.tree found otherFound aim.goal more early

lemma get?_names : now.tree.get? (aim.goal ++ stop.names) = w.tree.get? (aim.goal ++ stop.names) \/
    done stop /\ slot w.tree (aim.goal ++ stop.names) stop.2 = aim.goal ++ stop.names := by
  by_cases put : ∃ other, done other /\ aim.goal ++ stop.names = slot w.tree (aim.goal ++ other.names) other.2
  · rcases put with ⟨other, isDone, here⟩
    obtain ⟨_, otherFound⟩ := (carried.free other isDone).file
    obtain ⟨more, place⟩ := slot_eq w.tree (aim.goal ++ other.names) other.2
    have same : stop = other := by
      refine eq_of_goal sound.tree found otherFound aim.goal (?_ : _ ++ [] = _ ++ more)
      rw [append_nil, here, place]
    subst same
    exact .inr ⟨isDone, here.symm⟩
  · refine .inl (carried.kept _ ?_ fun other isDone same => put ⟨other, isDone, same⟩)
    have aside := carried.not_paved sound found []
    rwa [append_nil] at aside

lemma slot_eq : slot now.tree (aim.goal ++ stop.names) stop.2 = slot w.tree (aim.goal ++ stop.names) stop.2 := by
  rcases carried.get?_names sound found with same | ⟨isDone, direct⟩
  · rw [slot, slot, isDirectoryAt, isDirectoryAt, same]
  · rcases carried.put stop new isDone found with ⟨file, there, _⟩
    rw [direct] at there ⊢
    rw [slot, isDirectoryAt, there]
    rfl

lemma landing_eq (steadies : Steadies merge) :
    landing now.tree dest aim merge stop new = landing w.tree dest aim merge stop new := by
  rcases carried.get?_names sound found with same | ⟨isDone, direct⟩
  · rw [landing, landing, same]
  · rcases carried.put stop new isDone found with ⟨file, there, _, content, _⟩
    have arrives : landing now.tree dest aim merge stop new =
        arriving merge ((Path.mk dest.anchor (dest.names ++ stop.1)).child stop.2) new.content file.content := by
      rw [landing, <- direct, there]
    rw [arrives, content, steadies.arriving_landing]

lemma takes (takes : Takes w.tree aim stop) : Takes now.tree aim stop := by
  refine ⟨fun start early => ?_, fun target linked => ?_, ?_⟩
  · by_cases paved : Paved w aim done (aim.base ++ start)
    · exact .inr (carried.made _ paved)
    · rw [carried.kept _ paved]
      · exact takes.way start early
      · refine carried.ne_of_way sound found ?_
        rw [goal_append]
        exact (prefix_append_right_inj aim.base).mpr early
  · rcases carried.get?_names sound found with same | ⟨isDone, direct⟩
    · exact takes.noLink target (same ▸ linked)
    · rcases carried.put stop new isDone found with ⟨file, there, _⟩
      rw [direct, linked] at there
      cases there
  · rw [carried.slot_eq sound found]
    by_cases put : ∃ other, done other /\ slot w.tree (aim.goal ++ stop.names) stop.2 =
        slot w.tree (aim.goal ++ other.names) other.2
    · rcases put with ⟨other, isDone, same⟩
      obtain ⟨otherNew, otherFound⟩ := (carried.free other isDone).file
      obtain ⟨file, there, _⟩ := carried.put other otherNew isDone otherFound
      exact .inr ⟨file, by rw [same, there]⟩
    · rcases Transfer.slot_eq w.tree (aim.goal ++ stop.names) stop.2 with ⟨more, place⟩
      rw [carried.kept]
      · exact takes.clear
      · rw [place]
        exact carried.not_paved sound found more
      · exact fun other isDone same => put ⟨other, isDone, same⟩

lemma refused (refused : Refused w.tree dest aim stop err) : Refused now.tree dest aim stop err := by
  cases refused with
  | @blocked early rest first file parts there =>
    refine .blocked parts ((carried.kept _ ?_ ?_).trans there)
    · rintro ⟨absent, _⟩
      cases there.symm.trans absent
    · refine carried.ne_of_way sound found ?_
      rw [goal_append, parts]
      exact (prefix_append_right_inj aim.base).mpr ⟨rest, by simp⟩
  | full standing inner => exact .full (carried.grows.directory standing) (carried.grows.directory inner)

lemma deliver (steadies : Steadies merge) (free : Free w src home dest aim stop) :
    ∃ next, (deliver src dest merge stop).execute now = (.ok (), next) /\
      Carried w src home dest aim merge (fun other => done other \/ other = stop) next := by
  have slots := carried.slot_eq sound found
  rcases (carried.bound free.bound).execute_deliver (carried.get?_source found)
    (carried.takes sound found free.takes) (slots ▸ (free.ne_of_present found).symm) merge with
    ⟨between, tree, file, ran, made, put, soundNext, grows, mode, content, same⟩
  rw [slots] at put
  have free' : ∀ other, done other \/ other = stop -> Free w src home dest aim other := by
    rintro other (isDone | rfl)
    · exact carried.free other isDone
    · exact free
  refine ⟨_, ran, soundNext, by rw [carried.frame], carried.grows.trans grows, free', ?_, ?_, ?_⟩
  · intro other otherNew isDone otherFound
    by_cases equal : other = stop
    · subst equal
      cases found.symm.trans otherFound
      exact ⟨file, by rw [put, if_pos rfl], mode, content.trans (carried.landing_eq sound found steadies), same⟩
    · rcases carried.put other otherNew (isDone.resolve_right equal) otherFound with ⟨old, there, facts⟩
      refine ⟨old, ?_, facts⟩
      rw [put, if_neg fun same => equal (eq_of_slot sound.tree otherFound found same), made.of_present (by rw [there]; simp), there]
  · rintro place ⟨absent, other, isDone, early⟩
    obtain ⟨_, otherFound⟩ := (free' other isDone).file
    obtain ⟨more, slotPlace⟩ := Transfer.slot_eq w.tree (aim.goal ++ stop.names) stop.2
    have elsewhere : place ≠ slot w.tree (aim.goal ++ stop.names) stop.2 := by
      rintro rfl
      exact goal_aside sound.tree found otherFound aim.goal more (slotPlace ▸ early)
    rw [put, if_neg elsewhere]
    by_cases paved : Paved w aim done place
    · have standing := carried.made place paved
      rw [made.of_present (by rw [standing]; simp), standing]
    · have untouched := carried.kept place paved (carried.ne_of_way sound otherFound early)
      rcases isDone with isDone | rfl
      · exact absurd ⟨absent, other, isDone, early⟩ paved
      · rw [made, if_pos ⟨untouched.trans absent, early⟩]
  · intro place unpaved apart
    have untouched := carried.kept place (fun paved => unpaved ⟨paved.1, paved.2.imp fun _ both => ⟨.inl both.1, both.2⟩⟩)
      fun other isDone => apart other (.inl isDone)
    rw [put, if_neg (apart stop (.inr rfl)), made, if_neg, untouched]
    rintro ⟨absent, early⟩
    exact unpaved ⟨untouched.symm.trans absent, stop, .inr rfl, early⟩

end Carried

/-! ## Whole runs -/

structure Trip (w : Workspace) (source : Path) (home : Place) (destination : Path) (aim : Aim)
    (excludes : List Path) (merge : Option Merge) (out : Stop -> Bool) : Prop where
  sound : w.Sound
  leads : LeadsTo w source home
  named : source.names ≠ []
  linkFree : ∀ rest target, w.tree.get? (home ++ rest) ≠ some (.link target)
  steadies : Steadies merge
  decides : ∀ (tree : Tree) (stop : Stop), (isExcluded excludes ⟨source.anchor, source.names ++ stop.1⟩
      ⟨source.anchor, source.names ++ stop.names⟩).execute { w with tree := tree } =
    (.ok (out stop), { w with tree := tree })
  fares : ∀ stop new, w.tree.get? (home ++ stop.names) = some (.file new) -> Fares w source home destination aim out stop

namespace Trip

variable (trip : Trip w src home dest aim skips merge out)
include trip

lemma nothing : Carried w src home dest aim merge (fun _ => False) w :=
  ⟨trip.sound, rfl, Tree.Grows.refl w.tree, nofun, nofun, fun _ paved => paved.2.elim fun _ both => both.1.elim, fun _ _ _ => rfl⟩

section

variable (found : w.tree.get? (home ++ stop.names) = some (.file new))
  (carried : Carried w src home dest aim merge done now)
include found carried

lemma execute_carry (copied : Bool) : (carry src dest skips merge copied stop).execute now =
      if out stop then (.ok copied, now) else (deliver src dest merge stop >>= fun _ => pure true).execute now := by
  have decided := trip.decides now.tree stop
  rw [<- carried.frame] at decided
  exact Transfer.execute_carry trip.leads trip.sound found decided copied

lemma carry_refused (bound : Bound w src home dest aim)
    (refused : Refused w.tree dest aim stop err) (included : out stop = false) (copied : Bool) :
    (carry src dest skips merge copied stop).execute now = (.error err, now) := by
  rw [trip.execute_carry found carried, if_neg (by simp [included])]
  exact bind_error ((carried.bound bound).execute_refused (carried.get?_source found)
    (carried.refused trip.sound found refused) merge)

lemma carry (copied : Bool) : (∃ err, out stop = false /\ Refused w.tree dest aim stop err /\
        (carry src dest skips merge copied stop).execute now = (.error err, now)) \/
      ∃ next, (carry src dest skips merge copied stop).execute now = (.ok (copied || !out stop), next) /\
        Carried w src home dest aim merge (fun other => done other \/ other = stop /\ out stop = false) next := by
  cases included : out stop with
  | true =>
    refine .inr ⟨now, ?_, carried.congr fun other => by simp⟩
    rw [trip.execute_carry found carried, if_pos included, Bool.not_true, Bool.or_false]
  | false =>
    cases trip.fares stop new found with
    | leftOut hit => cases hit.symm.trans included
    | free free =>
      obtain ⟨next, ran, onward⟩ := carried.deliver trip.sound found trip.steadies free
      refine .inr ⟨next, ?_, onward.congr fun other => by simp⟩
      rw [trip.execute_carry found carried, if_neg (by simp [included]), bind_ok ran, Bool.not_false, Bool.or_true]
      rfl
    | refused bound refused =>
      exact .inl ⟨_, rfl, refused, trip.carry_refused found carried bound refused included copied⟩

end

lemma run {stops : List Stop} (files : ∀ stop ∈ stops, ∃ new, w.tree.get? (home ++ stop.names) = some (.file new))
    (carried : Carried w src home dest aim merge done now) (copied : Bool) : ∃ early late outcome next, stops = early ++ late /\
      (stops.foldlM (Transfer.carry src dest skips merge) copied).execute now = (outcome, next) /\
      Carried w src home dest aim merge (fun stop => done stop \/ stop ∈ early /\ out stop = false) next /\
      (late = [] /\ outcome = .ok (copied || early.any (!out ·)) \/ ∃ stop rest err, late = stop :: rest /\ out stop = false /\
          Refused w.tree dest aim stop err /\ outcome = .error err) := by
  induction stops generalizing now done copied with
  | nil => exact ⟨[], [], _, now, rfl, rfl, carried.congr fun stop => by simp, .inl ⟨rfl, by simp⟩⟩
  | cons stop rest ih =>
    obtain ⟨new, found⟩ := files stop mem_cons_self
    rw [foldlM_cons]
    rcases trip.carry found carried copied with ⟨err, included, refused, ran⟩ | ⟨next, ran, onward⟩
    · rw [bind_error ran]
      exact ⟨[], stop :: rest, _, now, rfl, rfl, carried.congr fun stop => by simp,
        .inr ⟨stop, rest, err, rfl, included, refused, rfl⟩⟩
    · rw [bind_ok ran]
      rcases ih (fun other mem => files other (mem_cons_of_mem stop mem)) onward _ with
        ⟨early, late, outcome, last, rfl, ranRest, carriedLast, ended⟩
      refine ⟨stop :: early, late, outcome, last, rfl, ranRest, carriedLast.congr fun other => ?_, ?_⟩
      · rw [mem_cons, or_assoc, or_and_right]
        exact or_congr_right (or_congr_left (and_congr_right fun same => by rw [same]))
      · rwa [any_cons, <- Bool.or_assoc]

lemma steady : ∀ now, (∃ done, Carried w src home dest aim merge done now) -> Steady w src home now := by
  rintro now ⟨done, carried⟩
  exact carried.steady trip.leads trip.named trip.linkFree

lemma keeps : ∀ stop new, w.tree.get? (home ++ Stop.names stop) = some (.file new) ->
    ∀ copied now answer next, (∃ done, Carried w src home dest aim merge done now) ->
      (Transfer.carry src dest skips merge copied stop).execute now = (.ok answer, next) ->
      ∃ done, Carried w src home dest aim merge done next := by
  rintro stop new found copied now answer next ⟨done, carried⟩ ran
  rcases trip.carry found carried copied with ⟨err, _, _, refused⟩ | ⟨other, carries, onward⟩
  · cases ran.symm.trans refused
  · cases ran.symm.trans carries
    exact ⟨_, onward⟩

lemma execute_walk (carried : Carried w src home dest aim merge done now)
    (same : ∀ name, now.tree.get? (home ++ [name]) = w.tree.get? (home ++ [name])) :
    (Transfer.copyDirectory src dest skips merge).execute now = ((itinerary w.tree home (w.tree.size + 1000) []).foldlM
        (Transfer.carry src dest skips merge) false).execute now :=
  Steady.execute_copyDirectory trip.sound trip.steady trip.keeps trip.leads.standing same ⟨done, carried⟩

lemma files : ∀ stop ∈ itinerary w.tree home (w.tree.size + 1000) [],
    ∃ new, w.tree.get? (home ++ stop.names) = some (.file new) :=
  fun _ mem => files_itinerary trip.sound.tree trip.linkFree mem

end Trip

/-! ## Destinations without links -/

/-- A directory and a destination without links, such that no file comes to below the directory itself, or all
of them over a name that is new in it. -/
structure Course (w : Workspace) (source : Path) (home : Place) (destination : Path) (aim : Aim) : Prop where
  bound : Bound w source home destination aim
  named : source.names ≠ []
  linkFree : ∀ rest target, w.tree.get? (home ++ rest) ≠ some (.link target)
  free : ∀ start, start <+: aim.missing \/ aim.missing <+: start -> ∀ target, w.tree.get? (aim.base ++ start) ≠ some (.link target)
  aside : (∀ rest file, w.tree.get? (home ++ rest) = some (.file file) -> ¬ home <+: aim.goal ++ rest) \/
    ∃ name, home ++ [name] <+: aim.goal /\ w.tree.get? (home ++ [name]) = none

lemma Takes.outside (takes : Takes tree aim stop) (standing : tree.get? home = some .directory)
    (outside : ¬ home <+: aim.goal ++ stop.names) : ¬ home <+: slot tree (aim.goal ++ stop.names) stop.2 := by
  have clear := takes.clear
  rw [slot] at clear ⊢
  by_cases into : isDirectoryAt tree (aim.goal ++ stop.names) = true
  · rw [if_pos into] at clear ⊢
    intro early
    rcases prefix_concat_iff.mp early with here | above
    · rw [<- here, standing] at clear
      simp at clear
    · exact outside above
  · rwa [if_neg into]

namespace Course

variable (course : Course w src home dest aim)
include course

lemma noLink (rest : List String) (target : String) : w.tree.get? (aim.goal ++ rest) ≠ some (.link target) := by
  rw [goal_append]
  exact course.free _ (.inr (prefix_append _ _)) target

lemma clear_or_blocked (stop : Stop) : (∀ start, start <+: aim.missing ++ stop.1 -> w.tree.get? (aim.base ++ start) = none \/
        w.tree.get? (aim.base ++ start) = some .directory) \/ ∃ err, Refused w.tree dest aim stop err := by
  by_cases blocked : ∃ start file, start <+: aim.missing ++ stop.1 /\ w.tree.get? (aim.base ++ start) = some (.file file)
  · rcases blocked with ⟨start, file, ⟨rest, parts⟩, there⟩
    rcases eq_nil_or_concat start with empty | ⟨early, first, whole⟩
    · rw [empty, append_nil, course.bound.anchored.standing] at there
      cases there
    · rw [concat_eq_append] at whole
      have cut : aim.missing ++ stop.1 = early ++ first :: rest := by
        rw [<- parts, whole, append_assoc]
        rfl
      exact .inr ⟨_, .blocked cut (whole ▸ there)⟩
  · refine .inl fun start early => ?_
    cases there : w.tree.get? (aim.base ++ start) with
    | none => exact .inl rfl
    | some node =>
      cases node with
      | directory => exact .inr rfl
      | file file => exact absurd ⟨start, file, early, there⟩ blocked
      | link target =>
        refine absurd there (course.free start ?_ target)
        exact prefix_or_prefix_of_prefix early (prefix_append _ _)

lemma takes_or_refused (stop : Stop) : Takes w.tree aim stop \/ ∃ err, Refused w.tree dest aim stop err := by
  rcases course.clear_or_blocked stop with way | blocked
  · rcases slot_eq w.tree (aim.goal ++ stop.names) stop.2 with ⟨more, place⟩
    cases there : w.tree.get? (slot w.tree (aim.goal ++ stop.names) stop.2) with
    | none => exact .inl ⟨way, course.noLink _, .inl there⟩
    | some node =>
      cases node with
      | file old => exact .inl ⟨way, course.noLink _, .inr ⟨old, there⟩⟩
      | link target =>
        rw [place, append_assoc] at there
        exact absurd there (course.noLink _ target)
      | directory =>
        rw [slot] at there
        split at there
        next standing => exact .inr ⟨_, .full (isDirectoryAt_eq_true_iff.mp standing) there⟩
        next standing => exact absurd (isDirectoryAt_eq_true_iff.mpr there) standing
  · exact .inr blocked

lemma trip (steadies : Steadies merge) : Trip w src home dest aim [] merge fun _ => false where
  sound := course.bound.sound
  leads := course.bound.leads
  named := course.named
  linkFree := course.linkFree
  steadies := steadies
  decides _ _ := rfl
  fares stop new found := by
    rcases course.takes_or_refused stop with takes | ⟨err, refused⟩
    · refine .free ⟨course.bound, ⟨new, found⟩, takes, ?_⟩
      rcases course.aside with outside | ⟨name, inside, absent⟩
      · exact .inl (takes.outside course.bound.leads.standing (outside _ new found))
      · refine .inr ⟨name, (inside.trans (prefix_append _ stop.1)).trans (way_slot w.tree aim stop), absent⟩
    · exact .refused course.bound refused

end Course

structure Errand (w : Workspace) (source : Path) (home : Place) (destination : Path) (aim : Aim) :
    Prop where
  sound : w.Sound
  leads : LeadsTo w source home
  named : source.names ≠ []
  linkFree : ∀ rest target, w.tree.get? (home ++ rest) ≠ some (.link target)
  names : destination.names = aim.upper ++ aim.missing
  anchored : LeadsTo w ⟨destination.anchor, aim.upper⟩ aim.base
  plain : ∀ name ∈ aim.missing, IsPlain name
  free : ∀ start, start <+: aim.missing \/ aim.missing <+: start -> ∀ target, w.tree.get? (aim.base ++ start) ≠ some (.link target)
  apart : ∀ rest file, w.tree.get? (home ++ rest) = some (.file file) -> ¬ home <+: aim.goal ++ rest

namespace Errand

variable (errand : Errand w src home dest aim)
include errand

lemma bound : Bound w src home dest aim :=
  ⟨errand.sound, errand.leads, errand.names, errand.anchored, errand.plain⟩

lemma trip (steadies : Steadies merge) : Trip w src home dest aim [] merge fun _ => false :=
  Course.trip ⟨errand.bound, errand.named, errand.linkFree, errand.free, .inl errand.apart⟩ steadies

lemma get?_home (carried : Carried w src home dest aim merge done now) (rest : List String) :
    now.tree.get? (home ++ rest) = w.tree.get? (home ++ rest) := by
  have outside : ∀ stop, done stop -> ¬ home <+: slot w.tree (aim.goal ++ stop.names) stop.2 := by
    intro stop isDone
    obtain ⟨new, found⟩ := (carried.free stop isDone).file
    exact (carried.free stop isDone).takes.outside errand.leads.standing (errand.apart _ new found)
  refine carried.kept _ ?_ fun stop isDone same => outside stop isDone (same ▸ prefix_append _ _)
  rintro ⟨_, stop, isDone, early⟩
  exact outside stop isDone ((prefix_append home rest).trans (early.trans (way_slot w.tree aim stop)))

lemma execute_move (carried : Carried w src home dest aim merge done now) (literal : src.Literal)
    (steadies : Steadies merge) : (move (.many [.path src]) (some dest) .nothing merge).execute now =
      ((itinerary w.tree home (w.tree.size + 1000) []).foldlM (carry src dest [] merge) false).execute now := by
  rw [execute_move_leads carried.sound literal (carried.bound errand.bound).leads dest rfl rfl merge, noting_nil]
  exact (errand.trip steadies).execute_walk carried fun _ => errand.get?_home carried _

end Errand

end Refinery.Transfer
