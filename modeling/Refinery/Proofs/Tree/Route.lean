import Refinery.Proofs.Tree.Outline

namespace Refinery.Tree

open List

/-!
# Where names lead

A walk over some names followed by others is a walk over the first that goes on from where they lead.  Growth
of the tree keeps every way to a node, and taking nodes away keeps the way to a place unless a link is taken
away that leads to a directory.
-/

variable {tree other : Tree} {start place cwd above : Place} {names more : List String} {follow : Bool}
  {budget : Nat} {path : Path}

/-! ## One view, one way -/

section

variable (same : Same tree other)
include same

lemma locate_congr (cwd : Place) (path : Path) (follow : Bool) : tree.locate cwd path follow = other.locate cwd path follow :=
  same.outline.locate cwd path follow

lemma find?_congr (cwd : Place) (path : Path) : tree.find? cwd path = other.find? cwd path := by
  rw [find?, find?, locate_congr same]
  cases other.locate cwd path with
  | error reason => rfl
  | ok place => exact same place

lemma findSelf?_congr (cwd : Place) (path : Path) : tree.findSelf? cwd path = other.findSelf? cwd path := by
  rw [findSelf?, findSelf?, locate_congr same]
  cases other.locate cwd path false with
  | error reason => rfl
  | ok place => exact same place

end

/-! ## Where a walk can end -/

structure Open (tree : Tree) (place : Place) : Prop where
  plain : ∀ name ∈ place, IsPlain name
  inDirectory : tree.get? place.dropLast = some .directory

section

variable (sound : tree.Sound)
include sound

lemma Sound.up (standing : tree.get? place = some .directory) : tree.get? place.dropLast = some .directory := by
  by_cases named : place = []
  · subst named
    exact standing
  · exact sound.above named standing

lemma Sound.isOpen {node : Node} (found : tree.get? place = some node) : tree.Open place := by
  refine ⟨sound.isPlain found, ?_⟩
  by_cases named : place = []
  · subst named
    rfl
  · exact sound.above named found

lemma Sound.open_child (standing : tree.get? place = some .directory)
    {name : String} (plain : IsPlain name) : tree.Open (place ++ [name]) := by
  refine ⟨?_, by rw [dropLast_concat]; exact standing⟩
  intro each mem
  rcases mem_append.mp mem with inside | last
  · exact sound.isPlain standing each inside
  · rwa [mem_singleton.mp last]

lemma stretch_arrived (standing : tree.get? start = some .directory) (walkable : ∀ name ∈ names, name = "." \/ IsName name)
    (walked : tree.stretch follow start names = .arrived place) : tree.Open place := by
  fun_induction tree.stretch follow start names with
  | case1 start =>
    cases walked
    exact sound.isOpen standing
  | case2 start rest ih => exact ih (sound.up standing) (forall_mem_cons.mp walkable).2 walked
  | case3 start rest _ ih => exact ih standing (forall_mem_cons.mp walkable).2 walked
  | case4 start name rest _ _ found ih => exact ih found (forall_mem_cons.mp walkable).2 walked
  | case5 start name rest _ _ file found | case7 start name rest _ _ target found =>
    cases walked
    exact sound.isOpen found
  | case9 start name rest notUp notDot found =>
    cases walked
    exact sound.open_child standing ⟨(walkable name mem_cons_self).resolve_left notDot, notUp⟩
  | case6 | case8 | case10 => cases walked

lemma stretch_atLink {target : String} {rest : List String} (standing : tree.get? start = some .directory)
    (walked : tree.stretch follow start names = .atLink above target rest) :
    tree.get? above = some .directory /\ (∃ name, tree.get? (above ++ [name]) = some (.link target)) /\ rest <:+ names := by
  fun_induction tree.stretch follow start names with
  | case2 start others ih =>
    obtain ⟨inDirectory, linked, left⟩ := ih (sound.up standing) walked
    exact ⟨inDirectory, linked, left.trans (suffix_cons _ _)⟩
  | case3 start others _ ih =>
    obtain ⟨inDirectory, linked, left⟩ := ih standing walked
    exact ⟨inDirectory, linked, left.trans (suffix_cons _ _)⟩
  | case4 start name others _ _ found ih =>
    obtain ⟨inDirectory, linked, left⟩ := ih found walked
    exact ⟨inDirectory, linked, left.trans (suffix_cons _ _)⟩
  | case8 start name others _ _ goal found =>
    cases walked
    exact ⟨standing, ⟨name, found⟩, suffix_cons name rest⟩
  | case1 | case5 | case6 | case7 | case9 | case10 => cases walked

end

lemma get?_linkBase (standing : tree.get? above = some .directory) (goal : Path) :
    tree.get? (if goal.isAbsolute then [] else above) = some .directory := by
  cases goal.isAbsolute with
  | true => rfl
  | false => exact standing

lemma route_cases (walked : tree.route follow (budget + 1) start names = .ok place) :
    tree.stretch follow start names = .arrived place \/
      ∃ above target rest, tree.stretch follow start names = .atLink above target rest /\
        tree.route follow budget (if (Path.ofString target).isAbsolute then [] else above)
          ((Path.ofString target).names ++ rest) = .ok place := by
  rw [route] at walked
  cases step : tree.stretch follow start names with
  | arrived reached =>
    rw [step] at walked
    cases walked
    exact .inl rfl
  | stuck reason =>
    rw [step] at walked
    cases walked
  | atLink above target rest =>
    rw [step] at walked
    exact .inr ⟨above, target, rest, rfl, walked⟩

lemma route_open (sound : tree.Sound) (standing : tree.get? start = some .directory)
    (walkable : ∀ name ∈ names, name = "." \/ IsName name)
    (walked : tree.route follow budget start names = .ok place) : tree.Open place := by
  induction budget generalizing start names with
  | zero => cases walked
  | succ budget ih =>
    rcases route_cases walked with arrived | ⟨above, target, rest, atLink, onward⟩
    · exact stretch_arrived sound standing walkable arrived
    · rcases stretch_atLink sound standing atLink with ⟨inDirectory, _, left⟩
      refine ih (get?_linkBase inDirectory _) ?_ onward
      intro name mem
      rcases mem_append.mp mem with inGoal | inRest
      · exact .inr (Path.proper_ofString target name inGoal)
      · exact walkable name (left.subset inRest)

/-! ## Names followed by names -/

def onward (tree : Tree) (follow : Bool) (place : Place) (more : List String) : Stretch :=
  match tree.get? place with
  | some .directory => tree.stretch follow place more
  | some _ => .stuck .throughFile
  | none => .stuck .absent

lemma stretch_append (start : Place) (names : List String) (follow : Bool) (sound : tree.Sound)
    (standing : tree.get? start = some .directory) (further : more ≠ []) :
    tree.stretch follow start (names ++ more) = match tree.stretch true start names with
      | .arrived place => tree.onward follow place more
      | .atLink above target rest => .atLink above target (rest ++ more)
      | .stuck reason => .stuck reason := by
  fun_induction tree.stretch true start names with
  | case1 start => simp [onward, standing]
  | case2 start rest ih =>
    exact ih (sound.up standing)
  | case3 start rest _ ih =>
    exact ih standing
  | case4 start name rest notUp notDot found ih =>
    rw [cons_append, stretch, if_neg notUp, if_neg notDot, found]
    exact ih found
  | case7 start name rest notUp notDot target found last => simp at last
  | case5 | case6 | case8 | case9 | case10 => simp [stretch, onward, *]

lemma route_append (follow : Bool) (sound : tree.Sound) (standing : tree.get? start = some .directory) (further : more ≠ [])
    (walked : tree.route true budget start names = .ok place) (dir : tree.get? place = some .directory) :
    ∃ left, left < budget /\ tree.route follow budget start (names ++ more) = tree.route follow (left + 1) place more := by
  induction budget generalizing start names with
  | zero => cases walked
  | succ budget ih =>
    rw [route] at walked
    cases step : tree.stretch true start names with
    | arrived reached =>
      rw [step] at walked
      cases walked
      refine ⟨budget, Nat.lt_succ_self budget, ?_⟩
      rw [route, stretch_append start names follow sound standing further, step, route]
      simp only [onward, dir]
    | stuck reason =>
      rw [step] at walked
      cases walked
    | atLink above target rest =>
      rw [step] at walked
      obtain ⟨left, fewer, onLink⟩ := ih (get?_linkBase (stretch_atLink sound standing step).1 _) walked
      refine ⟨left, Nat.lt_succ_of_lt fewer, ?_⟩
      rw [route, stretch_append start names follow sound standing further, step]
      rwa [append_assoc] at onLink

lemma route_append_ok (sound : tree.Sound) (standing : tree.get? start = some .directory)
    (further : more ≠ []) (walked : tree.route follow budget start (names ++ more) = .ok place) :
    ∃ middle, tree.route true budget start names = .ok middle /\ tree.get? middle = some .directory := by
  induction budget generalizing start names with
  | zero => cases walked
  | succ budget ih =>
    rw [route, stretch_append start names follow sound standing further] at walked
    rw [route]
    cases step : tree.stretch true start names with
    | arrived reached =>
      simp only [step, onward] at walked
      cases node : tree.get? reached with
      | none => simp [node] at walked
      | some kind => cases kind <;> simp_all
    | stuck reason =>
      rw [step] at walked
      cases walked
    | atLink above target rest =>
      rw [step] at walked
      refine ih (get?_linkBase (stretch_atLink sound standing step).1 _) ?_
      rwa [append_assoc]

lemma route_mono {more : Nat} (enough : budget <= more) (walked : tree.route follow budget start names = .ok place) :
    tree.route follow more start names = .ok place := by
  induction budget generalizing more start names with
  | zero => cases walked
  | succ budget ih =>
    obtain ⟨extra, rfl⟩ := Nat.exists_eq_add_of_le enough
    rw [Nat.add_right_comm, route]
    rcases route_cases walked with arrived | ⟨above, target, rest, atLink, onward⟩
    · rw [arrived]
    · rw [atLink]
      exact ih (Nat.le_add_right budget extra) onward

/-! ## Plain names below a directory -/

section

variable (sound : tree.Sound) (standing : tree.get? start = some .directory) (isOpen : tree.Open (start ++ names))
include sound standing isOpen

lemma stretch_below (noLink : follow = true -> ∀ target, tree.get? (start ++ names) ≠ some (.link target)) :
    tree.stretch follow start names = .arrived (start ++ names) := by
  induction names generalizing start with
  | nil => rw [stretch, append_nil]
  | cons name rest ih =>
    have plain : IsPlain name := isOpen.plain name (by simp)
    have parts : start ++ name :: rest = start ++ [name] ++ rest := by simp
    rw [stretch, if_neg plain.2, if_neg plain.1.2.1]
    by_cases last : rest = []
    · subst last
      split
      case h_3 target linked =>
        cases follow with
        | false => rfl
        | true => exact absurd linked (noLink rfl target)
      all_goals rfl
    · have dir : tree.get? (start ++ [name]) = some .directory := by
        have held := isOpen.inDirectory
        rw [parts, dropLast_append_of_ne_nil last] at held
        by_cases next : rest.dropLast = []
        · rwa [next, append_nil] at held
        · exact sound.way rest.dropLast next held
      rw [dir]
      rw [parts] at isOpen noLink ⊢
      exact ih dir isOpen noLink

lemma route_below (noLink : follow = true -> ∀ target, tree.get? (start ++ names) ≠ some (.link target)) :
    tree.route follow (budget + 1) start names = .ok (start ++ names) := by
  rw [route, stretch_below sound standing isOpen noLink]

end

/-- The directory at which a path starts. -/
def origin (cwd : Place) (path : Path) : Place :=
  if path.isAbsolute then [] else cwd

lemma get?_origin (standing : tree.get? cwd = some .directory) (path : Path) : tree.get? (origin cwd path) = some .directory :=
  get?_linkBase standing path

section

variable (sound : tree.Sound) (standing : tree.get? cwd = some .directory)
include sound standing

lemma locate_below (loc : tree.locate cwd path = .ok place)
    (dir : tree.get? place = some .directory) (further : more ≠ []) (isOpen : tree.Open (place ++ more))
    (noLink : follow = true -> ∀ target, tree.get? (place ++ more) ≠ some (.link target)) :
    tree.locate cwd ⟨path.anchor, path.names ++ more⟩ follow = .ok (place ++ more) := by
  obtain ⟨left, _, onward⟩ := route_append follow sound (get?_origin standing path) further loc dir
  exact onward.trans (route_below sound dir isOpen noLink)

lemma locate_append_ok (further : more ≠ []) (loc : tree.locate cwd ⟨path.anchor, path.names ++ more⟩ follow = .ok place) :
    ∃ middle, tree.locate cwd path = .ok middle /\ tree.get? middle = some .directory :=
  route_append_ok sound (get?_origin standing path) further loc

lemma locate_open (walkable : path.Walkable) (loc : tree.locate cwd path follow = .ok place) : tree.Open place :=
  route_open sound (get?_origin standing path) walkable loc

end

lemma stretch_straight (plain : ∀ name ∈ names, IsPlain name)
    (noLink : ∀ early, early <+: names -> follow = true \/ early ≠ names ->
      ∀ target, tree.get? (start ++ early) ≠ some (.link target)) :
    tree.stretch follow start names = .arrived (start ++ names) \/ ∃ reason, tree.stretch follow start names = .stuck reason := by
  induction names generalizing start with
  | nil => exact .inl (by rw [stretch, append_nil])
  | cons name rest ih =>
    have isPlain := plain name mem_cons_self
    have notUp : name ≠ ".." := isPlain.2
    have notDot : name ≠ "." := isPlain.1.2.1
    cases found : tree.get? (start ++ [name]) with
    | none => by_cases last : rest = [] <;> simp [stretch, notUp, notDot, found, last]
    | some node =>
      cases node with
      | file file => by_cases last : rest = [] <;> simp [stretch, notUp, notDot, found, last]
      | link target =>
        by_cases passed : follow = true \/ [name] ≠ name :: rest
        · exact absurd found (noLink [name] ⟨rest, rfl⟩ passed target)
        · simp only [not_or, Bool.not_eq_true, not_not, List.cons.injEq, true_and] at passed
          simp [stretch, notUp, notDot, found, passed.1, <- passed.2]
      | directory =>
        have onward : ∀ early, early <+: rest -> follow = true \/ early ≠ rest ->
            ∀ target, tree.get? (start ++ [name] ++ early) ≠ some (.link target) := by
          intro early inside passed target
          rw [append_assoc]
          exact noLink (name :: early) (cons_prefix_cons.mpr ⟨rfl, inside⟩)
            (passed.imp_right fun short same => short (List.cons.inj same).2) target
        have stepped : tree.stretch follow start (name :: rest) = tree.stretch follow (start ++ [name]) rest := by
          simp [stretch, notUp, notDot, found]
        rw [stepped, show start ++ name :: rest = start ++ [name] ++ rest by simp]
        exact ih (fun each mem => plain each (mem_cons_of_mem name mem)) onward

lemma locate_straight (plain : ∀ name ∈ path.names, IsPlain name)
    (noLink : ∀ early, early <+: path.names -> follow = true \/ early ≠ path.names ->
      ∀ target, tree.get? (origin cwd path ++ early) ≠ some (.link target))
    (loc : tree.locate cwd path follow = .ok place) : place = origin cwd path ++ path.names := by
  change tree.route follow (linkBudget + 1) (origin cwd path) path.names = .ok place at loc
  rw [route] at loc
  rcases stretch_straight plain noLink with arrived | ⟨reason, stuck⟩
  · simp only [arrived] at loc
    exact (Except.ok.inj loc).symm
  · simp only [stuck] at loc
    cases loc

/-! ## Links in last position -/

lemma stretch_self (tree : Tree) (start : Place) (names : List String) :
    tree.stretch false start names = tree.stretch true start names \/
      ∃ place, tree.stretch false start names = .arrived place /\ (tree.get? place).isSome := by
  fun_induction tree.stretch true start names with
  | case1 start => exact .inl rfl
  | case2 start rest ih =>
    exact ih
  | case3 start rest _ ih =>
    exact ih
  | case4 start name rest notUp notDot found ih =>
    rwa [stretch, if_neg notUp, if_neg notDot, found]
  | case7 start name rest notUp notDot target found last => simp at last
  | case8 start name rest notUp notDot target found =>
    cases rest with
    | nil => exact .inr ⟨start ++ [name], by simp [stretch, notUp, notDot, found], by simp [found]⟩
    | cons next others => exact .inl (by simp [stretch, notUp, notDot, found])
  | case5 | case6 | case9 | case10 => exact .inl (by simp [stretch, *])

lemma route_self (walked : tree.route true budget start names = .ok place) (present : (tree.get? place).isSome) :
    ∃ self, tree.route false budget start names = .ok self /\ (tree.get? self).isSome := by
  induction budget generalizing start names with
  | zero => cases walked
  | succ budget ih =>
    rw [route]
    rcases stretch_self tree start names with same | ⟨self, arrived, there⟩
    · rw [same]
      rcases route_cases walked with arrived | ⟨above, target, rest, atLink, onward⟩
      · rw [arrived]
        exact ⟨place, rfl, present⟩
      · rw [atLink]
        exact ih onward
    · rw [arrived]
      exact ⟨self, rfl, there⟩

lemma locate_self (loc : tree.locate cwd path = .ok place) (present : (tree.get? place).isSome) :
    ∃ self, tree.locate cwd path false = .ok self /\ (tree.get? self).isSome :=
  route_self loc present

/-! ## New files -/

def Fills (tree other : Tree) : Prop :=
  ∀ place, other.get? place = tree.get? place \/ tree.get? place = none /\ ∃ file, other.get? place = some (.file file)

namespace Fills

variable {tree other third : Tree} {place : Place} {follow : Bool}

lemma refl (tree : Tree) : Fills tree tree :=
  fun _ => .inl rfl

lemma trans (first : Fills tree other) (second : Fills other third) : Fills tree third := by
  intro place
  rcases second place with same | ⟨missing, file, there⟩
  · rw [same]
    exact first place
  · rcases first place with before | ⟨-, file, found⟩
    · exact .inr ⟨before.symm.trans missing, file, there⟩
    · rw [found] at missing
      cases missing

lemma insert {file : FileNode} (missing : tree.get? place = none) : Fills tree (tree.insert place (.file file)) := by
  have named : place ≠ [] := by
    rintro rfl
    cases missing
  intro each
  rw [get?_insert _ _ _ _ named]
  by_cases here : each = place
  · subst here
    rw [if_pos rfl]
    exact .inr ⟨missing, file, rfl⟩
  · rw [if_neg here]
    exact .inl rfl

variable (fills : Fills tree other)
include fills

lemma directory (found : other.get? place = some .directory) : tree.get? place = some .directory := by
  rcases fills place with same | ⟨-, file, there⟩
  · rw [<- same, found]
  · rw [found] at there
    cases there

lemma stretch (follow : Bool) (start : Place) (names : List String) :
    other.stretch follow start names = tree.stretch follow start names \/
      ∃ reason, other.stretch follow start names = .stuck reason := by
  induction names generalizing start with
  | nil => exact .inl rfl
  | cons name rest ih =>
    rw [Tree.stretch, Tree.stretch]
    by_cases up : name = ".."
    · rw [if_pos up, if_pos up]
      exact ih _
    · by_cases stay : name = "."
      · rw [if_neg up, if_neg up, if_pos stay, if_pos stay]
        exact ih _
      · rw [if_neg up, if_neg up, if_neg stay, if_neg stay]
        rcases fills (start ++ [name]) with same | ⟨missing, file, there⟩
        · rw [same]
          split
          · exact ih _
          all_goals exact .inl rfl
        · rw [missing, there]
          cases rest with
          | nil => exact .inl rfl
          | cons next others => exact .inr ⟨.throughFile, rfl⟩

lemma route {budget : Nat} {start : Place} {names : List String} (walked : other.route follow budget start names = .ok place) :
    tree.route follow budget start names = .ok place := by
  induction budget generalizing start names with
  | zero => cases walked
  | succ budget ih =>
    rw [Tree.route] at walked ⊢
    rcases fills.stretch follow start names with same | ⟨reason, stuck⟩
    · rw [same] at walked
      cases step : tree.stretch follow start names with
      | arrived reached => rwa [step] at walked
      | stuck reason => rwa [step] at walked
      | atLink above target rest =>
        rw [step] at walked
        exact ih walked
    · rw [stuck] at walked
      cases walked

lemma locate {cwd : Place} {path : Path}
    (loc : other.locate cwd path follow = .ok place) : tree.locate cwd path follow = .ok place :=
  fills.route loc

end Fills

/-! ## Trees that grow -/

def Firm (tree other : Tree) : Stretch -> Prop
  | .arrived place =>
    (tree.get? place).isSome \/ ∀ target, other.get? place ≠ some (.link target)
  | .atLink _ _ _ => True
  | .stuck _ => False

variable (grows : Grows tree other)
include grows

lemma Grows.stretch (start : Place) (names : List String)
    (follow : Bool) (firm : Firm tree other (tree.stretch follow start names)) :
    other.stretch follow start names = tree.stretch follow start names := by
  fun_induction tree.stretch follow start names with
  | case1 start => rfl
  | case2 start rest ih =>
    exact ih firm
  | case3 start rest _ ih =>
    exact ih firm
  | case4 start name rest notUp notDot found ih =>
    rw [Tree.stretch, if_neg notUp, if_neg notDot, grows.directory found]
    exact ih firm
  | case5 start name rest notUp notDot file found last =>
    obtain ⟨changed, kept⟩ := grows.file found
    simp [Tree.stretch, notUp, notDot, kept, last]
  | case7 start name rest notUp notDot target found last | case8 start name rest notUp notDot target found last =>
    simp [Tree.stretch, notUp, notDot, grows.link found, last]
  | case9 start name rest notUp notDot found last =>
    have only : rest = [] := by simpa using last
    rcases firm with present | noLink
    · rw [found] at present
      cases present
    · rw [Tree.stretch, if_neg notUp, if_neg notDot]
      split <;> simp_all [Tree.stretch]
  | case6 | case10 => exact firm.elim

lemma Grows.route (walked : tree.route follow budget start names = .ok place)
    (lasting : (tree.get? place).isSome \/ ∀ target, other.get? place ≠ some (.link target)) :
    other.route follow budget start names = .ok place := by
  induction budget generalizing start names with
  | zero => cases walked
  | succ budget ih =>
    rw [Tree.route]
    rcases route_cases walked with arrived | ⟨above, target, rest, atLink, onward⟩
    · rw [grows.stretch start names follow (by rw [arrived]; exact lasting), arrived]
    · rw [grows.stretch start names follow (by rw [atLink]; trivial), atLink]
      exact ih onward

lemma Grows.locate (loc : tree.locate cwd path follow = .ok place) (present : (tree.get? place).isSome) :
    other.locate cwd path follow = .ok place :=
  grows.route loc (.inl present)

lemma Grows.locate_put (loc : tree.locate cwd path follow = .ok place)
    (noLink : ∀ target, other.get? place ≠ some (.link target)) : other.locate cwd path follow = .ok place :=
  grows.route loc (.inr noLink)

end Refinery.Tree
