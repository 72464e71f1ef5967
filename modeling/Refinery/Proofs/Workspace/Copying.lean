import Refinery.Proofs.Tree.Overlay
import Refinery.Proofs.Workspace.FileJob

namespace Refinery

open List Workspace Text Refinery.Tree

/-!
# Making directories and copying files

Making a path of directories puts a directory at each place on the way where nothing is, and copying a file
puts the file, with its permission bits and age, at one place.
-/

namespace Path

/-! ## The directories above a path -/

def downward (path : Path) : List String -> List Path
  | [] => []
  | name :: rest => path.child name :: downward (path.child name) rest

lemma downward_concat (path : Path) (names : List String) (name : String) : path.downward (names ++ [name]) =
      path.downward names ++ [⟨path.anchor, path.names ++ names ++ [name]⟩] := by
  induction names generalizing path with
  | nil => simp [downward, child]
  | cons first rest ih => simp [downward, ih, child]

lemma downward_below (path : Path) (more : List String) : (Path.mk path.anchor []).downward (path.names ++ more) =
      (Path.mk path.anchor []).downward path.names ++ path.downward more := by
  have append (start : Path) (names : List String) : start.downward (names ++ more) =
      start.downward names ++ downward ⟨start.anchor, start.names ++ names⟩ more := by
    induction names generalizing start with
    | nil => simp [downward]
    | cons first rest ih => simp [downward, ih, child]
  exact append _ _

variable {names : List String}

lemma names_ne_nil_of_mem_downward {path each : Path} (mem : each ∈ path.downward names) : each.names ≠ [] := by
  induction names generalizing path with
  | nil => cases mem
  | cons name rest ih =>
    rcases mem_cons.mp mem with rfl | later
    · simp [child]
    · exact ih later

lemma parents_child (path : Path) (name : String) : (path.child name).parents = path :: path.parents := by
  simp only [parents, child, length_append, length_singleton, range_succ_eq_map, map_cons, map_map]
  congr 1
  · simp
  · apply map_congr_left
    intro index inside
    simp only [Function.comp_apply]
    rw [take_append_of_le_length (by omega)]
    congr 2
    omega

lemma reverse_parents (anchor : Anchor) (names : List String) :
    (Path.mk anchor names).parents.reverse ++ [⟨anchor, names⟩] = ⟨anchor, []⟩ :: downward ⟨anchor, []⟩ names := by
  induction names using List.reverseRecOn with
  | nil => rfl
  | append_singleton names name ih =>
    have parents : (Path.mk anchor (names ++ [name])).parents =
        ⟨anchor, names⟩ :: (Path.mk anchor names).parents := parents_child ⟨anchor, names⟩ name
    rw [parents, reverse_cons, ih, downward_concat]
    simp

end Path

namespace Job

variable {w : Workspace} {rest : List String} {text : String} {mayExist : Bool} {put : Place × Node}

def anchorTexts : Anchor -> List String
  | .doubleSlash => ["//"]
  | _ => []

lemma makeDirectories_eq {anchor : Anchor} (mayExist : Bool) (proper : (Path.mk anchor names).Proper) (named : names ≠ []) :
    makeDirectories (Path.mk anchor names).toString mayExist = makeEach mayExist (anchorTexts anchor ++
        ((Path.mk anchor []).downward names).map Path.toString) := by
  have whole := Path.reverse_parents anchor names
  have down : (Path.mk anchor names).parents.reverse = ⟨anchor, []⟩ :: ((Path.mk anchor []).downward names).dropLast := by
    have some : (Path.mk anchor []).downward names ≠ [] := by
      cases names with
      | nil => exact absurd rfl named
      | cons name rest => exact cons_ne_nil _ _
    have cut := congrArg List.dropLast whole
    rwa [dropLast_concat, dropLast_cons_of_ne_nil some] at cut
  have last : ((Path.mk anchor []).downward names).dropLast ++ [⟨anchor, names⟩] = (Path.mk anchor []).downward names := by
    rw [down, cons_append] at whole
    exact (List.cons.inj whole).2
  have kept : ((Path.mk anchor []).downward names).dropLast.filter (fun p => decide (p ≠ Path.here) && decide (p ≠ Path.top)) =
        ((Path.mk anchor []).downward names).dropLast := by
    apply filter_eq_self.mpr
    rintro ⟨kind, names⟩ mem
    have below : names ≠ [] := Path.names_ne_nil_of_mem_downward (mem_of_mem_dropLast mem)
    simp [Path.here, Path.top, below]
  rw [makeDirectories, if_neg (Path.toString_ne_empty proper), Path.ofString_toString proper]
  change makeEach mayExist (((Path.mk anchor names).parents.reverse.filter
    fun p => decide (p ≠ Path.here) && decide (p ≠ Path.top)).map Path.toString ++ [_]) = _
  rw [down]
  rw [filter_cons, kept, <- last]
  cases anchor <;> simp [anchorTexts, Path.here, Path.top, Path.toString, Anchor.text, join]

lemma makeDirectories_anchor (anchor : Anchor) (mayExist : Bool) :
    makeDirectories (Path.mk anchor []).toString mayExist = makeEach mayExist [(Path.mk anchor []).toString] := by
  cases anchor <;> rfl

lemma execute_makeEach_last (mayExist : Bool) (text : String) (w : Workspace) :
    (makeEach mayExist [text]).execute w = match w.making text with
      | (.ok _, put) => (.ok (), w.put put)
      | (.error err, put) =>
        (if mayExist && (w.put put).isDirectory text then .ok () else .error err, w.put put) := by
  rw [makeEach, bind_ok (execute_attempt _ w), execute_makeDirectory]
  obtain ⟨outcome, put⟩ := w.making text
  cases outcome with
  | ok value => rfl
  | error err =>
    rw [bind_ok (execute_isDirectory text _)]
    dsimp only
    cases mayExist && (w.put put).isDirectory text <;> rfl

lemma execute_makeEach_more (mayExist : Bool) (text : String) (w : Workspace) (further : rest ≠ []) :
    (makeEach mayExist (text :: rest)).execute w = if (w.nodeAt? text).isSome then (makeEach mayExist rest).execute w
      else match w.making text with
        | (.ok _, put) | (.error (.occupied _), put) => (makeEach mayExist rest).execute (w.put put)
        | (.error err, put) => (.error err, w.put put) := by
  rw [makeEach.eq_3 _ _ _ further, bind_ok (execute_exists? text w)]
  cases (w.nodeAt? text).isSome with
  | true => rfl
  | false =>
    change (attempt (makeDirectory text) >>= fun outcome => _).execute w = _
    rw [bind_ok (execute_attempt _ w), execute_makeDirectory]
    obtain ⟨outcome, put⟩ := w.making text
    cases outcome with
    | ok value => rfl
    | error err => cases err <;> rfl

variable {path : Path} {base : Place} {name first : String} {node : Node} {way : List String}

/-- A path that leads to a directory, in a workspace. -/
structure LeadsTo (w : Workspace) (path : Path) (place : Place) : Prop where
  proper : path.Proper
  located : w.tree.locate w.directory path = .ok place
  standing : w.tree.get? place = some .directory

lemma LeadsTo.of_isDirectory (proper : path.Proper) (dir : w.isDirectory path = true) : ∃ place, LeadsTo w path place := by
  rw [isDirectory_eq_true_iff, nodeAt?_toString proper, Tree.find?] at dir
  split at dir
  next place loc => exact ⟨place, proper, loc, dir⟩
  · cases dir

section

variable (leads : LeadsTo w path base)
include leads

lemma LeadsTo.isDirectory : w.isDirectory path = true := by
  rw [isDirectory_eq_true_iff, nodeAt?_of_locate leads.proper leads.located]
  exact leads.standing

lemma LeadsTo.present : (w.nodeAt? path).isSome := by
  rw [nodeAt?_of_locate leads.proper leads.located, leads.standing]
  rfl

lemma LeadsTo.grown {after : Workspace}
    (grows : Grows w.tree after.tree) (dir : after.directory = w.directory) : LeadsTo after path base := by
  refine ⟨leads.proper, ?_, grows.directory leads.standing⟩
  rw [dir]
  exact grows.locate leads.located (by rw [leads.standing]; rfl)

lemma LeadsTo.after {α : Type} {writes : Bool} {job : Job α}
    (file : FileJob writes job) (sound : w.Sound) : LeadsTo (job.execute w).2 path base :=
  leads.grown (file.grows sound) (by rw [file.frame w])

lemma LeadsTo.locate_child (sound : w.Sound) (plain : IsPlain name) (follow : Bool)
    (noLink : ∀ target, w.tree.get? (base ++ [name]) ≠ some (.link target)) :
    w.tree.locate w.directory (path.child name) follow = .ok (base ++ [name]) :=
  locate_below sound.tree sound.standing leads.located leads.standing (by simp)
    (sound.tree.open_child leads.standing plain) fun _ => noLink

lemma LeadsTo.child (sound : w.Sound) (plain : IsPlain name) (standing : w.tree.get? (base ++ [name]) = some .directory) :
    LeadsTo w (path.child name) (base ++ [name]) :=
  ⟨leads.proper.child plain.1, leads.locate_child sound plain true (by rw [standing]; simp), standing⟩

lemma LeadsTo.locate_below (sound : w.Sound) (found : w.tree.get? (base ++ names) = some node) (noLink : node.isLink = false) :
    w.tree.locate w.directory ⟨path.anchor, path.names ++ names⟩ = .ok (base ++ names) := by
  by_cases further : names = []
  · subst further
    rw [append_nil, append_nil]
    exact leads.located
  · refine Tree.locate_below sound.tree sound.standing leads.located leads.standing further
      (sound.tree.isOpen found) fun _ target linked => ?_
    rw [found] at linked
    cases linked
    cases noLink

lemma LeadsTo.proper_below (sound : w.Sound) (found : w.tree.get? (base ++ names) = some node) :
    (Path.mk path.anchor (path.names ++ names)).Proper :=
  Path.Proper.append leads.proper fun name mem => (sound.tree.isPlain found name (mem_append_right base mem)).1

lemma LeadsTo.isLink_below (sound : w.Sound) (further : names ≠ []) (found : w.tree.get? (base ++ names) = some node) :
    w.isLink (Path.mk path.anchor (path.names ++ names)) = node.isLink := by
  have located : w.tree.locate w.directory ⟨path.anchor, path.names ++ names⟩ false = .ok (base ++ names) :=
    Tree.locate_below sound.tree sound.standing leads.located leads.standing further
      (sound.tree.isOpen found) (fun following => by cases following)
  rw [isLink_toString (leads.proper_below sound found), findSelf?, located]
  simp [found]

lemma LeadsTo.isDirectory_below (sound : w.Sound)
    (found : w.tree.get? (base ++ names) = some node) (noLink : node.isLink = false) :
    w.isDirectory (Path.mk path.anchor (path.names ++ names)) = node.isDirectory := by
  rw [Workspace.isDirectory, nodeAt?_of_locate (leads.proper_below sound found)
    (leads.locate_below sound found noLink), found]
  rfl

lemma LeadsTo.join_below (sound : w.Sound) (named : path.names ≠ [])
    (found : w.tree.get? (base ++ (way ++ [name])) = some node) : PathText.join (Path.mk path.anchor (path.names ++ way)) name =
      Path.mk path.anchor (path.names ++ (way ++ [name])) := by
  have proper := leads.proper_below sound found
  rw [Path.join_toString, Path.child, append_assoc]
  · intro each mem
    refine proper each ?_
    rw [<- append_assoc]
    exact mem_append_left [name] mem
  · exact append_ne_nil_of_left_ne_nil named way
  · exact proper name (by simp)

lemma LeadsTo.isDirectory_join (sound : w.Sound) (named : path.names ≠ [])
    (found : w.tree.get? (base ++ (way ++ [name])) = some node)
    (noLink : ∀ target, w.tree.get? (base ++ (way ++ [name])) ≠ some (.link target)) :
    w.isDirectory (PathText.join (Path.mk path.anchor (path.names ++ way)) name) = node.isDirectory := by
  have notLink : node.isLink = false := by
    cases node with
    | link target => exact absurd found (noLink target)
    | file _ => rfl
    | directory => rfl
  rw [leads.join_below sound named found, leads.isDirectory_below sound found notLink]

lemma LeadsTo.below (sound : w.Sound) (standing : w.tree.get? (base ++ names) = some .directory) :
    LeadsTo w ⟨path.anchor, path.names ++ names⟩ (base ++ names) :=
  ⟨leads.proper_below sound standing, leads.locate_below sound standing rfl, standing⟩

lemma LeadsTo.making_child (sound : w.Sound)
    (plain : IsPlain name) (noLink : ∀ target, w.tree.get? (base ++ [name]) ≠ some (.link target)) :
    w.making (path.child name) = match w.tree.get? (base ++ [name]) with
      | some _ => (.error (.occupied (path.child name)), none)
      | none => (.ok (), some (base ++ [name], .directory)) := by
  have proper := leads.proper.child plain.1
  have named : (path.child name).names ≠ [] := by simp [Path.child]
  have reached := placeOf_of_locate proper (leads.locate_child sound plain false noLink)
  cases there : w.tree.get? (base ++ [name]) <;>
    simp only [making, Path.trimRightBy_toString proper named, reached, there]

lemma LeadsTo.put_child (sound : w.Sound) (plain : IsPlain name) (absent : w.tree.get? (base ++ [name]) = none) :
    (w.put (some (base ++ [name], .directory))).Sound /\
      LeadsTo (w.put (some (base ++ [name], .directory))) (path.child name) (base ++ [name]) := by
  have made := leads.making_child sound plain (by simp [absent])
  have making : FileJob true (makeDirectory (path.child name)) := FileJob.makeDirectory _
  have after : ((makeDirectory (path.child name)).execute w).2 = w.put (some (base ++ [name], .directory)) := by
    rw [execute_makeDirectory, made, absent]
  have soundAfter := making.keeps sound
  have leadsAfter := leads.after making sound
  rw [after] at soundAfter leadsAfter
  refine ⟨soundAfter, leadsAfter.child soundAfter plain ?_⟩
  simp [put, get?_insert]

end

lemma free_below_put (free : ∀ start, start <+: name :: rest -> start ≠ [] ->
      w.tree.get? (base ++ start) = none \/ w.tree.get? (base ++ start) = some .directory)
    (put : Option (Place × Node)) (here : put = none \/ put = some (base ++ [name], .directory)) :
    ∀ start, start <+: rest -> start ≠ [] -> (w.put put).tree.get? (base ++ [name] ++ start) = none \/
        (w.put put).tree.get? (base ++ [name] ++ start) = some .directory := by
  intro start early notEmpty
  have before := free (name :: start) (cons_prefix_cons.mpr ⟨rfl, early⟩) (cons_ne_nil _ _)
  have ne : base ++ [name] ++ start ≠ base ++ [name] := by simpa using notEmpty
  have parts : base ++ name :: start = base ++ [name] ++ start := by simp
  rw [parts] at before
  rcases here with rfl | rfl
  · exact before
  · simpa only [put, get?_insert _ _ _ _ (by simp : base ++ [name] ≠ []), if_neg ne] using before

lemma LeadsTo.refused (leads : LeadsTo w path base) : ∃ err, w.making path = (.error err, none) := by
  rw [making]
  cases reached : w.placeOf (trimRightBy (· == '/') path.toString) false with
  | error err => exact ⟨err, rfl⟩
  | ok self =>
    have there : (w.tree.get? self).isSome := by
      obtain ⟨other, located, there⟩ := locate_self leads.located (by rw [leads.standing]; rfl)
      have kept : trimRightBy (· == '/') path.toString = path.toString := by
        by_cases named : path.names = []
        · rcases path with ⟨anchor, names⟩
          cases named
          cases anchor with
          | relative => decide
          | slash => cases reached
          | doubleSlash => cases reached
        · exact Path.trimRightBy_toString leads.proper named
      rw [kept, placeOf_of_locate leads.proper located] at reached
      cases reached
      exact there
    obtain ⟨node, found⟩ := Option.isSome_iff_exists.mp there
    exact ⟨.occupied path, by simp only [found]⟩

lemma LeadsTo.execute_makeEach (leads : LeadsTo w path base) : (makeEach true [path.toString]).execute w = (.ok (), w) := by
  obtain ⟨err, refused⟩ := leads.refused
  rw [execute_makeEach_last, refused]
  change (if w.isDirectory path then _ else _, w) = _
  rw [leads.isDirectory, if_pos rfl]

lemma execute_makeEach_downward (sound : w.Sound) (leads : LeadsTo w path base)
    (named : names ≠ []) (plain : ∀ name ∈ names, IsPlain name) (clear : ∀ start, start <+: names -> start ≠ [] ->
      w.tree.get? (base ++ start) = none \/ w.tree.get? (base ++ start) = some .directory) :
    ∃ tree, (makeEach true ((path.downward names).map Path.toString)).execute w =
        (.ok (), { w with tree := tree }) /\ Made w.tree (base ++ names) tree := by
  induction names generalizing w path base with
  | nil => exact absurd rfl named
  | cons name rest ih =>
    have plainName := plain name mem_cons_self
    have plainRest := fun each mem => plain each (mem_cons_of_mem name mem)
    have parts : base ++ name :: rest = base ++ [name] ++ rest := by simp
    rw [parts]
    rcases clear [name] ⟨rest, rfl⟩ (cons_ne_nil _ _) with absent | standing
    · have noLink : ∀ target, w.tree.get? (base ++ [name]) ≠ some (.link target) := by
        simp [absent]
      have made := leads.making_child sound plainName noLink
      rw [absent] at made
      have grown := sound.tree.made_insert leads.standing absent
      cases rest with
      | nil =>
        refine ⟨w.tree.insert (base ++ [name]) .directory, ?_, by rwa [append_nil]⟩
        rw [Path.downward, Path.downward, map_singleton, execute_makeEach_last, made]
        rfl
      | cons next others =>
        have missing : w.nodeAt? (path.child name) = none := by
          rw [nodeAt?_of_locate (leads.proper.child plainName.1) (leads.locate_child sound plainName true noLink), absent]
        obtain ⟨soundAfter, child⟩ := leads.put_child sound plainName absent
        obtain ⟨tree, ran, madeBelow⟩ := ih soundAfter child (cons_ne_nil _ _) plainRest (free_below_put clear _ (.inr rfl))
        refine ⟨tree, ?_, grown.trans madeBelow⟩
        rwa [Path.downward, map_cons, execute_makeEach_more _ _ _ (by simp [Path.downward]), if_neg (by simp [missing]), made]
    · have made := leads.making_child sound plainName (by simp [standing])
      have child := leads.child sound plainName standing
      cases rest with
      | nil =>
        refine ⟨w.tree, child.execute_makeEach, ?_⟩
        rw [append_nil]
        exact sound.tree.made_self standing
      | cons next others =>
        obtain ⟨tree, ran, madeBelow⟩ := ih sound child (cons_ne_nil _ _) plainRest (free_below_put clear none (.inl rfl))
        refine ⟨tree, ?_, madeBelow⟩
        rw [Path.downward, map_cons, execute_makeEach_more _ _ _ (by simp [Path.downward]), if_pos child.present, ran]

lemma LeadsTo.above (leads : LeadsTo w path base) (sound : w.Sound)
    (start : names <+: path.names) : ∃ place, LeadsTo w ⟨path.anchor, names⟩ place := by
  obtain ⟨anchor, _⟩ := path
  obtain ⟨more, rfl⟩ := start
  by_cases whole : more = []
  · subst whole
    exact ⟨base, append_nil names ▸ leads⟩
  · rcases route_append_ok sound.tree (get?_origin sound.standing ⟨anchor, names⟩) whole leads.located with
      ⟨place, reached, standing⟩
    exact ⟨place, fun name mem => leads.proper name (mem_append_left more mem), reached, standing⟩

lemma execute_makeEach_append {texts : List String} (there : ∀ text ∈ texts, (w.nodeAt? text).isSome) (further : rest ≠ []) :
    (makeEach mayExist (texts ++ rest)).execute w = (makeEach mayExist rest).execute w := by
  induction texts with
  | nil => rfl
  | cons text others ih =>
    rw [cons_append, execute_makeEach_more _ _ _ (by simp [further]), if_pos (there text mem_cons_self)]
    exact ih fun other mem => there other (mem_cons_of_mem text mem)

lemma mem_downward {start each : Path} (mem : each ∈ start.downward names) :
    ∃ more, more <+: names /\ each = ⟨start.anchor, start.names ++ more⟩ := by
  induction names generalizing start with
  | nil => cases mem
  | cons name rest ih =>
    rcases mem_cons.mp mem with rfl | later
    · exact ⟨[name], ⟨rest, rfl⟩, rfl⟩
    · rcases ih later with ⟨more, early, rfl⟩
      exact ⟨name :: more, cons_prefix_cons.mpr ⟨rfl, early⟩, by simp [Path.child]⟩

lemma LeadsTo.upper (leads : LeadsTo w path base) (sound : w.Sound)
    (start : names <+: path.names) (text : String) (mem : text ∈ anchorTexts path.anchor ++
      ((Path.mk path.anchor []).downward names).map Path.toString) : (w.nodeAt? text).isSome := by
  have present : ∀ more, more <+: path.names -> (w.nodeAt? (Path.mk path.anchor more).toString).isSome := by
    intro more early
    obtain ⟨place, reached⟩ := leads.above sound early
    exact reached.present
  rcases mem_append.mp mem with anchored | below
  · have top := present [] List.nil_prefix
    cases kind : path.anchor with
    | relative | slash =>
      rw [kind] at anchored
      cases anchored
    | doubleSlash =>
      rw [kind] at anchored top
      rwa [mem_singleton.mp anchored]
  · rcases mem_map.mp below with ⟨each, inside, rfl⟩
    obtain ⟨more, early, rfl⟩ := mem_downward inside
    exact present _ (early.trans start)

lemma LeadsTo.execute_further (leads : LeadsTo w path base) (sound : w.Sound) (further : names ≠ [])
    (plain : ∀ name ∈ names, IsPlain name) : (makeDirectories (Path.mk path.anchor (path.names ++ names)).toString true).execute w =
      (makeEach true ((path.downward names).map Path.toString)).execute w := by
  rw [makeDirectories_eq true (Path.Proper.append leads.proper fun name mem => (plain name mem).1) (by simp [further]),
    Path.downward_below, map_append, <- append_assoc, execute_makeEach_append (leads.upper sound (prefix_refl _))]
  cases names with
  | nil => exact absurd rfl further
  | cons name rest => simp [Path.downward]

lemma LeadsTo.execute_makeDirectories (leads : LeadsTo w path base) (sound : w.Sound) :
    (makeDirectories path.toString true).execute w = (.ok (), w) := by
  rcases eq_nil_or_concat path.names with unnamed | ⟨front, last, parts⟩
  · have whole : Path.mk path.anchor [] = path := by rw [<- unnamed]
    have made := makeDirectories_anchor path.anchor true
    rw [whole] at made
    rw [made]
    exact leads.execute_makeEach
  · rw [concat_eq_append] at parts
    have named : path.names ≠ [] := by simp [parts]
    rw [makeDirectories_eq true leads.proper named, parts, Path.downward_concat, map_append,
      <- append_assoc, execute_makeEach_append]
    · have whole : Path.mk path.anchor ([] ++ front ++ [last]) = path := by
        rw [nil_append, <- parts]
      rw [map_singleton, whole]
      exact leads.execute_makeEach
    · exact leads.upper sound ⟨[last], parts.symm⟩
    · simp

lemma execute_makeDirectories (sound : w.Sound) (leads : LeadsTo w path base)
    (plain : ∀ name ∈ names, IsPlain name) (clear : ∀ start, start <+: names -> start ≠ [] ->
      w.tree.get? (base ++ start) = none \/ w.tree.get? (base ++ start) = some .directory) :
    ∃ tree, (makeDirectories (Path.mk path.anchor (path.names ++ names)).toString true).execute w =
        (.ok (), { w with tree := tree }) /\ Made w.tree (base ++ names) tree := by
  by_cases further : names = []
  · subst further
    rw [append_nil, append_nil]
    exact ⟨w.tree, leads.execute_makeDirectories sound, sound.tree.made_self leads.standing⟩
  · rw [leads.execute_further sound further plain]
    exact execute_makeEach_downward sound leads further plain clear

/-! ## Directories that cannot be made -/

lemma execute_makeEach_refused {err : Failure}
    (refused : w.making text = (.error err, none)) (notDirectory : w.isDirectory text = false) :
    (makeEach true [text]).execute w = (.error err, w) := by
  rw [execute_makeEach_last, refused]
  change (if w.isDirectory text then _ else _, w) = _
  rw [notDirectory, if_neg Bool.false_ne_true]

lemma execute_makeEach_astray {reason : Astray} (rest : List String)
    (refused : w.making text = (.error (astray text reason), none)) (absent : w.nodeAt? text = none) :
    (makeEach true (text :: rest)).execute w = (.error (astray text reason), w) := by
  cases rest with
  | nil =>
    refine execute_makeEach_refused refused ?_
    rw [Workspace.isDirectory, absent]
    rfl
  | cons next others =>
    rw [execute_makeEach_more _ _ _ (cons_ne_nil _ _), if_neg (by simp [absent]), refused]
    cases reason <;> rfl

def blockage (path : Path) (first : String) (reason : String -> Astray) : List String -> Failure
  | [] => .occupied (path.child first)
  | next :: _ => astray ((path.child first).child next) (reason next)

section

variable (leads : LeadsTo w path base) (sound : w.Sound) (plain : ∀ name ∈ first :: rest, IsPlain name)
include leads sound plain

lemma LeadsTo.execute_blocked {reason : String -> Astray} (there : w.tree.get? (base ++ [first]) = some node)
    (notDirectory : w.isDirectory (path.child first) = false)
    (stuck : ∀ next, w.tree.locate w.directory ((path.child first).child next) false = .error (reason next))
    (nowhere : ∀ next, w.tree.find? w.directory ((path.child first).child next) = none) :
    (makeDirectories (Path.mk path.anchor (path.names ++ first :: rest)).toString true).execute w =
      (.error (blockage path first reason rest), w) := by
  have plainFirst := plain first mem_cons_self
  have properFirst := leads.proper.child plainFirst.1
  have located : w.tree.locate w.directory (path.child first) false = .ok (base ++ [first]) :=
    Tree.locate_below sound.tree sound.standing leads.located leads.standing (by simp)
      (sound.tree.open_child leads.standing plainFirst) nofun
  have occupied : w.making (path.child first) = (.error (.occupied (path.child first)), none) := by
    simp only [making, Path.trimRightBy_toString properFirst (by simp [Path.child]),
      placeOf_of_locate properFirst located, there]
  rw [leads.execute_further sound (cons_ne_nil first rest) plain, Path.downward, map_cons]
  cases rest with
  | nil => exact execute_makeEach_refused occupied notDirectory
  | cons next others =>
    have properNext := properFirst.child (plain next (by simp)).1
    rw [execute_makeEach_more _ _ _ (by simp [Path.downward]), occupied]
    refine (ite_self _).trans ?_
    refine execute_makeEach_astray _ ?_ ?_
    · simp only [making, Path.trimRightBy_toString properNext (by simp [Path.child]), placeOf_toString properNext, stuck]
      rfl
    · rw [nodeAt?_toString properNext, nowhere]

lemma LeadsTo.execute_blocked_file {file : FileNode} (there : w.tree.get? (base ++ [first]) = some (.file file)) :
    (makeDirectories (Path.mk path.anchor (path.names ++ first :: rest)).toString true).execute w =
      (.error (blockage path first (fun _ => .throughFile) rest), w) := by
  have plainFirst := plain first mem_cons_self
  have stuck : ∀ next follow, w.tree.locate w.directory ((path.child first).child next) follow = .error .throughFile := by
    intro next follow
    rcases route_append follow sound.tree (get?_origin sound.standing path)
      (cons_ne_nil first [next]) leads.located leads.standing with ⟨left, _, onward⟩
    have parts : ((path.child first).child next).names = path.names ++ [first, next] := by
      simp [Path.child]
    rw [locate, parts]
    refine onward.trans ?_
    simp [route, stretch, plainFirst.2, plainFirst.1.2.1, there]
  refine leads.execute_blocked sound plain there ?_ (fun next => stuck next false) fun next => ?_
  · rw [Workspace.isDirectory, nodeAt?_of_locate (leads.proper.child plainFirst.1)
      (leads.locate_child sound plainFirst true (by rw [there]; simp)), there]
    rfl
  · rw [Tree.find?, stuck]

lemma LeadsTo.execute_blocked_link {target : String} (there : w.tree.get? (base ++ [first]) = some (.link target))
    (notDirectory : w.isDirectory (path.child first) = false) : ∃ err,
      (makeDirectories (Path.mk path.anchor (path.names ++ first :: rest)).toString true).execute w = (.error err, w) := by
  have properFirst := leads.proper.child (plain first mem_cons_self).1
  have stuck : ∀ next follow, ∃ reason, w.tree.locate w.directory ((path.child first).child next) follow = .error reason := by
    intro next follow
    cases located : w.tree.locate w.directory ((path.child first).child next) follow with
    | error reason => exact ⟨reason, rfl⟩
    | ok place =>
      obtain ⟨middle, ends, standing⟩ := locate_append_ok sound.tree sound.standing (cons_ne_nil next []) located
      rw [LeadsTo.isDirectory ⟨properFirst, ends, standing⟩] at notDirectory
      cases notDirectory
  choose reason reasons using stuck
  refine ⟨_, leads.execute_blocked sound plain there notDirectory (fun next => reasons next false) fun next => ?_⟩
  rw [Tree.find?, reasons next true]

end

/-! ## Copying a file -/

lemma noLink_of_clear {place : Place}
    (clear : w.tree.get? place = none \/ ∃ old, w.tree.get? place = some (.file old)) (target : String) :
    w.tree.get? place ≠ some (.link target) := by
  intro linked
  rw [linked] at clear
  simp at clear

section Located

variable {src dest : String} {origin place : Place} {file : FileNode}

lemma writing_located (reached : w.placeOf dest true = .ok place) (content : ByteArray)
    (clear : w.tree.get? place = none \/ ∃ old, w.tree.get? place = some (.file old)) :
    ∃ file, w.writing dest content = (.ok (), some (place, .file file)) /\ file.content = content := by
  rcases clear with absent | ⟨old, found⟩
  · exact ⟨{ content }, by simp only [writing, reached, absent], rfl⟩
  · exact ⟨{ old with content, age := 0 }, by simp only [writing, reached, found], rfl⟩

section

variable (located : w.placeOf src true = .ok origin) (found : w.tree.get? origin = some (.file file))
include located found

lemma execute_readBytes : (readBytes src).execute w = (.ok file.content, w) := by
  have there : (fileAt src).execute w = (.ok file, w) := by
    rw [execute_fileAt]
    simp only [Workspace.fileAt, located, found]
  rw [readBytes, bind_ok there]
  rfl

lemma execute_copyContent (reached : w.placeOf dest true = .ok place) (apart : place ≠ origin)
    (clear : w.tree.get? place = none \/ ∃ old, w.tree.get? place = some (.file old)) : ∃ written, written.content = file.content /\
      (writeBytes dest file.content).execute w = (.ok (), w.put (some (place, .file written))) /\
      (copyContent src dest).execute w = (.ok (), w.put (some (place, .file written))) := by
  obtain ⟨written, writes, same⟩ := writing_located reached file.content clear
  have wrote : (writeBytes dest file.content).execute w = (.ok (), w.put (some (place, .file written))) := by
    rw [execute_writeBytes, writes]
  refine ⟨written, same, wrote, ?_⟩
  rw [copyContent, bind_ok (execute_sameFile _ _ w), sameFile_of_ne located reached apart]
  change (readBytes src >>= fun content => _).execute w = _
  rw [bind_ok (execute_readBytes located found), wrote]

end

lemma execute_copyFile_located (sound : w.Sound) (located : w.placeOf src true = .ok origin)
    (found : w.tree.get? origin = some (.file file)) (reached : w.placeOf dest true = .ok place)
    (apart : place ≠ origin) (clear : w.tree.get? place = none \/ ∃ old, w.tree.get? place = some (.file old)) :
    ∃ tree, (copyFile src dest).execute w = (.ok (), { w with tree := tree }) /\ Tree.PutAt w.tree place file tree := by
  have named : place ≠ [] := by
    rintro rfl
    rw [Tree.get?_nil] at clear
    simp at clear
  have notDirectory : w.isDirectory dest = false := by
    rw [Workspace.isDirectory, nodeAt?_of_placeOf reached]
    rcases clear with absent | ⟨old, there⟩ <;> simp [*, Node.isDirectory]
  obtain ⟨written, same, wrote, copied⟩ := execute_copyContent located found reached apart clear
  have grows : Tree.Grows w.tree (w.put (some (place, .file written))).tree := by
    have grown := (FileJob.writeBytes dest file.content).grows sound
    rwa [wrote] at grown
  have viewAfter : ∀ other, (w.put (some (place, .file written))).tree.get? other =
      if other = place then some (.file written) else w.tree.get? other :=
    fun other => Tree.get?_insert _ _ _ _ named
  have locatedAfter : (w.put (some (place, .file written))).placeOf src true = .ok origin := by
    rw [placeOf_eq_ok_iff] at located ⊢
    exact ⟨located.1, grows.locate located.2 (by rw [found]; rfl)⟩
  have reachedAfter : (w.put (some (place, .file written))).placeOf dest true = .ok place := by
    rw [placeOf_eq_ok_iff] at reached ⊢
    exact ⟨reached.1, grows.locate_put reached.2 (by simp [viewAfter])⟩
  have status : (w.put (some (place, .file written))).copyingStatus src dest = (.ok (), some (place, .file file)) := by
    simp only [copyingStatus, Workspace.fileAt, locatedAfter, reachedAfter, viewAfter,
      if_neg (Ne.symm apart), found, if_true, same]
  refine ⟨(w.tree.insert place (.file written)).insert place (.file file), ?_,
    Tree.PutAt.again viewAfter fun other => Tree.get?_insert _ _ _ _ named⟩
  rw [copyFile, bind_ok (execute_isDirectory _ w), notDirectory]
  change (copyContent src dest >>= fun _ => _).execute w = _
  rw [bind_ok copied]
  change (copyStatus src dest).execute _ = _
  rw [execute_copyStatus, status]
  rfl

end Located

lemma LeadsTo.placeOf_child (leads : LeadsTo w path base) (sound : w.Sound)
    (plain : IsPlain name) (noLink : ∀ target, w.tree.get? (base ++ [name]) ≠ some (.link target)) :
    w.placeOf (path.child name) true = .ok (base ++ [name]) :=
  placeOf_of_locate (leads.proper.child plain.1) (leads.locate_child sound plain true noLink)

end Job
end Refinery
