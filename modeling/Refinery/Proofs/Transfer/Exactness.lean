import Refinery.Proofs.Transfer.Carrying

namespace Refinery.Transfer

open List Job Transfer Roots

/-!
# Copying a directory

Where each file that is to be written fits below the destination, the walk over the source carries all that is
not left out, also into a new directory right in the source.
-/

def Reaches (w : Workspace) (destination : Path) (goal : Place) : Prop :=
  ∃ (upper missing : List String) (base : Place), destination.names = upper ++ missing /\ goal = base ++ missing /\
    Job.LeadsTo w ⟨destination.anchor, upper⟩ base /\
    (∀ name ∈ missing, IsPlain name) /\
    ∀ start, start <+: missing -> start ≠ [] -> w.tree.get? (base ++ start) = none \/ w.tree.get? (base ++ start) = some .directory

/-- A directory without links that can be copied: each of its files fits below the destination. -/
structure Ready (w : Workspace) (source : Path) (home : Place) (destination : Path) (goal : Place) :
    Prop where
  sound : w.Sound
  literal : source.Literal
  located : w.tree.locate w.directory source = .ok home
  standing : w.tree.get? home = some .directory
  linkFree : ∀ rest target, w.tree.get? (home ++ rest) ≠ some (.link target)
  fits : ∀ rest file, w.tree.get? (home ++ rest) = some (.file file) -> Reaches w destination goal /\ w.tree.Fits home goal rest

/-- A file below the source that is to be written: neither it nor its directory is among the paths found. -/
def Written (w : Workspace) (source : Path) (home : Place) (found : List Path) (rest : List String) : Prop :=
  (∃ file, w.tree.get? (home ++ rest) = some (.file file)) /\ Path.mk source.anchor (source.names ++ rest.dropLast) ∉ found /\
    Path.mk source.anchor (source.names ++ rest) ∉ found

structure Prepared (w : Workspace) (source : Path) (home : Place) (destination : Path) (goal : Place)
    (found : List Path) : Prop where
  sound : w.Sound
  literal : source.Literal
  located : w.tree.locate w.directory source = .ok home
  standing : w.tree.get? home = some .directory
  linkFree : ∀ rest target, w.tree.get? (home ++ rest) ≠ some (.link target)
  fits : ∀ rest, Written w source home found rest -> Reaches w destination goal /\ w.tree.Fits home goal rest

variable {w : Workspace} {src dest : Path} {home goal : Place} {skips found : List Path}
  {stop : Stop} {new : FileNode}

lemma Ready.prepared (ready : Ready w src home dest goal) (found : List Path) : Prepared w src home dest goal found where
  sound := ready.sound
  literal := ready.literal
  located := ready.located
  standing := ready.standing
  linkFree := ready.linkFree
  fits rest written := written.1.elim fun file there => ready.fits rest file there

lemma Ready.leads (ready : Ready w src home dest goal) : LeadsTo w src home :=
  ⟨ready.literal.proper, ready.located, ready.standing⟩

lemma Prepared.leads (ready : Prepared w src home dest goal found) : LeadsTo w src home :=
  ⟨ready.literal.proper, ready.located, ready.standing⟩

/-! ## How its files fare -/

def Decides (w : Workspace) (source : Path) (excludes found : List Path) : Prop :=
  ∀ (tree : Tree) (way : List String) (name : String), (isExcluded excludes ⟨source.anchor, source.names ++ way⟩
        ⟨source.anchor, source.names ++ (way ++ [name])⟩).execute { w with tree := tree } =
      (.ok (decide (Path.mk source.anchor (source.names ++ way) ∈ found \/
        Path.mk source.anchor (source.names ++ (way ++ [name])) ∈ found)), { w with tree := tree })

def leftOut (source : Path) (found : List Path) (stop : Stop) : Bool :=
  decide (Path.mk source.anchor (source.names ++ stop.1) ∈ found \/ Path.mk source.anchor (source.names ++ stop.names) ∈ found)

lemma written_iff (there : w.tree.get? (home ++ stop.names) = some (.file new)) :
    Written w src home found stop.names ↔ leftOut src found stop = false := by
  rw [Written, leftOut, decide_eq_false_iff_not, not_or]
  simp only [Stop.names, dropLast_concat] at there ⊢
  exact and_iff_right ⟨new, there⟩

lemma slot_of_clear {tree : Tree} {place : Place} (name : String)
    (clear : tree.get? place = none \/ ∃ old, tree.get? place = some (.file old)) : slot tree place name = place := by
  refine if_neg fun standing => ?_
  rw [isDirectoryAt_eq_true_iff.mp standing] at clear
  simp at clear

section

variable (ready : Prepared w src home dest goal found)
include ready

lemma Prepared.free {upper missing : List String} {base : Place}
    (names : dest.names = upper ++ missing) (parts : goal = base ++ missing)
    (leads : LeadsTo w ⟨dest.anchor, upper⟩ base) (plain : ∀ name ∈ missing, IsPlain name)
    (clear : ∀ start, start <+: missing -> start ≠ [] ->
      w.tree.get? (base ++ start) = none \/ w.tree.get? (base ++ start) = some .directory)
    (written : Written w src home found stop.names) : Free w src home dest ⟨upper, base, missing⟩ stop := by
  subst parts
  have fits := (ready.fits _ written).2
  have direct := slot_of_clear stop.2 fits.clear
  refine ⟨⟨ready.sound, ready.leads, names, leads, plain⟩, written.1, ⟨fun start early => ?_, fun target => ?_, ?_⟩, ?_⟩
  · rcases prefix_or_prefix_of_prefix early (prefix_append missing stop.1) with inside | ⟨more, rfl⟩
    · by_cases named : start = []
      · rw [named, append_nil]
        exact .inr leads.standing
      · exact clear start inside named
    · have within : more <+: stop.1 := (prefix_append_right_inj missing).mp early
      have far : more ≠ stop.names := by
        rintro rfl
        have lengths := within.length_le
        simp [Stop.names] at lengths
      have free := fits.way more (within.trans (prefix_append _ _)) far
      rwa [append_assoc] at free
  · exact noLink_of_clear fits.clear target
  · exact direct.symm ▸ fits.clear
  · rcases fits.apart with outside | ⟨name, same, absent⟩
    · exact .inl (direct.symm ▸ outside)
    · exact .inr ⟨name, direct.symm ▸ same ▸ prefix_append _ _, same ▸ absent⟩

lemma Prepared.trip (decides : Decides w src skips found) :
    ∃ aim : Aim, aim.goal = goal /\ Trip w src home dest aim skips none (leftOut src found) /\
      ∀ stop : Stop, Written w src home found stop.names -> Free w src home dest aim stop := by
  have trip : ∀ aim : Aim, (∀ stop : Stop, Written w src home found stop.names -> Free w src home dest aim stop) ->
      Trip w src home dest aim skips none (leftOut src found) := by
    intro aim free
    refine ⟨ready.sound, ready.leads, ready.literal.named, ready.linkFree, ?_,
      fun tree stop => decides tree stop.1 stop.2, fun stop new there => ?_⟩
    · intro used same
      cases same
    · by_cases hit : leftOut src found stop = true
      · exact .leftOut hit
      · exact .free (free stop ((written_iff there).mpr (Bool.eq_false_iff.mpr hit)))
  by_cases any : ∃ rest, Written w src home found rest
  · rcases any with ⟨rest, written⟩
    obtain ⟨upper, missing, base, names, parts, leads, plain, clear⟩ := (ready.fits rest written).1
    have free := fun stop (written : Written w src home found (Stop.names stop)) =>
      ready.free names parts leads plain clear written
    exact ⟨⟨upper, base, missing⟩, parts.symm, trip _ free, free⟩
  · have none : ∀ stop : Stop, ¬ Written w src home found stop.names := fun stop written => any ⟨_, written⟩
    exact ⟨⟨[], goal, []⟩, append_nil goal, trip _ fun stop written => absurd written (none stop),
      fun stop written => absurd written (none stop)⟩

lemma Prepared.copyDirectory (decides : Decides w src skips found) :
    ∃ copied next, (copyDirectory src dest skips none).execute w = (.ok copied, next) /\
      next.Sound /\ next = { w with tree := next.tree } /\ w.tree.Copied home goal (Written w src home found) next.tree /\
      (copied = true ↔ ∃ rest, Written w src home found rest) := by
  obtain ⟨aim, rfl, trip, free⟩ := ready.trip decides
  obtain ⟨early, late, outcome, next, parts, ran, carried, ended⟩ := trip.run trip.files trip.nothing false
  rw [<- trip.execute_walk trip.nothing fun _ => rfl] at ran
  have whole : late = [] /\ outcome = .ok (false || early.any (!leftOut src found ·)) := by
    rcases ended with both | ⟨stop, rest, err, rfl, included, refused, -⟩
    · exact both
    · rcases trip.files stop (by simp [parts]) with ⟨new, there⟩
      exact absurd refused (free stop ((written_iff there).mpr included)).takes.not_refused
  obtain ⟨rfl, rfl⟩ := whole
  rw [append_nil] at parts
  have done : ∀ rest, Written w src home found rest ↔
      ∃ stop, (stop ∈ early /\ leftOut src found stop = false) /\ rest = stop.names := by
    intro rest
    constructor
    · intro written
      obtain ⟨file, there⟩ := written.1
      rcases rest.eq_nil_or_concat with rfl | ⟨way, name, rfl⟩
      · rw [append_nil, ready.standing] at there
        cases there
      · rw [concat_eq_append] at there written ⊢
        have mem : (way, name) ∈ itinerary w.tree home (w.tree.size + 1000) [] :=
          mem_itinerary_of_file ready.sound.tree there nil_prefix (by omega)
        have included : leftOut src found (way, name) = false := (written_iff there).mp written
        exact ⟨(way, name), ⟨parts ▸ mem, included⟩, rfl⟩
    · rintro ⟨stop, ⟨mem, included⟩, rfl⟩
      obtain ⟨new, there⟩ := trip.files stop (parts ▸ mem)
      exact (written_iff there).mpr included
  refine ⟨_, next, ran, carried.sound, carried.frame, ⟨?_, ?_, ?_⟩, ?_⟩
  · intro rest written
    obtain ⟨stop, isDone, rfl⟩ := (done rest).mp written
    obtain ⟨file, there⟩ := written.1
    obtain ⟨_, put, -, -, same⟩ := carried.put stop file (.inr isDone) there
    rw [slot_of_clear stop.2 (ready.fits _ written).2.clear, same rfl] at put
    rw [put, there]
  · intro place rest written start short absent
    obtain ⟨stop, isDone, rfl⟩ := (done rest).mp written
    refine carried.made place ⟨absent, stop, .inr isDone, ?_⟩
    rw [<- goal_names] at start short
    exact (prefix_concat_iff.mp start).resolve_left short
  · intro place aside
    refine carried.kept place ?_ ?_
    · rintro ⟨absent, stop, nothing | isDone, start⟩
      · exact nothing
      · refine aside stop.names ((done _).mpr ⟨stop, isDone, rfl⟩) ⟨start.trans ?_, .inr absent⟩
        rw [<- goal_names]
        exact prefix_append _ _
    · rintro stop (nothing | isDone) here
      · exact nothing
      · have written := (done _).mpr ⟨stop, isDone, rfl⟩
        rw [slot_of_clear stop.2 (ready.fits _ written).2.clear] at here
        exact aside stop.names written ⟨by rw [here], .inl here⟩
  · rw [Bool.false_or, any_eq_true]
    constructor
    · rintro ⟨stop, mem, included⟩
      exact ⟨stop.names, (done _).mpr ⟨stop, ⟨mem, by simpa using included⟩, rfl⟩⟩
    · rintro ⟨rest, written⟩
      obtain ⟨stop, ⟨mem, included⟩, -⟩ := (done rest).mp written
      exact ⟨stop, mem, by rw [included]; rfl⟩

end

/-! ## The whole move -/

lemma decides_fromRoot {lead : List String} (below : ∀ path ∈ found, src.Under path)
    (sees : ∀ more, relativize? w.session.roots ⟨src.anchor, src.names ++ more⟩ =
      some ⟨.relative, lead ++ more⟩) : Decides w src (found.map (fromRoot src lead)) found := by
  intro tree way name
  have decided := execute_isExcluded (w := { w with tree := tree }) (found.map (fromRoot src lead))
    (sees way) (sees (way ++ [name]))
  simp only [decided, mem_map_fromRoot below]

lemma Ready.noting (ready : Ready w src home dest goal) (patterns : List String) :
    Ready (w.noting patterns) src home dest goal where
  sound := (ready.sound.noting patterns).otherSound
  literal := ready.literal
  located := ready.located
  standing := ready.standing
  linkFree := ready.linkFree
  fits rest file there := by
    obtain ⟨⟨upper, missing, base, names, parts, leads, facts⟩, fits⟩ := ready.fits rest file there
    exact ⟨⟨upper, missing, base, names, parts, ⟨leads.proper, leads.located, leads.standing⟩, facts⟩, fits⟩

lemma execute_move_directory {choices : List Choice} (ready : Ready w src home dest goal)
    (looked : (exclusionsAt (.many choices) src).execute w = (.ok skips, w)) :
    (move (.many [.path src]) (some dest) (.many choices)).execute w =
      (copyDirectory src dest skips none).execute (w.noting (choices.map Choice.text')) :=
  execute_move_leads ready.sound ready.literal ready.leads dest rfl looked none

lemma Ready.move {choices : List Choice} (ready : Ready w src home dest goal)
    (rooted : Rooted w.session.roots src) (tame : TameChoices choices) :
    ∃ found copied next, ((Selection.many choices).paths src).execute w = (.ok found, w) /\
      (move (.many [.path src]) (some dest) (.many choices)).execute w = (.ok copied, next) /\
      next = { w.noting (choices.map Choice.text') with tree := next.tree } /\
      w.tree.Copied home goal (Written w src home found) next.tree /\ (copied = true ↔ ∃ rest, Written w src home found rest) := by
  obtain ⟨lead, sees⟩ := rooted.relativize?
  obtain ⟨found, below, listed, looked⟩ := exists_exclusions ready.sound ready.literal.proper ready.leads.isDirectory tame sees
  have decides : Decides (w.noting (choices.map Choice.text')) src
      (found.map (fromRoot src lead)) found := decides_fromRoot below sees
  rcases ((ready.noting (choices.map Choice.text')).prepared found).copyDirectory decides with
    ⟨copied, next, ran, -, frame, exact, tells⟩
  exact ⟨found, copied, next, listed, (execute_move_directory ready looked).trans ran, frame, exact, tells⟩

/-- **A move copies a directory exactly.**  For a rooted directory whose files fit below the destination, and
patterns that stay below it, the move ends well.  It writes the files that neither are nor lie right in a path
that the patterns find, with their content and permission bits; it makes no directory but those above them,
and changes nothing else.  The answer tells whether any file was written. -/
theorem move_directory_exact (w : Workspace) (source destination : Path) (home goal : Place)
    (choices : List Choice) (ready : Ready w source home destination goal)
    (rooted : Rooted w.session.roots source) (tame : TameChoices choices) : ∃ found copied tree,
      ((Selection.many choices).paths source).execute w = (.ok found, w) /\
      (move (.many [.path source]) (some destination) (.many choices)).execute w =
        (.ok copied, { w.noting (choices.map Choice.text') with tree := tree }) /\
      w.tree.Copied home goal (Written w source home found) tree /\
      (∀ rest file, w.tree.get? (home ++ rest) = some (.file file) ->
        ¬ Written w source home found rest -> tree.get? (goal ++ rest) = w.tree.get? (goal ++ rest)) /\
      (copied = true ↔ ∃ rest, Written w source home found rest) := by
  rcases ready.move rooted tame with ⟨found, copied, next, listed, ran, frame, exact, tells⟩
  refine ⟨found, copied, next.tree, listed, ?_, exact, ?_, tells⟩
  · rw [ran, <- frame]
  · intro rest file there left
    exact exact.unwritten ready.sound.tree (fun _ written => written.1) there left

def growing : Workspace where
  tree := ⟨[(["w"], .directory), (["w", "s"], .directory), (["w", "s", "a"], .file { content := "1".toUTF8, mode := 0o755 }),
    (["w", "s", "docs"], .directory), (["w", "s", "docs", "b"], .file { content := "2".toUTF8 }),
    (["w", "s", "lib"], .directory), (["w", "s", "lib", "c"], .file { content := "3".toUTF8 })]⟩
  directory := ["w"]
  session := { roots := [⟨.relative, ["s"]⟩] }

lemma ready_growing : Ready growing ⟨.relative, ["s"]⟩ ["w", "s"] ⟨.relative, ["s", "new"]⟩ ["w", "s", "new"] := by
  have absent : ∀ start, growing.tree.get? (["w", "s", "new"] ++ start) = none := by
    intro start
    cases found : growing.tree.get? (["w", "s", "new"] ++ start) with
    | none => rfl
    | some node =>
      have mem := Tree.mem_entries_of_get? (by simp) found
      simp [growing] at mem
  have leads : LeadsTo growing ⟨.relative, ["s"]⟩ ["w", "s"] := ⟨by decide, by decide, by decide⟩
  refine ⟨by decide, by decide, leads.located, leads.standing, ?_, ?_⟩
  · intro rest target found
    have mem := Tree.mem_entries_of_get? (by simp) found
    simp [growing] at mem
  · intro rest file found
    refine ⟨⟨["s"], ["new"], ["w", "s"], rfl, rfl, leads, by decide, ?_⟩, ?_, ?_, ?_⟩
    · intro start early named
      rcases prefix_cons_iff.mp early with empty | ⟨more, rfl, rest⟩
      · exact absurd empty named
      · exact .inl (absent more)
    · exact .inr ⟨"new", rfl, absent []⟩
    · exact fun start _ _ => .inl (absent start)
    · exact .inl (absent rest)

/-- A directory is copied without the files of one of its directories. -/
theorem growing_exact : Ready growing ⟨.relative, ["s"]⟩ ["w", "s"] ⟨.relative, ["s", "new"]⟩ ["w", "s", "new"] /\
      Rooted growing.session.roots ⟨.relative, ["s"]⟩ /\ TameChoices [.text "docs"] /\ ∃ found copied tree,
        ((Selection.many [.text "docs"]).paths ⟨.relative, ["s"]⟩).execute growing = (.ok found, growing) /\
        (move (.many [.path ⟨.relative, ["s"]⟩]) (some ⟨.relative, ["s", "new"]⟩) (.many [.text "docs"])).execute growing =
          (.ok copied, { growing.noting ["docs"] with tree := tree }) /\ growing.tree.Copied ["w", "s"] ["w", "s", "new"]
          (Written growing ⟨.relative, ["s"]⟩ ["w", "s"] found) tree /\
        (∀ rest file, growing.tree.get? (["w", "s"] ++ rest) = some (.file file) ->
          ¬ Written growing ⟨.relative, ["s"]⟩ ["w", "s"] found rest ->
          tree.get? (["w", "s", "new"] ++ rest) = growing.tree.get? (["w", "s", "new"] ++ rest)) /\
        (copied = true ↔ ∃ rest, Written growing ⟨.relative, ["s"]⟩ ["w", "s"] found rest) := by
  have rooted : Rooted growing.session.roots ⟨.relative, ["s"]⟩ := by decide
  have tame : TameChoices [.text "docs"] := by
    intro choice member
    rw [List.mem_singleton.mp member]
    exact ⟨⟨_, rfl⟩, by decide⟩
  exact ⟨ready_growing, rooted, tame, move_directory_exact growing ⟨.relative, ["s"]⟩ ⟨.relative, ["s", "new"]⟩ ["w", "s"]
      ["w", "s", "new"] [.text "docs"] ready_growing rooted tame⟩

/-- **Excluding a directory excludes the files right in it.**  A file that lies deeper is copied, unless it or
the directory that it lies right in is found as well. -/
theorem move_excluding_directory (w : Workspace) (source destination : Path) (home goal : Place)
    (choices : List Choice) (ready : Ready w source home destination goal)
    (rooted : Rooted w.session.roots source) (tame : TameChoices choices) : ∃ found copied next,
      ((Selection.many choices).paths source).execute w = (.ok found, w) /\
      (move (.many [.path source]) (some destination) (.many choices)).execute w = (.ok copied, next) /\
      ∀ way more name file, Path.mk source.anchor (source.names ++ way) ∈ found ->
        w.tree.get? (home ++ (way ++ more ++ [name])) = some (.file file) ->
        next.tree.get? (goal ++ (way ++ more ++ [name])) =
          if more = [] \/ Path.mk source.anchor (source.names ++ (way ++ more)) ∈ found \/
            Path.mk source.anchor (source.names ++ (way ++ more ++ [name])) ∈ found
          then w.tree.get? (goal ++ (way ++ more ++ [name])) else some (.file file) := by
  rcases ready.move rooted tame with ⟨found, copied, next, listed, ran, -, exact, -⟩
  refine ⟨found, copied, next, listed, ran, fun way more name file inside there => ?_⟩
  have written : Written w source home found (way ++ more ++ [name]) ↔
      Path.mk source.anchor (source.names ++ (way ++ more)) ∉ found /\
        Path.mk source.anchor (source.names ++ (way ++ more ++ [name])) ∉ found := by
    rw [Written, List.dropLast_concat]
    exact and_iff_right ⟨file, there⟩
  by_cases left : more = [] \/ Path.mk source.anchor (source.names ++ (way ++ more)) ∈ found \/
      Path.mk source.anchor (source.names ++ (way ++ more ++ [name])) ∈ found
  · rw [if_pos left]
    refine exact.unwritten ready.sound.tree (fun _ written => written.1) there fun copies => ?_
    rcases left with rfl | either
    · exact (written.mp copies).1 (by rwa [List.append_nil])
    · exact not_or.mpr (written.mp copies) either
  · rw [if_neg left, exact.written _ (written.mpr (not_or.mp (not_or.mp left).2))]
    exact there

/-- A file right in a directory that is left out does not come to the new directory. -/
theorem growing_excluding : ∃ copied next, (move (.many [.path ⟨.relative, ["s"]⟩]) (some ⟨.relative, ["s", "new"]⟩)
      (.many [.text "docs"])).execute growing = (.ok copied, next) /\ next.tree.get? ["w", "s", "new", "docs", "b"] = none := by
  have tame : TameChoices [.text "docs"] := by
    intro choice member
    rw [List.mem_singleton.mp member]
    exact ⟨⟨_, rfl⟩, by decide⟩
  rcases move_excluding_directory growing ⟨.relative, ["s"]⟩ ⟨.relative, ["s", "new"]⟩ ["w", "s"]
    ["w", "s", "new"] [.text "docs"] ready_growing (by decide) tame with
    ⟨found, copied, next, listed, ran, rule⟩
  have first : (((Selection.many [.text "docs"]).paths ⟨.relative, ["s"]⟩).execute growing).1.toOption =
      some [⟨.relative, ["s", "docs"]⟩] := by
    decide +kernel
  rw [listed] at first
  cases first
  exact ⟨copied, next, ran, rule ["docs"] [] "b" _ List.mem_cons_self rfl⟩

def deepened : Workspace where
  tree := ⟨[(["w"], .directory), (["w", "s"], .directory), (["w", "s", "d"], .directory),
    (["w", "s", "d", "e"], .directory), (["w", "s", "d", "e", "f"], .file { content := "1".toUTF8 })]⟩
  directory := ["w"]
  session := { roots := [⟨.relative, ["s"]⟩] }

/-- A file is copied although a directory above it is left out. -/
theorem deepened_copied : (((Selection.many [.text "d"]).paths ⟨.relative, ["s"]⟩).execute deepened).1.toOption =
      some [⟨.relative, ["s", "d"]⟩] /\ (((move (.many [.path ⟨.relative, ["s"]⟩]) (some ⟨.relative, ["out"]⟩)
      (.many [.text "d"])).execute deepened).2.tree.get? ["w", "out", "d", "e", "f"]).isSome = true := by
  decide +kernel

def dangling : Workspace where
  tree := ⟨[(["w"], .directory), (["w", "s"], .directory),
    (["w", "s", "x"], .file { content := "1".toUTF8 }), (["w", "out"], .link "nowhere")]⟩
  directory := ["w"]
  session := { roots := [⟨.relative, ["s"]⟩] }

set_option maxRecDepth 100000 in
/-- A link to nothing is neither a directory nor a file, but nothing can be copied below it. -/
theorem dangling_refused : dangling.Sound /\ Rooted dangling.session.roots ⟨.relative, ["s"]⟩ /\
      dangling.tree.find? dangling.directory ⟨.relative, ["out"]⟩ = none /\
      dangling.tree.find? dangling.directory ⟨.relative, ["out", "x"]⟩ = none /\
      ((move (.many [.path ⟨.relative, ["s"]⟩]) (some ⟨.relative, ["out"]⟩)
        (.many [])).execute dangling).1 = .error (.occupied "out") := by
  decide +kernel

end Refinery.Transfer
