import Refinery.Proofs.Tree.Route

namespace Refinery.Tree

/-!
# Trees with nodes taken out

If none of the removed nodes leads to a directory, nothing was reached through them.
-/

variable {tree thinned : Tree} {start place : Place} {names : List String} {follow : Bool}
  {budget : Nat}

def LeadsToDirectory (tree : Tree) (place : Place) : Prop :=
  tree.find? [] (pathOf place) = some .directory

instance (tree : Tree) (place : Place) : Decidable (tree.LeadsToDirectory place) :=
  inferInstanceAs (Decidable (_ = _))

def Sheds (tree thinned : Tree) : Prop :=
  ∀ place, thinned.get? place = tree.get? place \/ thinned.get? place = none /\ ¬ tree.LeadsToDirectory place

lemma Sound.leadsToDirectory (sound : tree.Sound) (standing : tree.get? place = some .directory) :
    tree.LeadsToDirectory place := by
  have loc : tree.locate [] (pathOf place) = .ok place :=
    route_below sound rfl (sound.isOpen standing) fun _ target => by
      change tree.get? place ≠ _
      simp [standing]
  simp only [LeadsToDirectory, find?, loc, standing]

lemma Sheds.directory (sheds : Sheds tree thinned) (sound : tree.Sound)
    (standing : tree.get? place = some .directory) : thinned.get? place = some .directory := by
  rcases sheds place with same | ⟨_, apart⟩
  · rw [same, standing]
  · exact absurd (sound.leadsToDirectory standing) apart

lemma Sound.link_leadsToDirectory {above middle : Place} {name target : String} (sound : tree.Sound)
    (standing : tree.get? above = some .directory)
    (linked : tree.get? (above ++ [name]) = some (.link target)) (enough : budget <= linkBudget)
    (walked : tree.route true budget (if (Path.ofString target).isAbsolute then [] else above)
      (Path.ofString target).names = .ok middle)
    (dir : tree.get? middle = some .directory) : tree.LeadsToDirectory (above ++ [name]) := by
  have down : tree.stretch true [] above = .arrived above :=
    stretch_below sound rfl (sound.isOpen standing) fun _ => by simp [standing]
  have plain := sound.isPlain linked name (by simp)
  have here : tree.stretch true [] (above ++ [name]) = .atLink above target [] := by
    rw [stretch_append [] above true sound rfl (by simp), down]
    simp [onward, standing, stretch, plain.2, plain.1.2.1, linked]
  have loc : tree.locate [] (pathOf (above ++ [name])) = .ok middle := by
    change tree.route true (linkBudget + 1) [] (above ++ [name]) = _
    rw [route, here]
    simpa using route_mono enough walked
  simp only [LeadsToDirectory, find?, loc, dir]

variable (sheds : Sheds tree thinned) (sound : tree.Sound)
include sheds sound

/-- A walk ends alike in the thinned tree, or something is missing there.  Then it got stuck before too, or it
came to a link that does not lead to a directory. -/
lemma Sheds.stretch (standing : tree.get? start = some .directory) (names : List String) :
    thinned.stretch false start names = tree.stretch false start names \/ thinned.stretch false start names = .stuck .absent /\
        ((∃ reason, tree.stretch false start names = .stuck reason) \/
          ∃ above name target rest, tree.stretch false start names = .atLink above target rest /\
            rest ≠ [] /\ tree.get? above = some .directory /\ tree.get? (above ++ [name]) = some (.link target) /\
            ¬ tree.LeadsToDirectory (above ++ [name])) := by
  have missing {place : Place} (found : tree.get? place = none) : thinned.get? place = none := by
    rcases sheds place with same | ⟨gone, _⟩
    · rw [same, found]
    · exact gone
  fun_induction tree.stretch false start names with
  | case1 start => exact .inl rfl
  | case2 start rest ih =>
    rw [Tree.stretch, if_pos rfl]
    exact ih (sound.up standing)
  | case3 start rest _ ih =>
    rw [Tree.stretch, if_neg (by decide), if_pos rfl]
    exact ih standing
  | case4 start name rest notUp notDot found ih =>
    rw [Tree.stretch, if_neg notUp, if_neg notDot, sheds.directory sound found]
    exact ih found
  | case5 start name rest notUp notDot _ found last | case7 start name rest notUp notDot _ found last =>
    have only : rest = [] := by simpa using last
    rcases sheds (start ++ [name]) with same | ⟨gone, _⟩ <;> exact .inl (by simp [Tree.stretch, *])
  | case6 start name rest notUp notDot file found further =>
    rcases sheds (start ++ [name]) with same | ⟨gone, _⟩
    · exact .inl (by simp [Tree.stretch, notUp, notDot, same, found, further])
    · exact .inr ⟨by simp [Tree.stretch, notUp, notDot, gone, further], .inl ⟨_, rfl⟩⟩
  | case8 start name rest notUp notDot target found further =>
    have more : rest ≠ [] := by simpa using further
    rcases sheds (start ++ [name]) with same | ⟨gone, apart⟩
    · exact .inl (by simp [Tree.stretch, notUp, notDot, same, found, more])
    · exact .inr ⟨by simp [Tree.stretch, notUp, notDot, gone, more],
        .inr ⟨start, name, target, rest, rfl, more, standing, found, apart⟩⟩
  | case9 | case10 => exact .inl (by simp [Tree.stretch, *])

lemma Sheds.route (standing : tree.get? start = some .directory) (enough : budget <= linkBudget + 1) :
    thinned.route false budget start names = tree.route false budget start names \/
      (∃ reason, tree.route false budget start names = .error reason) /\
        thinned.route false budget start names = .error .absent := by
  induction budget generalizing start names with
  | zero => exact .inl rfl
  | succ budget ih =>
    rw [Tree.route, Tree.route]
    rcases sheds.stretch sound standing names with same | ⟨missing, stuck | through⟩
    · rw [same]
      cases step : tree.stretch false start names with
      | arrived reached => exact .inl rfl
      | stuck reason => exact .inl rfl
      | atLink above target rest =>
        exact ih (get?_linkBase (stretch_atLink sound standing step).1 _) (by omega)
    · rcases stuck with ⟨reason, before⟩
      rw [missing, before]
      exact .inr ⟨⟨reason, rfl⟩, rfl⟩
    · rcases through with ⟨above, name, target, rest, before, further, inDirectory, linked, apart⟩
      rw [missing, before]
      refine .inr ⟨?_, rfl⟩
      cases onward : tree.route false budget (if (Path.ofString target).isAbsolute then [] else above)
          ((Path.ofString target).names ++ rest) with
      | error reason => exact ⟨reason, onward⟩
      | ok reached =>
        rcases route_append_ok sound (get?_linkBase inDirectory _) further onward with ⟨middle, walked, dir⟩
        exact absurd (sound.link_leadsToDirectory inDirectory linked (by omega) walked dir) apart

lemma Sheds.locate {cwd : Place} (standing : tree.get? cwd = some .directory) (path : Path) :
    thinned.locate cwd path false = tree.locate cwd path false \/
      (∃ reason, tree.locate cwd path false = .error reason) /\ thinned.locate cwd path false = .error .absent :=
  sheds.route sound (get?_origin standing path) (Nat.le_refl _)

end Refinery.Tree
