import Refinery.Proofs.Tree.View

namespace Refinery

/-!
# Trees with one outline

The outline of a tree says where there are nodes, which of them are directories, and where links lead.
-/

def Node.outline : Node -> Node
  | .file _ => .file default
  | .link target => .link target
  | .directory => .directory

namespace Tree

def SameOutline (first second : Tree) : Prop :=
  ∀ place, (first.get? place).map Node.outline = (second.get? place).map Node.outline

namespace SameOutline

variable {tree other third : Tree} {place : Place}

lemma refl (tree : Tree) : SameOutline tree tree :=
  fun _ => rfl

lemma symm (same : SameOutline tree other) : SameOutline other tree :=
  fun place => (same place).symm

lemma trans (first : SameOutline tree other) (second : SameOutline other third) : SameOutline tree third :=
  fun place => (first place).trans (second place)

section

variable (same : SameOutline tree other)
include same

lemma isSome (place : Place) : (tree.get? place).isSome = (other.get? place).isSome := by
  have here := congrArg Option.isSome (same place)
  rwa [Option.isSome_map, Option.isSome_map] at here

lemma absent (missing : tree.get? place = none) : other.get? place = none := by
  have here := same place
  rw [missing] at here
  exact Option.map_eq_none_iff.mp here.symm

lemma grows : Grows tree other := by
  intro place node found
  have here := same place
  rw [found] at here
  rcases Option.map_eq_some_iff.mp here.symm with ⟨there, kept, alike⟩
  refine ⟨there, kept, ?_⟩
  cases node <;> cases there <;> cases alike <;> trivial

end

lemma insert {file : FileNode} (new : FileNode) (found : tree.get? place = some (.file file)) :
    SameOutline tree (tree.insert place (.file new)) := by
  have named : place ≠ [] := by
    rintro rfl
    cases found
  intro each
  rw [get?_insert _ _ _ _ named]
  by_cases here : each = place
  · rw [here, if_pos rfl, found]
    rfl
  · rw [if_neg here]

/-! ## Following names -/

variable (same : SameOutline tree other)
include same

lemma stretch (follow : Bool) (start : Place) (names : List String) :
    tree.stretch follow start names = other.stretch follow start names := by
  induction names generalizing start with
  | nil => rfl
  | cons name rest ih =>
    rw [Tree.stretch, Tree.stretch, ih, ih]
    cases found : tree.get? (start ++ [name]) with
    | none => rw [same.absent found]
    | some node =>
      cases node with
      | file file =>
        rcases same.grows.file found with ⟨now, there⟩
        rw [there]
      | link target => rw [same.grows.link found]
      | directory => rw [same.grows.directory found, ih]

lemma route (follow : Bool) (budget : Nat) (start : Place) (names : List String) :
    tree.route follow budget start names = other.route follow budget start names := by
  induction budget generalizing start names with
  | zero => rfl
  | succ budget ih => simp only [Tree.route, same.stretch, ih]

lemma locate (cwd : Place) (path : Path) (follow : Bool) : tree.locate cwd path follow = other.locate cwd path follow :=
  same.route follow _ _ _

lemma find? (cwd : Place) (path : Path) : (tree.find? cwd path).map Node.outline = (other.find? cwd path).map Node.outline := by
  rw [Tree.find?, Tree.find?, same.locate]
  cases other.locate cwd path with
  | error reason => rfl
  | ok place => exact same place

lemma findSelf? (cwd : Place) (path : Path) :
    (tree.findSelf? cwd path).map Node.outline = (other.findSelf? cwd path).map Node.outline := by
  rw [Tree.findSelf?, Tree.findSelf?, same.locate]
  cases other.locate cwd path false with
  | error reason => rfl
  | ok place => exact same place

end SameOutline

lemma Same.outline {tree other : Tree} (same : Same tree other) : SameOutline tree other :=
  fun place => by rw [same place]

end Tree
end Refinery
