import Refinery.Path.Basic

namespace Refinery

/-!
# File trees

A place is the list of names from the top.  Every node other than the top stands in a directory.  The view of
a tree is `Tree.get?`.
-/

abbrev Place := List String

instance (priority := 2000) decidableEqContent : DecidableEq ByteArray := ByteArray.instDecidableEq

structure FileNode where
  content : ByteArray
  mode : Nat := 0o644
  age : Nat := 0
  deriving DecidableEq, Inhabited

inductive Node where
  | file (file : FileNode)
  | link (target : String)
  | directory
  deriving DecidableEq

namespace Node

def isDirectory : Node -> Bool
  | directory => true
  | _ => false

def isFile : Node -> Bool
  | file _ => true
  | _ => false

def isLink : Node -> Bool
  | link _ => true
  | _ => false

end Node

structure Tree where
  entries : List (Place × Node)
  deriving Inhabited

namespace Tree

def empty : Tree :=
  ⟨[]⟩

variable (tree : Tree) (place : Place)

def get? : Option Node :=
  if place.isEmpty then some .directory else tree.entries.lookup place

def erase : Tree :=
  ⟨tree.entries.filter fun entry => entry.1 != place⟩

def insert (node : Node) : Tree :=
  if place.isEmpty then tree else ⟨(place, node) :: (tree.erase place).entries⟩

def prune : Tree :=
  ⟨tree.entries.filter fun entry => !place.isPrefixOf entry.1⟩

def nameIn (directory place : Place) : Option String :=
  if place.dropLast = directory then place.getLast? else none

def list : List String :=
  Text.sorted (tree.entries.filterMap fun entry => nameIn place entry.1)

/-- Put directories on the way from `done` down to `done ++ names` where nothing is. -/
def ensure (tree : Tree) (done : Place) : List String -> Tree
  | [] => tree
  | name :: rest =>
    let place := done ++ [name]
    let tree := if (tree.get? place).isNone then tree.insert place .directory else tree
    tree.ensure place rest

def above : Place :=
  place.dropLast

def below : List (Place × Node) :=
  Sorting.ordered (fun first second => Text.leAll first.1 second.1)
    (tree.entries.filter fun entry => place.isPrefixOf entry.1)

def size : Nat :=
  tree.entries.length

theorem get?_nil (tree : Tree) : tree.get? [] = some .directory := rfl

theorem lookup_filter (keep : Place -> Bool) (entries : List (Place × Node)) (place : Place) :
    (entries.filter fun entry => keep entry.1).lookup place = if keep place then entries.lookup place else none := by
  induction entries with
  | nil => simp
  | cons entry rest ih =>
    rcases entry with ⟨key, node⟩
    by_cases here : place = key
    · subst here
      cases kept : keep place with
      | true => simp [kept]
      | false => simpa [kept] using ih
    · have apart : (place == key) = false := by simpa using here
      cases kept : keep key with
      | true => simp [kept, List.lookup_cons, apart, ih]
      | false => simp [kept, List.lookup_cons, apart, ih]

theorem get?_insert (tree : Tree) (place other : Place) (node : Node) (below : place ≠ []) :
    (tree.insert place node).get? other = if other = place then some node else tree.get? other := by
  by_cases atTop : other = []
  · subst atTop
    simp [get?, Ne.symm below]
  · by_cases same : other = place
    · subst same
      simp [insert, get?, below]
    · have apart : (other == place) = false := by simpa using same
      simp [insert, get?, below, atTop, same, erase, List.lookup_cons, apart, lookup_filter (· != place)]

theorem get?_erase (tree : Tree) (place other : Place) (below : place ≠ []) :
    (tree.erase place).get? other = if other = place then none else tree.get? other := by
  by_cases atTop : other = []
  · subst atTop
    simp [get?, Ne.symm below]
  · by_cases same : other = place
    · subst same
      simp [erase, get?, below, lookup_filter (· != other)]
    · simp [erase, get?, atTop, same, lookup_filter (· != place)]

end Tree

namespace Tree

/-!
## Following names to a place

Double dots lead to the directory above, and a link is replaced by its target.  At most `linkBudget` links are
followed.
-/

inductive Astray where
  | absent
  | throughFile
  | tooManyLinks
  deriving DecidableEq, Inhabited

inductive Stretch where
  | arrived (place : Place)
  | atLink (above : Place) (target : String) (rest : List String)
  | stuck (reason : Astray)
  deriving DecidableEq

/-- Walk over names up to the first link.  A link in last position is followed only with `follow`. -/
def stretch (tree : Tree) (follow : Bool) : Place -> List String -> Stretch
  | place, [] => .arrived place
  | place, name :: rest =>
    if name = ".." then tree.stretch follow place.dropLast rest
    else if name = "." then tree.stretch follow place rest
    else
      match tree.get? (place ++ [name]) with
      | some .directory => tree.stretch follow (place ++ [name]) rest
      | some (.file _) => if rest.isEmpty then .arrived (place ++ [name]) else .stuck .throughFile
      | some (.link target) =>
        if rest.isEmpty && !follow then .arrived (place ++ [name]) else .atLink place target rest
      | none => if rest.isEmpty then .arrived (place ++ [name]) else .stuck .absent

def linkBudget : Nat := 40

def route (tree : Tree) (follow : Bool) : (budget : Nat) -> Place -> List String -> Except Astray Place
  | 0, _, _ => .error .tooManyLinks
  | budget + 1, start, names =>
    match tree.stretch follow start names with
    | .arrived place => .ok place
    | .stuck reason => .error reason
    | .atLink above target rest =>
      let goal := Path.ofString target
      tree.route follow budget (if goal.isAbsolute then [] else above) (goal.names ++ rest)

def locate (tree : Tree) (cwd : Place) (path : Path) (follow : Bool := true) : Except Astray Place :=
  tree.route follow (linkBudget + 1) (if path.isAbsolute then [] else cwd) path.names

def find? (tree : Tree) (cwd : Place) (path : Path) : Option Node :=
  match tree.locate cwd path with
  | .ok place => tree.get? place
  | .error _ => none

def findSelf? (tree : Tree) (cwd : Place) (path : Path) : Option Node :=
  match tree.locate cwd path false with
  | .ok place => tree.get? place
  | .error _ => none

def pathOf (place : Place) : Path :=
  ⟨.slash, place⟩

end Tree
end Refinery
