import Refinery.Proofs.Path.Text
import Refinery.Proofs.Sorting

namespace Refinery

open List Text

/-!
# The view of a sound tree

In a sound tree no place occurs twice, every name is one that a directory can hold, and every node stands in a
directory.  The view `Tree.get?` then decides all that jobs see.  Putting a node that is no directory into a
directory keeps a tree sound, and so does taking one away.
-/

namespace Tree

/-- What a list of entries has to satisfy to be a tree. -/
structure Sound (tree : Tree) : Prop where
  distinct : (tree.entries.map Prod.fst).Nodup
  plain : ∀ entry ∈ tree.entries, ∀ name ∈ entry.1, IsPlain name
  held : ∀ entry ∈ tree.entries, entry.1 ≠ [] /\ tree.get? entry.1.dropLast = some .directory

instance (tree : Tree) : Decidable tree.Sound :=
  decidable_of_iff ((tree.entries.map Prod.fst).Nodup /\ (∀ entry ∈ tree.entries, ∀ name ∈ entry.1, IsPlain name) /\
      ∀ entry ∈ tree.entries, entry.1 ≠ [] /\ tree.get? entry.1.dropLast = some .directory)
    ⟨fun facts => ⟨facts.1, facts.2.1, facts.2.2⟩, fun sound => ⟨sound.distinct, sound.plain, sound.held⟩⟩

/-- Two trees with one view. -/
def Same (first second : Tree) : Prop :=
  ∀ place, first.get? place = second.get? place

lemma Same.refl (tree : Tree) : Same tree tree := fun _ => rfl

lemma Same.symm {first second : Tree} (same : Same first second) : Same second first :=
  fun place => (same place).symm

lemma Same.trans {first second third : Tree} (left : Same first second) (right : Same second third) : Same first third :=
  fun place => (left place).trans (right place)

lemma get?_of_ne_nil {tree : Tree} {place : Place} (named : place ≠ []) : tree.get? place = tree.entries.lookup place := by
  cases place with
  | nil => exact absurd rfl named
  | cons name rest => rfl

variable {entries : List (Place × Node)} {name : String}

private lemma lookup_of_mem (distinct : (entries.map Prod.fst).Nodup) {place : Place} {node : Node}
    (mem : (place, node) ∈ entries) : entries.lookup place = some node := by
  obtain ⟨before, after, rfl⟩ := append_of_mem mem
  rw [map_append, map_cons, nodup_middle, nodup_cons] at distinct
  refine lookup_eq_some_iff.mpr ⟨before, after, rfl, fun entry early => bne_iff_ne.mpr fun same => ?_⟩
  exact distinct.1 (mem_append_left _ (mem_map.mpr ⟨entry, early, same.symm⟩))

lemma mem_entries_of_get? {tree : Tree} {place : Place} {node : Node} (named : place ≠ [])
    (found : tree.get? place = some node) : (place, node) ∈ tree.entries := by
  rw [get?_of_ne_nil named] at found
  obtain ⟨before, after, split, -⟩ := lookup_eq_some_iff.mp found
  rw [split]
  exact mem_append_right before mem_cons_self

lemma nameIn_eq_some_iff {dir place : Place} : nameIn dir place = some name ↔ place = dir ++ [name] := by
  rw [nameIn]
  constructor
  · intro chosen
    split at chosen
    next holds =>
      rw [<- holds]
      exact (dropLast_append_getLast? name chosen).symm
    · cases chosen
  · rintro rfl
    simp

namespace Sound

variable {tree other : Tree} {place : Place} {node : Node} {entry : Place × Node}

section

variable (sound : tree.Sound)
include sound

lemma get?_of_mem (mem : (place, node) ∈ tree.entries) : tree.get? place = some node := by
  rw [get?_of_ne_nil (sound.held _ mem).1]
  exact lookup_of_mem sound.distinct mem

lemma mem_keys (named : place ≠ []) : place ∈ tree.entries.map Prod.fst ↔ (tree.get? place).isSome := by
  constructor
  · intro mem
    obtain ⟨⟨_, node⟩, inside, rfl⟩ := mem_map.mp mem
    rw [sound.get?_of_mem inside]
    rfl
  · intro found
    obtain ⟨node, found⟩ := Option.isSome_iff_exists.mp found
    exact mem_map_of_mem (f := Prod.fst) (mem_entries_of_get? named found)

lemma above (named : place ≠ []) (found : tree.get? place = some node) : tree.get? place.dropLast = some .directory :=
  (sound.held _ (mem_entries_of_get? named found)).2

lemma way (more : List String) (further : more ≠ [])
    (found : tree.get? (place ++ more) = some node) : tree.get? place = some .directory := by
  induction more using List.reverseRecOn generalizing node with
  | nil => exact absurd rfl further
  | append_singleton names name ih =>
    have step := sound.above (by simp) found
    rw [<- append_assoc, dropLast_concat] at step
    cases names with
    | nil => simpa using step
    | cons first rest => exact ih (cons_ne_nil first rest) step

lemma isPlain (found : tree.get? place = some node) (name : String) (mem : name ∈ place) : IsPlain name := by
  have named : place ≠ [] := ne_nil_of_mem mem
  exact sound.plain _ (mem_entries_of_get? named found) name mem

/-! ## Listing -/

lemma mem_list : name ∈ tree.list place ↔ (tree.get? (place ++ [name])).isSome := by
  rw [list, mem_sorted, mem_filterMap, <- sound.mem_keys (by simp), mem_map]
  simp only [nameIn_eq_some_iff]

private lemma names_nodup (place : Place) : (tree.entries.filterMap fun entry => nameIn place entry.1).Nodup := by
  rw [List.Nodup, pairwise_filterMap]
  refine (pairwise_map.mp sound.distinct).imp ?_
  intro first second ne name chosen otherName otherChosen equal
  subst equal
  exact ne ((nameIn_eq_some_iff.mp chosen).trans (nameIn_eq_some_iff.mp otherChosen).symm)

lemma list_eq {names : List String} (distinct : names.Nodup)
    (same : ∀ name, name ∈ names ↔ (tree.get? (place ++ [name])).isSome) : tree.list place = sorted names := by
  apply sorted_congr (sound.names_nodup place) distinct
  intro name
  rw [same, <- sound.mem_list, list, mem_sorted]

lemma list_of_names (otherSound : other.Sound)
    (same : ∀ name, (tree.get? (place ++ [name])).isSome = (other.get? (place ++ [name])).isSome) :
    tree.list place = other.list place := by
  refine sound.list_eq (otherSound.names_nodup place) fun name => ?_
  rw [same, <- otherSound.mem_list, list, mem_sorted]

lemma list_congr (otherSound : other.Sound) (same : ∀ name, tree.get? (place ++ [name]) = other.get? (place ++ [name])) :
    tree.list place = other.list place :=
  sound.list_of_names otherSound fun name => by rw [same name]

/-! ## Number of nodes -/

lemma size_of_places (otherSound : other.Sound)
    (same : ∀ place, (tree.get? place).isSome = (other.get? place).isSome) : tree.size = other.size := by
  have keys : (tree.entries.map Prod.fst).Perm (other.entries.map Prod.fst) := by
    apply (perm_ext_iff_of_nodup sound.distinct otherSound.distinct).mpr
    intro place
    by_cases named : place = []
    · have absent : ∀ {tree : Tree}, tree.Sound -> ¬ place ∈ tree.entries.map Prod.fst := by
        intro tree sound mem
        obtain ⟨entry, inside, equal⟩ := mem_map.mp mem
        exact (sound.held entry inside).1 (equal.trans named)
      exact iff_of_false (absent sound) (absent otherSound)
    · rw [sound.mem_keys named, otherSound.mem_keys named, same place]
  have lengths := keys.length_eq
  rwa [length_map, length_map] at lengths

lemma size_congr (otherSound : other.Sound) (same : Same tree other) : tree.size = other.size :=
  sound.size_of_places otherSound fun place => by rw [same place]

lemma length_le_size (found : tree.get? place = some node) : place.length <= tree.size := by
  have inside : (List.range place.length).map (fun count => place.take (count + 1)) ⊆ tree.entries.map Prod.fst := by
    intro start mem
    obtain ⟨count, within, rfl⟩ := mem_map.mp mem
    have short : count < place.length := mem_range.mp within
    rw [sound.mem_keys (by simpa using ne_nil_of_length_pos (Nat.zero_lt_of_lt short))]
    by_cases whole : place.drop (count + 1) = []
    · rw [take_of_length_le (drop_eq_nil_iff.mp whole), found]
      rfl
    · rw [sound.way (place.drop (count + 1)) whole (by rw [take_append_drop]; exact found)]
      rfl
  have distinct : ((List.range place.length).map fun count => place.take (count + 1)).Nodup := by
    apply List.Nodup.map_on _ nodup_range
    intro first firstWithin second secondWithin equal
    have lengths := congrArg List.length equal
    have firstShort := mem_range.mp firstWithin
    have secondShort := mem_range.mp secondWithin
    rw [length_take, length_take] at lengths
    omega
  have bound := (subperm_of_subset distinct inside).length_le
  rwa [length_map, length_map, length_range] at bound

/-! ## Changes that keep a tree sound -/

private lemma keys_erase_nodup (place : Place) : ((tree.erase place).entries.map Prod.fst).Nodup :=
  List.Nodup.sublist (filter_sublist.map Prod.fst) sound.distinct

end

private lemma mem_erase (mem : entry ∈ (tree.erase place).entries) : entry ∈ tree.entries /\ entry.1 ≠ place :=
  ⟨(mem_filter.mp mem).1, bne_iff_ne.mp (mem_filter.mp mem).2⟩

private lemma still_held {changed : Tree} (sound : tree.Sound) (clear : tree.get? place ≠ some .directory)
    (elsewhere : ∀ other, other ≠ place -> changed.get? other = tree.get? other)
    (mem : entry ∈ tree.entries) : entry.1 ≠ [] /\ changed.get? entry.1.dropLast = some .directory := by
  have held := sound.held entry mem
  refine ⟨held.1, ?_⟩
  rw [elsewhere _ (by intro equal; exact clear (equal ▸ held.2))]
  exact held.2

lemma insert (sound : tree.Sound) (named : place ≠ []) (plain : ∀ name ∈ place, IsPlain name)
    (inDirectory : tree.get? place.dropLast = some .directory)
    (clear : tree.get? place ≠ some .directory) : (tree.insert place node).Sound := by
  have elsewhere : ∀ other, other ≠ place -> (tree.insert place node).get? other = tree.get? other := by
    intro other ne
    rw [get?_insert _ _ _ _ named, if_neg ne]
  have entries : (tree.insert place node).entries = (place, node) :: (tree.erase place).entries := by
    rw [Tree.insert, if_neg (by simpa using named)]
  refine ⟨?_, ?_, ?_⟩
  · rw [entries, map_cons, nodup_cons]
    refine ⟨fun repeated => ?_, sound.keys_erase_nodup place⟩
    obtain ⟨entry, mem, equal⟩ := mem_map.mp repeated
    exact (mem_erase mem).2 equal
  · rw [entries, forall_mem_cons]
    exact ⟨plain, fun entry later => sound.plain entry (mem_erase later).1⟩
  · rw [entries, forall_mem_cons]
    refine ⟨⟨named, ?_⟩, fun entry later => sound.still_held clear elsewhere (mem_erase later).1⟩
    rw [elsewhere _ fun equal => ?_, inDirectory]
    have lengths : place.length - 1 = place.length := by
      rw [<- length_dropLast]
      exact congrArg List.length equal
    have long := length_pos_iff.mpr named
    omega

lemma erase (sound : tree.Sound) (clear : tree.get? place ≠ some .directory) : (tree.erase place).Sound := by
  have named : place ≠ [] := by
    intro top
    exact clear (top ▸ get?_nil tree)
  have elsewhere : ∀ other, other ≠ place -> (tree.erase place).get? other = tree.get? other := by
    intro other ne
    rw [get?_erase _ _ _ named, if_neg ne]
  refine ⟨sound.keys_erase_nodup place, ?_, ?_⟩
  · intro entry mem
    exact sound.plain entry (mem_erase mem).1
  · intro entry mem
    exact sound.still_held clear elsewhere (mem_erase mem).1

end Sound

/-! ## Growth -/

def Kin : Node -> Node -> Prop
  | .file _, .file _ => True
  | .link first, .link second => first = second
  | .directory, .directory => True
  | _, _ => False

lemma Kin.refl (node : Node) : Kin node node := by
  cases node <;> trivial

lemma Kin.trans {first second third : Node} (left : Kin first second) (right : Kin second third) : Kin first third := by
  cases first <;> cases second <;> cases left <;> cases third <;> exact right

def Grows (before after : Tree) : Prop :=
  ∀ place node, before.get? place = some node -> ∃ other, after.get? place = some other /\ Kin node other

lemma Grows.refl (tree : Tree) : Grows tree tree :=
  fun _ node found => ⟨node, found, Kin.refl node⟩

lemma Grows.trans {first second third : Tree} (left : Grows first second) (right : Grows second third) : Grows first third := by
  intro place node found
  obtain ⟨middle, kept, kin⟩ := left place node found
  obtain ⟨last, keptAgain, kinAgain⟩ := right place middle kept
  exact ⟨last, keptAgain, kin.trans kinAgain⟩

lemma grows_insert {tree : Tree} {place : Place} {node : Node} (named : place ≠ [])
    (fits : ∀ old, tree.get? place = some old -> Kin old node) : Grows tree (tree.insert place node) := by
  intro other old found
  by_cases same : other = place
  · subst same
    exact ⟨node, by rw [get?_insert _ _ _ _ named, if_pos rfl], fits old found⟩
  · exact ⟨old, by rw [get?_insert _ _ _ _ named, if_neg same]; exact found, Kin.refl old⟩

lemma Grows.directory {before after : Tree} {place : Place} (grows : Grows before after)
    (found : before.get? place = some .directory) : after.get? place = some .directory := by
  obtain ⟨node, kept, kin⟩ := grows place _ found
  cases node <;> first | exact kept | cases kin

lemma Grows.file {before after : Tree} {place : Place} {file : FileNode}
    (grows : Grows before after) (found : before.get? place = some (.file file)) :
    ∃ other, after.get? place = some (.file other) := by
  obtain ⟨node, kept, kin⟩ := grows place _ found
  cases node <;> first | exact ⟨_, kept⟩ | cases kin

lemma Grows.link {before after : Tree} {place : Place} {target : String}
    (grows : Grows before after) (found : before.get? place = some (.link target)) : after.get? place = some (.link target) := by
  obtain ⟨node, kept, kin⟩ := grows place _ found
  cases node <;> cases kin
  exact kept

end Tree
end Refinery
