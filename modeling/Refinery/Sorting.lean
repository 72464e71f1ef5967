namespace Refinery.Sorting

/-!
# Sorting

A comparison that may fail needs care: the longest run at the start is taken as it is, and every further item
is put in its place by halving.
-/

variable {m : Type -> Type} [Monad m] {α : Type}

def insertBefore (le : α -> α -> Bool) (item : α) : List α -> List α
  | [] => [item]
  | first :: rest =>
    if le item first then item :: first :: rest else first :: insertBefore le item rest

def ordered (le : α -> α -> Bool) (items : List α) : List α :=
  items.foldr (insertBefore le) []

def runLength (less : α -> α -> m Bool) (falling : Bool) : α -> List α -> m Nat
  | _, [] => return 0
  | before, item :: rest => do
    if (<- less item before) == falling then return (<- runLength less falling item rest) + 1
    else return 0

def place (less : α -> α -> m Bool) (item : α) (sorted : Array α) : (fuel low high : Nat) -> m Nat
  | 0, low, _ => return low
  | fuel + 1, low, high => do
    if low < high then
      let middle := low + (high - low) / 2
      match sorted[middle]? with
      | some other =>
        if <- less item other then place less item sorted fuel low middle
        else place less item sorted fuel (middle + 1) high
      | none => return low
    else return low

def insert (less : α -> α -> m Bool) (sorted : Array α) (item : α) : m (Array α) := do
  let index <- place less item sorted (sorted.size + 1) 0 sorted.size
  return sorted.extract 0 index ++ #[item] ++ sorted.extract index sorted.size

def sort (less : α -> α -> m Bool) (items : List α) : m (List α) := do
  match items with
  | first :: second :: rest =>
    let falling <- less second first
    let count := (<- runLength less falling second rest) + 2
    let run := items.take count
    let start := (if falling then run.reverse else run).toArray
    return (<- (items.drop count).foldlM (insert less) start).toList
  | _ => return items

end Refinery.Sorting
