import Refinery.Template.Show

namespace Refinery.Template

namespace Entity

/-!
# Comparing entities

Numbers are compared by value whatever their kinds, texts by their characters, and lists and tuples item
by item.
-/

open Decimal (Double)

def tuple? : Entity -> Option (List Entity)
  | .tuple items => some items
  | .group key items => some [key, items]
  | _ => none

def sameRange (a b c d e f : Int) : Bool :=
  let count := rangeLength a b c
  count == rangeLength d e f && (count == 0 || (a == d && (count == 1 || c == f)))

def equalItems (equal : Entity -> Entity -> Except Failure Bool) : List Entity -> List Entity -> Except Failure Bool
  | [], [] => .ok true
  | a :: as, b :: bs => do if <- equal a b then equalItems equal as bs else return false
  | _, _ => .ok false

def equalPairs (equal : Entity -> Entity -> Except Failure Bool) :
    List (Entity × Entity) -> List (Entity × Entity) -> Except Failure Bool
  | [], _ => .ok true
  | (key, value) :: rest, others => do
    match <- others.findM? fun other => equal key other.1 with
    | some (_, other) => if <- equal value other then equalPairs equal rest others else return false
    | none => return false

def equal (store : Store) : (fuel : Nat) -> Entity -> Entity -> Except Failure Bool
  | 0, _, _ => .error .tooDeep
  | fuel + 1, a, b =>
    match a.number?, b.number?, a.text?, b.text?, a.tuple?, b.tuple? with
    | some x, some y, _, _, _, _ => .ok (Decimal.sameNumber x y)
    | _, _, some s, some t, _, _ => .ok (s == t)
    | _, _, _, _, some xs, some ys => equalItems (equal store fuel) xs ys
    | _, _, _, _, _, _ =>
      match a, b with
      | .undefined, .undefined | .null, .null => .ok true
      | .bytes x, .bytes y => .ok (x == y)
      | .path p, .path q => .ok (p == q)
      | .atom x, .atom y => .ok (x.same y)
      | .range a b c, .range d e f => .ok (sameRange a b c d e f)
      | .kind p, .kind q | .function p, .function q => .ok (p == q)
      | .blocks x, .blocks y => .ok (x == y)
      | .method x m, .method y n => do if m == n then equal store fuel x y else return false
      | .view .keys x, .view .keys y | .view .items x, .view .items y =>
        let shape := match a with | .view shape _ => shape | _ => .keys
        let xs := viewItems shape (pairsOf store x)
        let ys := viewItems shape (pairsOf store y)
        if xs.length ≠ ys.length then .ok false
        else xs.allM fun x => ys.anyM fun y => equal store fuel x y
      | .cell x, .cell y =>
        if x == y then .ok true
        else
          match store[x]?, store[y]? with
          | some (.list xs), some (.list ys) =>
            if xs.size ≠ ys.size then .ok false
            else equalItems (equal store fuel) xs.toList ys.toList
          | some (.map xs), some (.map ys) =>
            if xs.length ≠ ys.length then .ok false else equalPairs (equal store fuel) xs ys
          | _, _ => .ok false
      | _, _ => .ok false

/-- Whether two entities are the same.  Constants that are written twice are so only where they are `shared`,
apart from small numbers and single characters. -/
def same (shared : Bool) (a b : Entity) : Bool :=
  match a, b with
  | .null, .null => true
  | .bool x, .bool y => x == y
  | .int x, .int y => x == y && (shared || (-5 ≤ x && x ≤ 256))
  | .real x, .real y => shared && x == y
  | .text s, .text t => s == t && (shared || s.length ≤ 1)
  | .cell x, .cell y => x == y
  | .kind x, .kind y | .function x, .function y => x == y
  | .tuple [], .tuple [] => true
  | _, _ => false

def isKey (store : Store) : (fuel : Nat) -> Entity -> Bool
  | 0, _ => false
  | fuel + 1, entity =>
    match entity with
    | .tuple items => items.all (isKey store fuel)
    | .group _ _ | .atom (.set _) | .view .keys _ | .view .items _ => false
    | .cell number =>
      match store[number]? with
      | some (.list _) | some (.map _) => false
      | _ => true
    | _ => true

def beforeItems (equal before : Entity -> Entity -> Except Failure Bool) (orEqual : Bool) :
    List Entity -> List Entity -> Except Failure Bool
  | [], [] => .ok orEqual
  | [], _ :: _ => .ok true
  | _ :: _, [] => .ok false
  | a :: as, b :: bs => do
    if <- equal a b then beforeItems equal before orEqual as bs else before a b

def before (store : Store) (orEqual : Bool) : (fuel : Nat) -> Entity -> Entity -> Except Failure Bool
  | 0, _, _ => .error .tooDeep
  | fuel + 1, a, b =>
    let items (xs ys : List Entity) :=
      beforeItems (equal store fuel) (before store orEqual fuel) orEqual xs ys
    match a.number?, b.number?, a.text?, b.text?, a.tuple?, b.tuple? with
    | some x, some y, _, _, _, _ =>
      .ok (Decimal.lessNumber x y || (orEqual && Decimal.sameNumber x y))
    | _, _, some s, some t, _, _ => .ok (if orEqual then Text.le s t else !Text.le t s)
    | _, _, _, _, some xs, some ys => items xs ys
    | _, _, _, _, _, _ =>
      match a, b with
      | .undefined, _ | _, .undefined => .error missing
      | .bytes x, .bytes y =>
        .ok (Doc.bytesLess x.toList y.toList || (orEqual && x == y))
      | .path p, .path q => .ok (if orEqual then p.le q else !q.le p)
      | .atom x, .atom y => do
        if <- x.less y then return true else return orEqual && x.same y
      | .cell x, .cell y =>
        match store[x]?, store[y]? with
        | some (.list xs), some (.list ys) => items xs.toList ys.toList
        | _, _ => .error .wrongKind
      | _, _ => .error .wrongKind

def lookup (store : Store) (key : Entity) (pairs : List (Entity × Entity)) :
    Except Failure (Option Entity) := do
  if !key.isKey store nesting then throw .wrongKind
  return (<- pairs.findM? fun pair => equal store nesting key pair.1).map (·.2)

def assign (store : Store) (key value : Entity) (pairs : List (Entity × Entity)) :
    Except Failure (List (Entity × Entity)) := do
  if !key.isKey store nesting then throw .wrongKind
  let rec put : List (Entity × Entity) -> Except Failure (List (Entity × Entity))
    | [] => .ok [(key, value)]
    | (k, v) :: rest => do
      if <- equal store nesting k key then return (k, value) :: rest
      else return (k, v) :: (<- put rest)
  put pairs

def remove (store : Store) (key : Entity) (pairs : List (Entity × Entity)) :
    Except Failure (Option (Entity × List (Entity × Entity))) := do
  if !key.isKey store nesting then throw .wrongKind
  let rec take : List (Entity × Entity) -> Except Failure (Option (Entity × List (Entity × Entity)))
    | [] => .ok none
    | (k, v) :: rest => do
      if <- equal store nesting k key then return some (v, rest)
      else return (<- take rest).map fun (found, others) => (found, (k, v) :: others)
  take pairs

end Entity

namespace Render

def equal (a b : Entity) : Render Bool := do
  Entity.equal (<- store) Entity.nesting a b

def less (a b : Entity) : Render Bool := do
  Entity.before (<- store) false Entity.nesting a b

def lookup (key : Entity) (pairs : List (Entity × Entity)) : Render (Option Entity) := do
  Entity.lookup (<- store) key pairs

def assign (key value : Entity) (pairs : List (Entity × Entity)) :
    Render (List (Entity × Entity)) := do
  Entity.assign (<- store) key value pairs

def mapOf (pairs : List (Entity × Entity)) : Render Entity := do
  newMap (<- pairs.foldlM (fun done (key, value) => assign key value done) [])

end Render

end Refinery.Template
