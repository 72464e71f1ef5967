import Refinery.Template.Entity

namespace Refinery.Template

open Text

namespace Entity

/-!
# Entities as texts

How entities are printed, how they are quoted inside of others, and which of them count as true.
-/

def nesting : Nat := 900

def wholeText (n : Int) : Except Failure String :=
  if 14200 < n.natAbs.log2 && Nat.pow 10 4300 ≤ n.natAbs then .error .badValue else .ok (toString n)

def kindName (store : Store) : Entity -> String
  | .undefined => "Undefined"
  | .null => "NoneType"
  | .bool _ => "bool"
  | .int _ => "int"
  | .real _ => "float"
  | .text _ => "str"
  | .markup _ => "Markup"
  | .bytes _ => "bytes"
  | .path _ => "PosixPath"
  | .atom (.date _) => "date"
  | .atom (.moment _) => "datetime"
  | .atom (.set _) => "set"
  | .atom _ => "object"
  | .tuple _ => "tuple"
  | .group _ _ => "_GroupTuple"
  | .range _ _ _ => "range"
  | .view .keys _ => "dict_keys"
  | .view .values _ => "dict_values"
  | .view .items _ => "dict_items"
  | .method _ _ => "builtin_function_or_method"
  | .function _ => "function"
  | .kind _ => "type"
  | .routine _ => "Macro"
  | .block _ _ _ => "BlockReference"
  | .blocks _ => "TemplateReference"
  | .exports _ _ _ => "TemplateModule"
  | .cell number =>
    match store[number]? with
    | some (.list _) => "list"
    | some (.map _) => "dict"
    | some (.space _) => "Namespace"
    | some (.cycler _ _) => "Cycler"
    | some (.joiner _ _) => "Joiner"
    | some (.loop _) => "LoopContext"
    | some (.iteration _) => "generator"
    | none => "object"

def viewItems (kind : ViewKind) (pairs : List (Entity × Entity)) : List Entity :=
  match kind with
  | .keys => pairs.map (·.1)
  | .values => pairs.map (·.2)
  | .items => pairs.map fun (key, value) => .tuple [key, value]

def pairsOf (store : Store) (number : Nat) : List (Entity × Entity) :=
  match store[number]? with
  | some (.map pairs) => pairs
  | _ => []

def rangeLength (start stop step : Int) : Nat :=
  if step = 0 then 0
  else
    let distance := if 0 < step then stop - start else start - stop
    let size : Int := step.natAbs
    ((distance + size - 1) / size).toNat

def rangeItems (start stop step : Int) : List Int :=
  (List.range (rangeLength start stop step)).map fun (i : Nat) => start + (i : Int) * step

def length? (store : Store) : Entity -> Option Nat
  | .undefined => some 0
  | .text value | .markup value => some value.length
  | .bytes value => some value.size
  | .atom (.set items) => some items.length
  | .tuple items => some items.length
  | .group _ _ => some 2
  | .range start stop step => some (rangeLength start stop step)
  | .view _ number => some (pairsOf store number).length
  | .cell number =>
    match store[number]? with
    | some (.list items) => some items.size
    | some (.map pairs) => some pairs.length
    | some (.loop state) => state.length
    | _ => none
  | _ => none

/-- An entity as it is quoted inside of others.  One that is in itself, by the cells `inside`, is written with
dots. -/
def shown (store : Store) : (fuel : Nat) -> (inside : List Nat) -> Entity -> Except Failure String
  | 0, _, _ => .error .tooDeep
  | fuel + 1, inside, entity =>
    let all (inside : List Nat) (items : List Entity) : Except Failure String := do
      return join ", " (<- items.mapM (shown store fuel inside))
    let pairs (inside : List Nat) (pairs : List (Entity × Entity)) : Except Failure String := do
      let entries <- pairs.mapM fun (key, value) => do
        return (<- shown store fuel inside key) ++ ": " ++ (<- shown store fuel inside value)
      return "\x7b" ++ join ", " entries ++ "\x7d"
    let anonymous : String := "<" ++ entity.kindName store ++ " object at 0x7f0000000000>"
    match entity with
    | .undefined => .ok "Undefined"
    | .null => .ok "None"
    | .bool value => .ok (if value then "True" else "False")
    | .int value => wholeText value
    | .real value => .ok (Decimal.text value)
    | .text value => .ok (quoted value)
    | .markup value => .ok ("Markup(" ++ quoted value ++ ")")
    | .bytes value => .ok (Doc.quotedBytes value)
    | .path value => .ok value.shown
    | .atom doc => .ok doc.shown
    | .tuple [one] => do return "(" ++ (<- shown store fuel inside one) ++ ",)"
    | .tuple items => do return "(" ++ (<- all inside items) ++ ")"
    | .group key items => do return "(" ++ (<- all inside [key, items]) ++ ")"
    | .range start stop step =>
      .ok ("range(" ++ toString start ++ ", " ++ toString stop ++ (if step = 1 then "" else ", " ++ toString step) ++ ")")
    | .view shape number => do
      return entity.kindName store ++ "([" ++ (<- all inside (viewItems shape (pairsOf store number))) ++ "])"
    | .kind own => .ok ("<class '" ++ own ++ "'>")
    | .routine own =>
      .ok ("<Macro " ++ ((own.name.map quoted).getD "anonymous") ++ ">")
    | .exports name _ _ => .ok ("<TemplateModule " ++ quoted name ++ ">")
    | .method target name =>
      .ok ("<built-in method " ++ name ++ " of " ++ target.kindName store ++ " object at 0x7f0000000000>")
    | .function name => .ok ("<function " ++ name ++ " at 0x7f0000000000>")
    | .block _ _ _ | .blocks _ => .ok anonymous
    | .cell number =>
      let within := number :: inside
      match store[number]? with
      | some (.list items) =>
        if inside.contains number then .ok "[...]"
        else do return "[" ++ (<- all within items.toList) ++ "]"
      | some (.map entries) =>
        if inside.contains number then .ok "\x7b...\x7d" else pairs within entries
      | some (.space entries) =>
        if inside.contains number then .error .tooDeep
        else do return "<Namespace " ++ (<- pairs within entries) ++ ">"
      | some (.loop state) =>
        let length := (state.length.or (state.source.length? store)).getD state.taken
        .ok ("<LoopContext " ++ toString state.taken ++ "/" ++ toString length ++ ">")
      | _ => .ok anonymous

def display (store : Store) : Entity -> Except Failure String
  | .undefined => .ok ""
  | .text value | .markup value => .ok value
  | .path value => .ok value.toString
  | .atom doc => .ok doc.display
  | .exports _ _ printed => .ok printed
  | entity => entity.shown store nesting []

def quoted (store : Store) (entity : Entity) : Except Failure String :=
  entity.shown store nesting []

def truthy (store : Store) : Entity -> Bool
  | .undefined | .null => false
  | .bool value => value
  | .int value => value != 0
  | .real value => !value.isZero
  | .atom doc => doc.truthy
  | entity =>
    match entity.length? store with
    | some n => n != 0
    | none => true

end Entity

namespace Render

def display (entity : Entity) : Render String := do
  entity.display (<- store)

def quoted (entity : Entity) : Render String := do
  entity.quoted (<- store)

def truthy (entity : Entity) : Render Bool :=
  return entity.truthy (<- store)

end Render

end Refinery.Template
