import Refinery.Template.Arithmetic

namespace Refinery.Template

open Text

/-!
# Members and items

What stands behind a point is a property or a method, or else an item with that name.
-/

open Decimal (Double)

namespace Entity

def textMethods : List String :=
  words "capitalize casefold center count encode endswith expandtabs find format format_map
    index isalnum isalpha isascii isdecimal isdigit isidentifier islower isnumeric isprintable
    isspace istitle isupper join ljust lower lstrip maketrans partition removeprefix removesuffix
    replace rfind rindex rjust rpartition rsplit rstrip split splitlines startswith strip swapcase
    title translate upper zfill"

def markupMethods : List String :=
  words "escape striptags unescape"

def bytesMethods : List String :=
  ["decode", "hex"]

def listMethods : List String :=
  words "append clear copy count extend index insert pop remove reverse sort"

def mapMethods : List String :=
  words "clear copy fromkeys get items keys pop popitem setdefault update values"

def wholeMethods : List String :=
  words "as_integer_ratio bit_count bit_length conjugate to_bytes"

def realMethods : List String :=
  words "as_integer_ratio conjugate hex is_integer"

def methods (store : Store) : Entity -> List String
  | .text _ => textMethods
  | .markup _ => textMethods ++ markupMethods
  | .bytes _ => bytesMethods
  | .bool _ | .int _ => wholeMethods
  | .real _ => realMethods
  | .tuple _ | .group _ _ | .range _ _ _ => ["count", "index"]
  | .atom (.date _) | .atom (.moment _) => ["isoformat"]
  | .path _ => ["as_posix", "is_absolute", "joinpath", "with_name", "with_suffix"]
  | .kind "dict" => ["fromkeys"]
  | .cell number =>
    match store[number]? with
    | some (.list _) => listMethods
    | some (.map _) => mapMethods
    | some (.cycler _ _) => ["next", "reset"]
    | some (.loop _) => ["changed", "cycle"]
    | _ => []
  | _ => []

def timeParts (date : Date) : List (String × Entity) :=
  [("year", .int date.year), ("month", .int date.month), ("day", .int date.day)]

def properties (store : Store) (entity : Entity) : List (String × Entity) :=
  match entity with
  | .path p =>
    [("name", .text p.name), ("stem", .text p.stem), ("suffix", .text p.ending), ("parent", .path p.parent),
      ("parts", .tuple (p.parts.map .text))]
  | .atom (.date d) => timeParts d
  | .atom (.moment m) =>
    ("hour", .int m.hour) :: ("minute", .int m.minute) :: ("second", .int m.second) ::
      ("microsecond", .int m.microsecond) :: timeParts m.date
  | .routine own =>
    let parameters := own.signature.parameters
    [("name", (own.name.map .text).getD .null), ("arguments", .tuple (parameters.map .text)),
      ("catch_kwargs", .bool own.takesNamed), ("catch_varargs", .bool own.takesPlaced),
      ("caller", .bool own.takesCaller), ("explicit_caller", .bool (parameters.contains "caller"))]
  | .exports _ entries _ => entries
  | .group key items => [("grouper", key), ("list", items)]
  | .range start stop step => [("start", .int start), ("stop", .int stop), ("step", .int step)]
  | .kind own => [("__name__", .text own)]
  | .block own _ _ => [("name", .text own)]
  | .cell number =>
    match store[number]? with
    | some (.cycler items place) =>
      ("items", .tuple items) :: ("pos", .int place) :: items[place]?.toList.map ("current", ·)
    | some (.joiner separator used) => [("sep", separator), ("used", .bool used)]
    | _ => []
  | _ =>
    match entity.number? with
    | some (.inl n) =>
      [("real", .int n), ("numerator", .int n), ("imag", .int 0), ("denominator", .int 1)]
    | some (.inr x) => [("real", .real x), ("imag", .real Double.zero)]
    | none => []

def property? (store : Store) (entity : Entity) (name : String) : Option Entity :=
  (entity.properties store).lookup name

def position? (count : Nat) (index : Int) : Option Nat :=
  let place := if index < 0 then index + count else index
  if 0 ≤ place && place < count then some place.toNat else none

def slicePlaces (count : Nat) (start stop : Option Int) (step : Int) : Int × Nat × Int :=
  let size : Int := count
  let clamp (low high n : Int) := max low (min high n)
  let place (n : Int) := if n < 0 then n + size else n
  if 0 < step then
    let first := clamp 0 size (place (start.getD 0))
    let last := clamp 0 size (place (stop.getD size))
    (first, rangeLength first last step, step)
  else
    let first := match start with
      | some n => clamp (-1) (size - 1) (place n)
      | none => size - 1
    let last := match stop with
      | some n => clamp (-1) (size - 1) (place n)
      | none => -1
    (first, rangeLength first last step, step)

def sliceItems {α : Type} (items : Array α) (start stop : Option Int) (step : Int) : List α :=
  let (first, count, step) := slicePlaces items.size start stop step
  (List.range count).filterMap fun (i : Nat) => items[(first + (i : Int) * step).toNat]?

def sliceEnd : Entity -> Except Failure (Option Int)
  | .null => .ok none
  | entity => do return some (<- entity.needWhole)

end Entity

namespace Render

def loopProperty (next : Nat -> Render (Option Entity)) (length : Nat -> Render Nat) (number : Nat)
    (state : Loop) (name : String) : Render (Option Entity) := do
  let index : Int := (state.taken : Int) - 1
  let peek : Render (Option Entity) := do
    match state.after with
    | some after => return some after
    | none =>
      let after <- next state.iteration
      match <- cell? number with
      | some (.loop now) => setCell number (.loop { now with after })
      | _ => pure ()
      return after
  match name with
  | "index" => return some (.int (index + 1))
  | "index0" => return some (.int index)
  | "first" => return some (.bool (index = 0))
  | "depth" => return some (.int (state.depth + 1))
  | "depth0" => return some (.int state.depth)
  | "length" => return some (.int (<- length number))
  | "revindex" => return some (.int ((<- length number) - index))
  | "revindex0" => return some (.int ((<- length number) - index - 1))
  | "last" => return some (.bool (<- peek).isNone)
  | "nextitem" => return some ((<- peek).getD .undefined)
  | "previtem" =>
    return some (if index = 0 then .undefined else state.before.getD .undefined)
  | _ => return none

def element? (entity index : Entity) : Render (Option Entity) := do
  let pick {α : Type} (items : List α) : Option α := do
    items[<- Entity.position? items.length (<- index.whole?)]?
  match entity, <- cellOf? entity, entity.tuple? with
  | .undefined, _, _ => throw missing
  | .text s, _, _ => return (pick s.toList).map fun c => .text (String.singleton c)
  | .markup s, _, _ => return (pick s.toList).map fun c => .markup (String.singleton c)
  | .bytes b, _, _ => return (pick b.toList).map fun n => .int n.toNat
  | .range start stop step, _, _ =>
    return (do Entity.position? (Entity.rangeLength start stop step) (<- index.whole?)).map fun i =>
      .int (start + (i : Int) * step)
  | .blocks number, _, _ =>
    let .text name := index | return none
    return ((<- context number).blocks.lookup name).map fun _ => .block name number 0
  | _, some (.list items), _ => return pick items.toList
  | _, some (.map pairs), _ =>
    if index.isKey (<- store) Entity.nesting then lookup index pairs else return none
  | _, _, some items => return pick items
  | _, _, none => return none

def slice (entity start stop step : Entity) : Render Entity := do
  let bounds : Except Failure (Option Int × Option Int × Int) := do
    let step <- step.sliceEnd
    let start <- start.sliceEnd
    let stop <- stop.sliceEnd
    if step = some 0 then throw .badValue
    return (start, stop, step.getD 1)
  let cut {α : Type} (items : Array α) : Except Failure (List α) := do
    let (start, stop, step) <- bounds
    return Entity.sliceItems items start stop step
  match entity, <- cellOf? entity, entity.tuple? with
  | .undefined, _, _ => throw missing
  | .text s, _, _ => return .text (String.ofList (<- cut s.toList.toArray))
  | .markup s, _, _ => return .markup (String.ofList (<- cut s.toList.toArray))
  | .bytes b, _, _ => return .bytes ⟨(<- cut b.data).toArray⟩
  | .range first last stride, _, _ =>
    let (start, stop, step) <- bounds
    let count := Entity.rangeLength first last stride
    let (start, length, step) := Entity.slicePlaces count start stop step
    let start := first + start * stride
    let step := step * stride
    return .range start (start + length * step) step
  | _, some (.list items), _ => newList (<- cut items)
  | _, _, some items => return .tuple (<- cut items.toArray)
  | _, _, none => throw .wrongKind

end Render

end Refinery.Template
