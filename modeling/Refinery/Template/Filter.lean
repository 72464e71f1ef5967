import Refinery.Template.TextFilter

namespace Refinery
namespace Template
namespace Render

/-!
# Filters that give numbers

Texts are read as numbers, numbers are rounded with halves to the even neighbour, and sizes of files are
written with units.
-/

open Decimal (Double)

/-! ## Reading -/

def wholeOfReal? (x : Double) : Render (Option Int) := do
  if x.isNaN then return none
  if x.isInf then throw .tooLarge
  return some x.truncated

def wholeOfText? (s : String) (base : Entity) : Render (Option Int) := do
  let read : Option Int := do
    let base <- base.whole?
    if base = 0 || (2 ≤ base && base ≤ 36) then Decimal.readWhole? base.toNat s else none
  match read, Decimal.readReal? s with
  | none, some x => wholeOfReal? x
  | found, _ => return found

variable (value : Entity) (a : Arguments Entity)

def intFilter : Render Entity := do
  let bound <- a.bind ["default", "base"]
  let found <- match value with
    | .undefined => throw missing
    | .text s | .markup s => wholeOfText? s (argument bound 1 (.int 10))
    | .bytes b => wholeOfText? ((String.fromUTF8? b).getD "") (.int 10)
    | _ =>
      match value.number? with
      | some (.inl n) => pure (some n)
      | some (.inr x) => wholeOfReal? x
      | none => pure none
  return (found.map .int).getD (argument bound 0 (.int 0))

def realOf? : Render (Option Double) := do
  match value with
  | .undefined => throw missing
  | .text s | .markup s => return Decimal.readReal? s
  | .bytes b => return Decimal.readReal? ((String.fromUTF8? b).getD "")
  | _ =>
    match value.number? with
    | some number => return some (<- Entity.realOf number)
    | none => return none

def floatFilter : Render Entity := do
  let bound <- a.bind ["default"]
  return ((<- realOf? value).map .real).getD (argument bound 0 (.real Double.zero))

/-! ## Rounding -/

def roundWhole (n : Int) (places : Int) : Int :=
  if 0 ≤ places then n
  else
    let unit := Nat.pow 10 places.natAbs
    let size := Decimal.roundDiv n.natAbs unit * unit
    if n < 0 then -size else size

def roundReal (x : Double) (places : Int) : Except Failure Double :=
  if !x.isFinite || x.isZero || 323 < places then .ok x
  else if places < -308 then .ok (Double.zero.withSignOf x)
  else
    let (numerator, denominator) := x.size
    let up := Nat.pow 10 places.toNat
    let down := Nat.pow 10 (-places).toNat
    let rounded := Decimal.roundDiv (numerator * up) (denominator * down)
    let found := Double.ofRatio x.isNegative (rounded * down) up
    if found.isInf then .error .tooLarge else .ok (found.withSignOf x)

def nearestWhole (x : Double) : Except Failure Int :=
  if x.isNaN then .error .badValue
  else if x.isInf then .error .tooLarge
  else
    let (numerator, denominator) := x.size
    let size : Int := Decimal.roundDiv numerator denominator
    .ok (if x.isNegative then -size else size)

def roundOneWay (up : Bool) (value precision : Entity) : Render Entity := do
  let scale <- binary .power (.int 10) precision
  let shifted <- binary .multiply value scale
  let whole <- match shifted.number? with
    | some (.inl n) => pure n
    | some (.inr x) =>
      if x.isNaN then throw .badValue
      if x.isInf then throw .tooLarge
      pure (if up then x.ceiling else x.floor)
    | none => throw .wrongKind
  binary .divide (.int whole) scale

def roundFilter : Render Entity := do
  let bound <- a.bind ["precision", "method"]
  let precision := argument bound 0 (.int 0)
  let method := argument bound 1 (.text "common")
  if !method.isKey (<- store) Entity.nesting then throw .wrongKind
  match method.text? with
  | some "common" =>
    match value.number?, precision with
    | none, _ => throw .wrongKind
    | some (.inl n), .null => return .int n
    | some (.inr x), .null => return .int (<- nearestWhole x)
    | some (.inl n), _ =>
      let places <- precision.needWhole
      if places < -100000 then return .int 0
      return .int (roundWhole n places)
    | some (.inr x), _ => return .real (<- roundReal x (<- precision.needWhole))
  | some "ceil" => roundOneWay true value precision
  | some "floor" => roundOneWay false value precision
  | _ => throw (.template .badArgument)

def absFilter : Render Entity := do
  match value.number? with
  | some (.inl n) => return .int n.natAbs
  | some (.inr x) => return .real x.magnitude
  | none => throw .wrongKind

/-! ## Sizes of files -/

def sizeWithUnit (x : Double) (base : Nat) : (fuel : Nat) -> (power : Nat) -> List String -> String
  | 0, _, _ => ""
  | _, _, [] => ""
  | fuel + 1, power, unit :: rest =>
    let limit := Double.ofInt (Nat.pow base power)
    if rest.isEmpty || Decimal.lessNumber (.inr x) (.inl (Nat.pow base power)) then
      let shown := Double.ofFloat ((Double.ofInt base).toFloat * x.toFloat / limit.toFloat)
      match Format.real ".1f" shown with
      | .ok digits => digits ++ " " ++ unit
      | .error _ => ""
    else sizeWithUnit x base fuel (power + 1) rest

def filesizeFilter : Render Entity := do
  let bound <- a.bind ["binary"]
  let x <- match value.text?, <- realOf? value with
    | _, some x => pure x
    | some _, none => throw .badValue
    | none, none => throw .wrongKind
  let powersOfTwo <- flag bound 0 false
  let base : Nat := if powersOfTwo then 1024 else 1000
  let units := if powersOfTwo then ["KiB", "MiB", "GiB", "TiB", "PiB", "EiB", "ZiB", "YiB"]
    else ["kB", "MB", "GB", "TB", "PB", "EB", "ZB", "YB"]
  if Decimal.sameNumber (.inr x) (.inl 1) then return .text "1 Byte"
  else if Decimal.lessNumber (.inr x) (.inl base) then
    return .text (toString (<- Entity.truncate (.inr x)) ++ " Bytes")
  else return .text (sizeWithUnit x base 9 2 units)

/-!
## Filters on items

Items are ordered, grouped, joined, added up and picked.
-/

variable (e : Engine)

def reversal : Render Bool := do
  return (<- value.needWhole) ≠ 0

/-! ## Order -/

def orderParts (written : Entity) : Render (List (List Entity)) := do
  match written.text? with
  | some s => (Text.split "," s).mapM fun part => memberParts (.text part)
  | none => return [<- memberParts written]

def sortFilter (value : Entity) (a : Arguments Entity) : Render Entity := do
  let bound <- a.bind ["reverse", "case_sensitive", "attribute"]
  let sensitive <- flag bound 1 false
  let parts <- orderParts (argument bound 2 .null)
  let found <- items e value
  let reverse <- reversal (argument bound 0 (.bool false))
  let keyed <- found.mapM fun item => do
    return (Entity.tuple (<- parts.mapM fun parts => itemKey e parts .null sensitive item), item)
  newList (<- sortedBy keyed reverse)

def dictsortFilter (a : Arguments Entity) : Render Entity := do
  let bound <- a.bind ["case_sensitive", "by", "reverse"]
  let sensitive <- flag bound 0 false
  let byKey <- equal (argument bound 1 (.text "key")) (.text "key")
  let byValue <- equal (argument bound 1 (.text "key")) (.text "value")
  if !byKey && !byValue then throw (.template .badArgument)
  if value.isUndefined then throw missing
  let some (.map pairs) <- cellOf? value | throw .noMember
  let reverse <- reversal (argument bound 2 (.bool false))
  let keyed := pairs.map fun (key, value) =>
    let sortKey := if byKey then key else value
    (if sensitive then sortKey else ignoringCase sortKey, Entity.tuple [key, value])
  newList (<- sortedBy keyed reverse)

def grouped (keyed : List (Entity × Entity)) : Render (List (Entity × List Entity)) := do
  let groups <- keyed.foldlM (fun groups (key, item) => do
    match groups with
    | (last, items) :: rest =>
      if <- equal last key then return (last, item :: items) :: rest
      else return (key, [item]) :: groups
    | [] => return [(key, [item])]) ([] : List (Entity × List Entity))
  return groups.reverse.map fun (key, items) => (key, items.reverse)

def groupbyFilter (value : Entity) (a : Arguments Entity) : Render Entity := do
  let bound <- a.bind ["attribute", "default", "case_sensitive"] 1
  let parts <- memberParts (argument bound 0 .null)
  let usual := argument bound 1 .null
  let sensitive <- flag bound 2 false
  let found <- items e value
  let keyed <- found.mapM fun item => do return (<- itemKey e parts usual sensitive item, item)
  let sorted <- sortedBy (keyed.map fun (key, item) => (key, .tuple [key, item])) false
  let pairs := sorted.filterMap fun
    | .tuple [key, item] => some (key, item)
    | _ => none
  let groups <- (<- grouped pairs).mapM fun (key, items) => do
    let key <- match sensitive, items with
      | false, first :: _ => memberBy e usual parts first
      | _, _ => pure key
    return Entity.group key (<- newList items)
  newList groups

def extremeFilter (greatest : Bool) (value : Entity) (a : Arguments Entity) :
    Render Entity := do
  let bound <- a.bind ["case_sensitive", "attribute"]
  match <- items e value with
  | [] => return .undefined
  | first :: rest =>
    let sensitive <- flag bound 0 false
    let parts <- memberParts (argument bound 1 .null)
    let key := itemKey e parts .null sensitive
    let best <- rest.foldlM (fun (best : Entity × Entity) item => do
      let new <- key item
      let better <- if greatest then less best.1 new else less new best.1
      return if better then (new, item) else best) (<- key first, first)
    return best.2

/-! ## Picking -/

def backward? (value : Entity) : Render (Option (List Entity)) := do
  let turned : Render (Option (List Entity)) := do return some (<- items e value).reverse
  match value, <- cellOf? value with
  | .markup s, _ => return some (s.toList.reverse.map fun c => .markup (String.singleton c))
  | .undefined, _ | .text _, _ | .bytes _, _ | .tuple _, _ | .group _ _, _ | .range _ _ _, _
  | .view _ _, _ | _, some (.list _) | _, some (.map _) => turned
  | _, _ => return none

def reverseFilter (value : Entity) : Render Entity := do
  match value with
  | .text s => return .text (String.ofList s.toList.reverse)
  | .markup s => return .markup (String.ofList s.toList.reverse)
  | _ =>
    match <- backward? e value with
    | some items => newIteration (.rest items)
    | none =>
      if <- isIterable value then newList (<- items e value).reverse
      else throw (.template .badArgument)

def firstFilter (value : Entity) : Render Entity := do
  return (<- e.next (<- iterate value)).getD .undefined

def lastFilter (value : Entity) : Render Entity := do
  match <- backward? e value with
  | some (item :: _) => return item
  | some [] => return .undefined
  | none => throw .wrongKind

def randomFilter : Render Entity := do
  match value.length? (<- store) with
  | none => throw .wrongKind
  | some 0 => return .undefined
  | some _ =>
    match <- element? value (.int 0), value with
    | some item, _ => return item
    | none, .cell _ => throw (.noKey "0")
    | none, _ => throw .wrongKind

def lengthFilter (value : Entity) : Render Entity := do
  match value, <- cellOf? value, value.length? (<- store) with
  | .cell number, some (.loop _), _ => return .int (<- loopLength e number)
  | _, _, some n => return .int n
  | _, _, none => throw .wrongKind

/-! ## Putting together -/

def membersOf (value path : Entity) : Render (List Entity) := do
  if path.isNull then items e value
  else
    let parts <- memberParts path
    (<- items e value).mapM (memberBy e .null parts)

def joinFilter (context : Nat) (value : Entity) (a : Arguments Entity) :
    Render Entity := do
  let bound <- a.bind ["d", "attribute"]
  let separator := argument bound 0 (.text "")
  let found <- membersOf e value (argument bound 1 .null)
  let safe := (<- escapes context) && (isEscaped separator || found.any isEscaped)
  let shown := if safe then escaped else display
  return textOf safe (Text.join (<- shown separator) (<- found.mapM shown))

def sumFilter (value : Entity) (a : Arguments Entity) : Render Entity := do
  let bound <- a.bind ["attribute", "start"]
  let found <- membersOf e value (argument bound 0 .null)
  match argument bound 1 (.int 0) with
  | .text _ | .markup _ | .bytes _ => throw .wrongKind
  | start => found.foldlM (binary .add) start

def defaultFilter (a : Arguments Entity) : Render Entity := do
  let bound <- a.bind ["default_value", "boolean"]
  let usual := argument bound 0 (.text "")
  if value.isUndefined then return usual
  if (<- flag bound 1 false) && !(<- truthy value) then return usual
  return value

def attrFilter (value : Entity) (a : Arguments Entity) : Render Entity := do
  let bound <- a.bind ["name"] 1
  return (<- attribute? e value (<- display (argument bound 0 .null))).getD .undefined

/-! ## By name -/

def lazy (name : String) : String × Filter :=
  (name, fun _ context value a => newIteration (.waiting name value a context))

def lazyWith (name : String) (names : List String) (required : Nat) (usual : List Entity) : String × Filter :=
  (name, fun e context value a => do
    let bound <- a.bind names required
    let placed := usual.zipIdx.map fun (usual, place) => argument bound place usual
    (lazy name).2 e context value { placed })

def otherFilters : List (String × Filter) :=
  [("int", fun _ _ => intFilter), ("float", fun _ _ => floatFilter),
    ("round", fun _ _ => roundFilter), ("abs", plain fun _ => absFilter),
    ("filesizeformat", fun _ _ => filesizeFilter), ("sort", fun e _ => sortFilter e),
    ("dictsort", fun _ _ => dictsortFilter), ("groupby", fun e _ => groupbyFilter e),
    ("min", fun e _ => extremeFilter e false), ("max", fun e _ => extremeFilter e true),
    ("reverse", plain reverseFilter), ("first", plain firstFilter), ("last", plain lastFilter),
    ("random", plain fun _ => randomFilter), ("length", plain lengthFilter),
    ("count", plain lengthFilter), ("list", plain fun e value => do newList (<- items e value)),
    ("join", joinFilter), ("sum", fun e _ => sumFilter e), ("default", fun _ _ => defaultFilter),
    ("d", fun _ _ => defaultFilter), ("attr", fun e _ => attrFilter e), lazy "map", lazy "select",
    lazy "reject", lazy "selectattr", lazy "rejectattr", lazyWith "batch" ["linecount", "fill_with"] 1 [.null, .null],
    lazyWith "slice" ["slices", "fill_with"] 1 [.null, .null],
    lazyWith "unique" ["case_sensitive", "attribute"] 0 [.bool false, .null], lazyWith "items" [] 0 []]

def filters : List (String × Filter) :=
  textFilters ++ otherFilters

def filter (e : Engine) (context : Nat) (name : String) (value : Entity) (a : Arguments Entity) : Render Entity :=
  match filters.lookup name with
  | some result => result e context value a
  | none => throw (.template .misuse)

end Render

def Filter.names : List String :=
  Render.filters.map (·.1)

def Filter.needsContext (name : String) : Bool :=
  ["map", "random", "reject", "rejectattr", "select", "selectattr"].contains name

end Template
end Refinery
