import Refinery.Template.TextMethod

namespace Refinery.Template.Render

open Text

/-!
# Methods of other entities

What can be called on lists, maps, tuples, numbers and loops.
-/

open Decimal (Double)

/-! ## Lists -/

def placeAmong (items : List Entity) (a : Arguments Entity) : Render Entity := do
  let (value, bounds) <- a.leading 3
  let size : Int := items.length
  let place (n : Int) : Nat := (if n < 0 then max 0 (n + size) else n).toNat
  let start <- Entity.needWhole ((bounds[0]?).getD (.int 0))
  let stop <- Entity.needWhole ((bounds[1]?).getD (.int size))
  let first := place start
  let window := (items.take (place stop)).drop first
  let rec seek : (n : Nat) -> List Entity -> Render Entity
    | _, [] => throw .badValue
    | n, item :: rest => do if <- equal item value then return .int n else seek (n + 1) rest
  seek first window

def countAmong (items : List Entity) (value : Entity) : Render Entity := do
  return .int (<- items.filterM fun item => equal item value).length

def sortedBy (keyed : List (Entity × Entity)) (reverse : Bool) : Render (List Entity) := do
  let sort (items : List (Entity × Entity)) := Sorting.sort (fun a b => less a.1 b.1) items
  let sorted <- if reverse then (return (<- sort keyed.reverse).reverse) else sort keyed
  return sorted.map (·.2)

def takeOut (number : Nat) (items : Array Entity) (index : Int) : Render Entity := do
  let some place := Entity.position? items.size index | throw .noIndex
  setCell number (.list (items.toList.eraseIdx place).toArray)
  return (items[place]?).getD .undefined

variable (e : Engine)

def listMethod (context number : Nat) (items : Array Entity) (name : String)
    (a : Arguments Entity) : Render Entity := do
  let change (items : List Entity) : Render Entity := do
    setCell number (.list items.toArray)
    return .null
  match name with
  | "append" =>
    setCell number (.list (items.push (<- a.single)))
    return .null
  | "clear" => a.nothing; change []
  | "copy" => a.nothing; newList items.toList
  | "count" => countAmong items.toList (<- a.single)
  | "extend" =>
    change (items.toList ++ (<- Render.items e (<- a.single)))
  | "index" => placeAmong items.toList a
  | "insert" =>
    let [index, value] <- a.positional 2 2 | throw .wrongKind
    let index <- index.needSize
    let place := (if index < 0 then max 0 (index + items.size) else min index items.size).toNat
    change (items.toList.take place ++ value :: items.toList.drop place)
  | "pop" =>
    let index <- Entity.needWhole (((<- a.positional 0 1)[0]?).getD (.int (-1)))
    takeOut number items index
  | "remove" =>
    let .int place <- placeAmong items.toList { placed := [<- a.single] } | throw .badValue
    discard (takeOut number items place)
    return .null
  | "reverse" => a.nothing; change items.toList.reverse
  | "sort" =>
    if !a.placed.isEmpty then throw .wrongKind
    let bound <- a.bind ["key", "reverse"]
    let reverse <- (argument bound 1 (.bool false)).needWhole
    let keyed <- match argument bound 0 .null with
      | .null => pure (items.toList.map fun item => (item, item))
      | key => items.toList.mapM fun item => do
        return (<- e.call context key { placed := [item] }, item)
    change (<- sortedBy keyed (reverse ≠ 0))
  | _ => throw .noMember

/-! ## Maps -/

def pairsFrom (source : Entity) : Render (List (Entity × Entity)) := do
  if source.isUndefined then throw missing
  if let some (.map pairs) <- cellOf? source then return pairs
  (<- items e source).mapM fun item => do
    let [key, value] <- items e item | throw .badValue
    return (key, value)

def extended (pairs : List (Entity × Entity)) (a : Arguments Entity) :
    Render (List (Entity × Entity)) := do
  if 1 < a.placed.length then throw .wrongKind
  let more <- (a.placed.mapM (pairsFrom e))
  let named := a.named.map fun (name, value) => (Entity.text name, value)
  (more.flatten ++ named).foldlM (fun pairs (key, value) => assign key value pairs) pairs

def mapFromKeys (a : Arguments Entity) : Render Entity := do
  let (keys, value) <- a.leading 2
  mapOf ((<- items e keys).map fun key => (key, value.headD .null))

def mapMethod (number : Nat) (pairs : List (Entity × Entity)) (name : String)
    (a : Arguments Entity) : Render Entity := do
  let change (pairs : List (Entity × Entity)) (result : Entity) : Render Entity := do
    setCell number (.map pairs)
    return result
  match name with
  | "clear" => a.nothing; change [] .null
  | "copy" => a.nothing; newMap pairs
  | "fromkeys" => mapFromKeys e a
  | "get" =>
    let (key, rest) <- a.leading 2
    return (<- lookup key pairs).getD (rest.headD .null)
  | "items" => a.nothing; return .view .items number
  | "keys" => a.nothing; return .view .keys number
  | "values" => a.nothing; return .view .values number
  | "pop" =>
    let (key, rest) <- a.leading 2
    match <- Entity.remove (<- store) key pairs, rest with
    | some (value, pairs), _ => change pairs value
    | none, value :: _ => return value
    | none, [] => throw (.noKey (<- quoted key))
  | "popitem" =>
    a.nothing
    match pairs.getLast? with
    | some (key, value) => change pairs.dropLast (.tuple [key, value])
    | none => throw (.noKey "'popitem(): dictionary is empty'")
  | "setdefault" =>
    let (key, rest) <- a.leading 2
    match <- lookup key pairs with
    | some value => return value
    | none => change (pairs ++ [(key, rest.headD .null)]) (rest.headD .null)
  | "update" => change (<- extended e pairs a) .null
  | _ => throw .noMember

/-! ## Tuples, ranges and numbers -/

def tupleMethod (items : List Entity) (name : String) (a : Arguments Entity) : Render Entity := do
  match name with
  | "count" => countAmong items (<- a.single)
  | "index" => placeAmong items a
  | _ => throw .noMember

def rangeMethod (start stop step : Int) (name : String) (a : Arguments Entity) : Render Entity := do
  let items := (Entity.rangeItems start stop step).map Entity.int
  match name with
  | "count" => countAmong items (<- a.single)
  | "index" => placeAmong items { placed := [<- a.single] }
  | _ => throw .noMember

def bitLength (n : Nat) : Nat :=
  if n = 0 then 0 else n.log2 + 1

def wholeBytes (n : Int) (a : Arguments Entity) : Render Entity := do
  let isSigned := a.named.lookup "signed"
  let rest : Arguments Entity := { a with named := a.named.filter (·.1 != "signed") }
  let bound <- rest.bind ["length", "byteorder"]
  let length <- (argument bound 0 (.int 1)).needSize
  let order <- (argument bound 1 (.text "big")).needText
  if order != "little" && order != "big" then throw .badValue
  let signed <- truthy (isSigned.getD (.bool false))
  if length < 0 then throw .badValue
  if n < 0 && !signed then throw .tooLarge
  let length := length.toNat
  let range := Int.pow 2 (8 * length)
  let fits := if signed then -range ≤ 2 * n && 2 * n < range else n < range
  if !fits && !(n = 0) then throw .tooLarge
  return .bytes ⟨(Encoding.bytesOf (order = "big") length
    (Int.emod n range).toNat).toArray⟩

def wholeMethod (n : Int) (name : String) (a : Arguments Entity) : Render Entity := do
  match name with
  | "as_integer_ratio" => a.nothing; return .tuple [.int n, .int 1]
  | "bit_length" => a.nothing; return .int (bitLength n.natAbs)
  | "bit_count" => a.nothing; return .int ((Nat.toDigits 2 n.natAbs).filter (· == '1')).length
  | "conjugate" => a.nothing; return .int n
  | "to_bytes" => wholeBytes n a
  | _ => throw .noMember

def realHex (x : Double) : String :=
  let bits : Nat := x.magnitude.bits.toNat
  let mantissa := bits % Nat.pow 2 52
  let exponent : Nat := bits / Nat.pow 2 52
  let sign := if x.isNegative then "-" else ""
  if x.isNaN then "nan"
  else if x.isInf then sign ++ "inf"
  else if x.isZero then sign ++ "0x0.0p+0"
  else
    let power : Int := if exponent = 0 then -1022 else (exponent : Int) - 1023
    let digits := padLeft '0' 13 (String.ofList (Nat.toDigits 16 mantissa))
    sign ++ "0x" ++ (if exponent = 0 then "0." else "1.") ++ digits ++ "p" ++
      (if power < 0 then "-" else "+") ++ toString power.natAbs

def realMethod (x : Double) (name : String) (a : Arguments Entity) : Render Entity := do
  match name with
  | "as_integer_ratio" =>
    a.nothing
    if x.isNaN then throw .badValue
    if x.isInf then throw .tooLarge
    let (numerator, denominator) := x.lowestRatio
    return .tuple [.int numerator, .int denominator]
  | "conjugate" => a.nothing; return .real x
  | "hex" => a.nothing; return .text (realHex x)
  | "is_integer" => a.nothing; return .bool (x.isFinite && x.isWhole)
  | _ => throw .noMember

/-! ## Others -/

def bytesMethod (b : ByteArray) (name : String) (a : Arguments Entity) : Render Entity := do
  match name with
  | "decode" =>
    let bound <- a.bind ["encoding", "errors"]
    let some encoding := Encoding.ofName? (<- (argument bound 0 (.text "utf-8")).needText)
      | throw .unknownEncoding
    let some s := encoding.decode? b | throw .undecodable
    return .text s
  | "hex" => a.nothing; return .text (hexOfBytes b)
  | _ => throw .noMember

def pathMethod (p : Path) (name : String) (a : Arguments Entity) : Render Entity := do
  match name with
  | "as_posix" => a.nothing; return .text p.toString
  | "is_absolute" => a.nothing; return .bool p.isAbsolute
  | "joinpath" =>
    let texts <- a.placed.mapM fun part => part.needText
    return .path (texts.foldl (fun p part => p / Path.ofString part) p)
  | _ => throw .unsupported

def loopMethod (number : Nat) (state : Loop) (name : String) (a : Arguments Entity) :
    Render Entity := do
  if !a.named.isEmpty then throw .wrongKind
  match name with
  | "cycle" =>
    if a.placed.isEmpty then throw .wrongKind
    return (a.placed[(state.taken - 1) % a.placed.length]?).getD .undefined
  | _ =>
    let same <- match state.changed with
      | some before => equal (.tuple before) (.tuple a.placed)
      | none => pure false
    if !same then setCell number (.loop { state with changed := some a.placed })
    return .bool !same

def callMethod (context : Nat) (target : Entity) (name : String)
    (a : Arguments Entity) : Render Entity := do
  match target with
  | .text s => textMethod e false s name a
  | .markup s => textMethod e true s name a
  | .bytes b => bytesMethod b name a
  | .range start stop step => rangeMethod start stop step name a
  | .path p => pathMethod p name a
  | .atom doc => a.nothing; return .text (replaceFirst " " "T" 1 doc.display)
  | .kind _ => mapFromKeys e a
  | .cell number =>
    match <- cell? number with
    | some (.list items) => listMethod e context number items name a
    | some (.map pairs) => mapMethod e number pairs name a
    | some (.cycler items place) =>
      a.nothing
      let reset := name == "reset"
      setCell number (.cycler items (if reset then 0 else (place + 1) % items.length))
      return if reset then .null else (items[place]?).getD .undefined
    | some (.loop state) => loopMethod number state name a
    | _ => throw .wrongKind
  | _ =>
    match target.tuple?, target.number? with
    | some items, _ => tupleMethod items name a
    | none, some (.inl n) => wholeMethod n name a
    | none, some (.inr x) => realMethod x name a
    | none, none => throw .wrongKind

end Refinery.Template.Render
