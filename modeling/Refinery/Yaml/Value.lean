import Refinery.Text.Encoding
import Refinery.Yaml.Node

namespace Refinery.Yaml

open Text

/-!
# Values of YAML

What the nodes of a document stand for.
-/

open Decimal (Double)

inductive Value where
  | leaf (number : Nat) (doc : Doc)
  | list (number : Nat) (items : List Value)
  | tuple (items : List Value)
  | set (number : Nat) (items : List Value)
  | map (number : Nat) (pairs : List (Value × Value))

namespace Value

mutual

def doc : Value -> Doc
  | leaf _ d => d
  | list _ items => .list (docs items)
  | tuple items => .tuple (docs items)
  | set _ items => .set (docs items)
  | map _ pairs => .map (docPairs pairs)

def docs : List Value -> List Doc
  | [] => []
  | item :: rest => item.doc :: docs rest

def docPairs : List (Value × Value) -> List (Doc × Doc)
  | [] => []
  | (key, item) :: rest => (key.doc, item.doc) :: docPairs rest

end

def assign (key item : Value) : List (Value × Value) -> List (Value × Value)
  | [] => [(key, item)]
  | (k, old) :: rest =>
    if k.doc.same key.doc then (k, item) :: rest else (k, old) :: assign key item rest

def field? (pairs : List (Value × Value)) (name : String) : Option Value :=
  (pairs.find? fun (key, _) => key.doc.same (.text name)).map (·.2)

end Value

/-! ## Scalars -/

namespace Scalar

def signed (cs : List Char) : Except Failure (Bool × List Char) :=
  match cs with
  | [] => .error .noIndex
  | '-' :: rest => .ok (true, rest)
  | '+' :: rest => .ok (false, rest)
  | _ => .ok (false, cs)

def number {α : Type} (found : Option α) : Except Failure α :=
  found.getDM (throw .badValue)

def magnitude (cs : List Char) : Except Failure Int :=
  let read (base : Nat) (cs : List Char) := number (Decimal.readWhole? base (String.ofList cs))
  match cs with
  | [] => .error .noIndex
  | ['0'] => .ok 0
  | '0' :: 'b' :: rest => read 2 rest
  | '0' :: 'x' :: rest => read 16 rest
  | '0' :: _ => read 8 cs
  | _ => do
    let parts <- (split ":" (String.ofList cs)).mapM fun part => read 10 part.toList
    return parts.foldl (fun value part => 60 * value + part) 0

def whole (text : String) : Except Failure Int := do
  let (negative, cs) <- signed (text.toList.filter (· != '_'))
  let size <- magnitude cs
  return if negative then -size else size

def real (text : String) : Except Failure Double := do
  let (negative, cs) <- signed ((lower text).toList.filter (· != '_'))
  let read (cs : List Char) := number (Decimal.readReal? (String.ofList cs))
  let sign : Float := if negative then -1.0 else 1.0
  if cs == ".inf".toList then return .ofFloat (sign * (1.0 / 0.0))
  else if cs == ".nan".toList then return Double.notANumber
  else if cs.contains ':' then
    let parts <- (split ":" (String.ofList cs)).mapM fun part => read part.toList
    let (total, _) := parts.reverse.foldl (fun ((total, base) : Float × Float) part =>
      (total + part.toFloat * base, base * 60.0)) (0.0, 1.0)
    return .ofFloat (sign * total)
  else return .ofFloat (sign * (<- read cs).toFloat)

def time? (s : Plain.Stamp) : Option Doc := do
  guard (1 ≤ s.year && 1 ≤ s.month && s.month ≤ 12 && 1 ≤ s.day && s.day ≤ Calendar.daysInMonth s.year s.month)
  let date : Date := ⟨s.year, s.month, s.day⟩
  match s.clock with
  | none => return .date date
  | some (hour, minute, second, fraction) =>
    guard (hour < 24 && minute < 60 && second < 60 && s.zone.all fun zone => zone.natAbs < 1440)
    let micro := Decimal.digitsValue 0 ((fraction ++ ['0', '0', '0', '0', '0', '0']).take 6)
    return .moment ⟨date, hour, minute, second, micro, s.zone⟩

def bytes (text : String) : Except Failure Doc :=
  match text.toList.all (·.toNat < 128), Base64.decode? text with
  | true, some found => .ok (.bytes found)
  | _, _ => .error (.badYaml .values)

def value (kind text : String) : Except Failure Doc :=
  match kind with
  | "null" => .ok .null
  | "bool" =>
    match lower text with
    | "yes" | "true" | "on" => .ok (.bool true)
    | "no" | "false" | "off" => .ok (.bool false)
    | other => .error (.noKey (quoted other))
  | "int" => (whole text).map .int
  | "float" => (real text).map .real
  | "binary" => bytes text
  | "timestamp" =>
    match Plain.stamp? text with
    | some stamp => number (time? stamp)
    | none => .error .noMember
  | "str" => .ok (.text text)
  | _ => .error (.badYaml .values)

end Scalar

/-! ## Collections -/

namespace Node

def tag : Node -> String
  | scalar _ tag _ | sequence _ tag _ | mapping _ tag _ => tag

def foreignKinds : List (String × String) :=
  [("python/none", "null"), ("python/bool", "bool"), ("python/str", "str"),
    ("python/unicode", "str"), ("python/bytes", "binary"), ("python/int", "int"),
    ("python/long", "int"), ("python/float", "float"), ("python/list", "seq"), ("python/dict", "map"), ("python/tuple", "tuple")]

def kinds : List String :=
  words "null bool int float binary timestamp omap pairs set str seq map"

/-- The kind of value that a node stands for; with `wide`, also by tags of another notation. -/
def kind (wide : Bool) (node : Node) : Except Failure String :=
  let start := standardTag ""
  if startsWith node.tag start then
    let name := drop start.length node.tag
    match (if wide then foreignKinds.lookup name else none) with
    | some standard => .ok standard
    | none => if kinds.contains name then .ok name else .error (.badYaml .values)
  else .error (.badYaml .values)

def isContainer (kind : String) : Bool :=
  ["seq", "map", "set", "omap", "pairs"].contains kind

def scalarText : (fuel : Nat) -> Node -> Except Failure String
  | 0, _ => .error .tooDeep
  | _ + 1, scalar _ _ text => .ok text
  | fuel + 1, mapping _ _ pairs =>
    match pairs.find? fun pair => pair.1.tag = standardTag "value" with
    | some (_, item) => item.scalarText fuel
    | none => .error (.badYaml .values)
  | _ + 1, sequence _ _ _ => .error (.badYaml .values)

def single (fuel : Nat) (kind : String) (node : Node) : Except Failure Doc := do
  let text <- node.scalarText fuel
  match node, kind with
  | mapping _ _ _, "timestamp" => throw .wrongKind
  | _, _ => Scalar.value kind text

mutual

def merged : Node -> Except Failure (List (Node × Node))
  | mapping _ _ pairs => do
    let (inherited, own) <- mergedPairs pairs
    return inherited ++ own
  | _ => .error (.badYaml .values)

def mergedPairs : List (Node × Node) -> Except Failure (List (Node × Node) × List (Node × Node))
  | [] => .ok ([], [])
  | (key, item) :: rest => do
    if key.tag = standardTag "merge" then
      let found <- match item with
        | .sequence _ _ items => mergedItems items
        | other => merged other
      let (inherited, own) <- mergedPairs rest
      return (found ++ inherited, own)
    else
      let (inherited, own) <- mergedPairs rest
      let key := match key with
        | .scalar number tag value =>
          .scalar number (if tag = standardTag "value" then standardTag "str" else tag) value
        | other => other
      return (inherited, (key, item) :: own)

def mergedItems : List Node -> Except Failure (List (Node × Node))
  | [] => .ok []
  | item :: rest => do
    let first <- merged item
    return (<- mergedItems rest) ++ first

end

def entries : Node -> Except Failure (List Node)
  | sequence _ _ items => .ok items
  | _ => .error (.badYaml .values)

def onlyPair : Node -> Except Failure (Node × Node)
  | mapping _ _ [pair] => .ok pair
  | _ => .error (.badYaml .values)

/-!
Contents are made level by level: first all values of a collection, then the contents of the collections among
them.
-/

def outline (wide : Bool) : (fuel : Nat) -> Node -> Except Failure (List Node)
  | 0, _ => .error .tooDeep
  | fuel + 1, node => do
    let kind <- node.kind wide
    if isContainer kind then return [node]
    else if kind = "tuple" then
      return (<- (<- node.entries).mapM (outline wide fuel)).flatten
    else
      let _ <- node.single fuel kind
      return []

def hashable (wide : Bool) : (fuel : Nat) -> Node -> Option Bool
  | 0, _ => some false
  | fuel + 1, node =>
    match node.kind wide, node with
    | .ok "tuple", sequence _ _ items => some (items.all fun item => item.hashable wide fuel == some true)
    | .ok kind, _ => if isContainer kind then none else some true
    | .error _, _ => none

def contents (wide : Bool) (fuel : Nat) (node : Node) : Except Failure (List Node) := do
  match <- node.kind wide with
  | "seq" => return (<- (<- node.entries).mapM (outline wide fuel)).flatten
  | "omap" | "pairs" =>
    let found <- (<- node.entries).mapM fun entry => do
      let (key, item) <- entry.onlyPair
      return (<- outline wide fuel key) ++ (<- outline wide fuel item)
    return found.flatten
  | _ =>
    let found <- (<- node.merged).mapM fun (key, item) => do
      let keys <- outline wide fuel key
      match key.hashable wide fuel with
      | none => throw (.badYaml .values)
      | some true => return keys ++ (<- outline wide fuel item)
      | some false =>
        let _ <- outline wide fuel item
        throw .wrongKind
    return found.flatten

def check (wide : Bool) : (fuel : Nat) -> List Node -> Except Failure Unit
  | 0, _ => .ok ()
  | fuel + 1, nodes => do
    if nodes.isEmpty then return ()
    let inner <- nodes.mapM (contents wide fuel)
    check wide fuel inner.flatten

def value (wide : Bool) : (fuel : Nat) -> Node -> Except Failure Value
  | 0, _ => .error .tooDeep
  | fuel + 1, node => do
    let number := match node with
      | scalar number _ _ | sequence number _ _ | mapping number _ _ => number
    let pairs : Except Failure (List (Value × Value)) := do
      (<- node.merged).foldlM (fun pairs (pair : Node × Node) => do
        return Value.assign (<- pair.1.value wide fuel) (<- pair.2.value wide fuel) pairs) []
    match <- node.kind wide with
    | "seq" => return .list number (<- (<- node.entries).mapM (value wide fuel))
    | "tuple" => return .tuple (<- (<- node.entries).mapM (value wide fuel))
    | "omap" | "pairs" =>
      let items <- (<- node.entries).mapM fun entry => do
        let (key, item) <- entry.onlyPair
        return Value.tuple [<- key.value wide fuel, <- item.value wide fuel]
      return .list number items
    | "map" => return .map number (<- pairs)
    | "set" => return .set number ((<- pairs).map (·.1))
    | kind => return .leaf number (<- node.single fuel kind)

end Node

/-- Read the value of a text, if it has a document.  With `wide`, tags of another notation are known
too. -/
def Value.parse (text : String) (wide : Bool := false) : Except Failure Value := do
  match <- Node.parse text with
  | some node =>
    let fuel := 2 * text.length + 10
    Node.check wide fuel (<- node.outline wide fuel)
    node.value wide fuel
  | none => return .leaf 0 .null

def parse (text : String) (wide : Bool := false) : Except Failure Doc := do
  return (<- Value.parse text wide).doc

end Refinery.Yaml
