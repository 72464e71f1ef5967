import Refinery.Yaml.Token

namespace Refinery.Yaml

/-!
# Nodes of YAML

A document is a tree of nodes with tags.
-/

inductive Node where
  | scalar (number : Nat) (tag value : String)
  | sequence (number : Nat) (tag : String) (items : List Node)
  | mapping (number : Nat) (tag : String) (pairs : List (Node × Node))

def standardTag (name : String) : String :=
  "tag:yaml.org,2002:" ++ name

/-! ## Kinds of plain scalars -/

namespace Plain

def unsigned (cs : List Char) : List Char :=
  match cs with
  | '+' :: rest | '-' :: rest => rest
  | _ => cs

def isDigitOrBar (c : Char) : Bool :=
  c.isDigit || c == '_'

def isTruth (s : String) : Bool :=
  ["yes", "Yes", "YES", "no", "No", "NO", "true", "True", "TRUE", "false", "False", "FALSE", "on",
    "On", "ON", "off", "Off", "OFF"].contains s

def isNull (s : String) : Bool :=
  ["~", "null", "Null", "NULL", ""].contains s

def isSixtieth (part : String) : Bool :=
  let cs := part.toList
  match cs with
  | [c] => c.isDigit
  | [c, d] => '0' ≤ c && c ≤ '5' && d.isDigit
  | _ => false

def isWhole (s : String) : Bool :=
  let cs := unsigned s.toList
  match cs with
  | '0' :: 'b' :: rest => !rest.isEmpty && rest.all fun c => c == '0' || c == '1' || c == '_'
  | '0' :: 'x' :: rest =>
    !rest.isEmpty && rest.all fun c => (Json.hexDigit? c).isSome || c == '_'
  | ['0'] => true
  | '0' :: rest => rest.all fun c => ('0' ≤ c && c ≤ '7') || c == '_'
  | c :: _ =>
    c.isDigit && match Text.split ":" (String.ofList cs) with
      | first :: parts => first.toList.all isDigitOrBar && parts.all isSixtieth
      | [] => false
  | [] => false

def isExponent (cs : List Char) : Bool :=
  match cs with
  | [] => true
  | e :: sign :: rest =>
    (e == 'e' || e == 'E') && (sign == '+' || sign == '-') && !rest.isEmpty && rest.all Char.isDigit
  | _ => false

def isReal (s : String) : Bool :=
  let cs := s.toList
  let body := unsigned cs
  let whole := body.takeWhile fun c => isDigitOrBar c || c == ':'
  let after := body.drop whole.length
  match body with
  | '.' :: rest =>
    ["inf", "Inf", "INF"].contains (String.ofList rest) || (cs.head? == some '.' &&
        (["nan", "NaN", "NAN"].contains (String.ofList rest) ||
          (((rest.head?.map Char.isDigit).getD false) && isExponent (rest.dropWhile isDigitOrBar))))
  | c :: _ =>
    c.isDigit && match after with
      | '.' :: rest =>
        let tail := rest.dropWhile isDigitOrBar
        match Text.split ":" (String.ofList whole) with
        | [_] => isExponent tail
        | first :: parts => first.toList.all isDigitOrBar && parts.all isSixtieth && tail.isEmpty
        | [] => false
      | _ => false
  | [] => false

structure Stamp where
  year : Nat
  month : Nat
  day : Nat
  clock : Option (Nat × Nat × Nat × List Char) := none
  zone : Option Int := none

def digits? (least most : Nat) (cs : List Char) : Option (Nat × List Char) :=
  let found := (cs.take most).takeWhile Char.isDigit
  if found.length < least then none
  else some (Decimal.digitsValue 0 found, cs.drop found.length)

def mark? (c : Char) : List Char -> Option (List Char)
  | d :: rest => if c = d then some rest else none
  | [] => none

def zone? (cs : List Char) : Option (Option Int) :=
  match cs.dropWhile fun c => c == ' ' || c == '\t' with
  | [] => if cs.isEmpty then some none else none
  | ['Z'] => some (some 0)
  | sign :: rest =>
    if sign == '+' || sign == '-' then do
      let (hours, rest) <- digits? 1 2 rest
      let (minutes, rest) <- if rest.isEmpty then some (0, []) else digits? 2 2 (<- mark? ':' rest)
      guard rest.isEmpty
      let distance : Int := hours * 60 + minutes
      return some (if sign == '-' then -distance else distance)
    else none

def stamp? (s : String) : Option Stamp := do
  let (year, cs) <- digits? 4 4 s.toList
  let cs <- mark? '-' cs
  let (month, cs) <- digits? 1 2 cs
  let cs <- mark? '-' cs
  let (day, rest) <- digits? 1 2 cs
  match rest with
  | [] =>
    guard (s.length = 10)
    return { year, month, day }
  | c :: _ =>
    let rest <-
      if c == 'T' || c == 't' then some (rest.drop 1)
      else if c == ' ' || c == '\t' then some (rest.dropWhile fun c => c == ' ' || c == '\t')
      else none
    let (hour, cs) <- digits? 1 2 rest
    let cs <- mark? ':' cs
    let (minute, cs) <- digits? 2 2 cs
    let cs <- mark? ':' cs
    let (second, cs) <- digits? 2 2 cs
    let (fraction, cs) := match cs with
      | '.' :: rest => (rest.takeWhile Char.isDigit, rest.dropWhile Char.isDigit)
      | _ => ([], cs)
    let zone <- zone? cs
    return { year, month, day, clock := some (hour, minute, second, fraction), zone }

def tag (s : String) : String :=
  standardTag <| if isNull s then "null"
    else if isTruth s then "bool"
    else if isReal s then "float"
    else if isWhole s then "int"
    else if s = "<<" then "merge"
    else if (stamp? s).isSome then "timestamp"
    else if s = "=" then "value"
    else "str"

end Plain

/-! ## Reading nodes -/

structure Context where
  reader : Reader
  handles : List (String × String) := []
  anchors : List (String × Option Node) := []
  count : Nat := 0

abbrev Compose := StateT Context (Except Failure)

namespace Compose

def refuse {α : Type} : Compose α :=
  throw (.badYaml .shape)

def withReader {α : Type} (read : Read α) : Compose α := do
  let c <- get
  let (value, reader) <- read.run c.reader
  set { c with reader }
  return value

def look : Compose Token :=
  withReader Read.look

def skip : Compose Unit := do
  let _ <- withReader Read.take

def fresh : Compose Nat := do
  let c <- get
  set { c with count := c.count + 1 }
  return c.count

def emptyNode : Compose Node := do
  return .scalar (<- fresh) (standardTag "null") ""

abbrev WrittenTag := Option String × String

def properties : Compose (Option String × Option WrittenTag) := do
  let anchor? : Compose (Option String) := do
    let .anchor name <- look | return none
    skip
    return some name
  let first <- anchor?
  let .tag handle suffix <- look | return (first, none)
  skip
  let anchor <- if first.isSome then pure first else anchor?
  return (anchor, some (handle, suffix))

def fullTag : Option WrittenTag -> Compose (Option String)
  | none => pure none
  | some (none, suffix) => pure (some suffix)
  | some (some handle, suffix) => do
    let some start := (<- get).handles.lookup handle | refuse
    return some (start ++ suffix)

def collectionTag (tag : Option String) (usual : String) : String :=
  (tag.filter (· ≠ "!")).getD (standardTag usual)

def bindAnchor (anchor : Option String) (node : Option Node) : Compose Unit :=
  modify fun c => { c with anchors := (anchor.map (·, node)).toList ++ c.anchors }

def nodeOr (stops : List Token) (read : Compose Node) : Compose Node := do
  if stops.contains (<- look) then emptyNode else read

def valueOr (stops : List Token) (read : Compose Node) : Compose Node := do
  if (<- look) != .value then return <- emptyNode
  skip
  nodeOr stops read

def flowEntry : Node × Option Node -> Compose Node
  | (key, some value) => return .mapping (<- fresh) (standardTag "map") [(key, value)]
  | (entry, none) => return entry

def flowPair : Node × Option Node -> Compose (Node × Node)
  | (key, some value) => return (key, value)
  | (key, none) => return (key, <- emptyNode)

mutual

def node (block unindented : Bool) : (fuel : Nat) -> Compose Node
  | 0 => throw .tooDeep
  | fuel + 1 => do
    match <- look with
    | .reference name =>
      skip
      match (<- get).anchors.lookup name with
      | some (some node) => return node
      | some none => throw .tooDeep
      | none => throw (.badYaml .references)
    | _ =>
      let (anchor, written) <- properties
      let tag <- fullTag written
      let token <- look
      let known := (<- get).anchors
      if anchor.any fun name => (known.lookup name).isSome then throw (.badYaml .references)
      let collection {α : Type} (make : Nat -> α -> Node) (entries : Compose α) : Compose Node := do
        let number <- fresh
        bindAnchor anchor none
        let found := make number (<- entries)
        bindAnchor anchor (some found)
        return found
      let sequence := collection (Node.sequence · (collectionTag tag "seq"))
      let mapping := collection (Node.mapping · (collectionTag tag "map"))
      let scalar (value : String) (plain : Bool) : Compose Node := do
        let kind := match tag with
          | none => if plain then Plain.tag value else standardTag "str"
          | some tag => if tag = "!" then Plain.tag value else tag
        let found := Node.scalar (<- fresh) kind value
        bindAnchor anchor (some found)
        return found
      match token, block, unindented with
      | .blockEntry, _, true => sequence (blockEntries false fuel)
      | .scalar value plain, _, _ =>
        skip
        scalar value plain
      | .flowSequenceStart, _, _ => sequence do
        skip
        (<- flowParts .flowSequenceEnd true fuel).mapM flowEntry
      | .flowMappingStart, _, _ => mapping do
        skip
        (<- flowParts .flowMappingEnd true fuel).mapM flowPair
      | .blockSequenceStart, true, _ => sequence (do skip; blockEntries true fuel)
      | .blockMappingStart, true, _ => mapping (do skip; blockPairs fuel)
      | _, _, _ => if anchor.isSome || tag.isSome then scalar "" true else refuse

def blockEntries (indented : Bool) : (fuel : Nat) -> Compose (List Node)
  | 0 => throw .tooDeep
  | fuel + 1 => do
    match <- look, indented with
    | .blockEntry, _ =>
      skip
      let entry <- nodeOr (.blockEntry :: .blockEnd :: if indented then [] else [.key, .value])
        (node true false fuel)
      return entry :: (<- blockEntries indented fuel)
    | .blockEnd, true =>
      skip
      return []
    | _, true => refuse
    | _, false => return []

def blockPairs : (fuel : Nat) -> Compose (List (Node × Node))
  | 0 => throw .tooDeep
  | fuel + 1 => do
    match <- look with
    | .key =>
      skip
      let key <- nodeOr [.key, .value, .blockEnd] (node true true fuel)
      let value <- valueOr [.key, .value, .blockEnd] (node true true fuel)
      return (key, value) :: (<- blockPairs fuel)
    | .blockEnd =>
      skip
      return []
    | _ => refuse

def flowParts (ending : Token) (first : Bool) : (fuel : Nat) -> Compose (List (Node × Option Node))
  | 0 => throw .tooDeep
  | fuel + 1 => do
    if !first && (<- look) != ending then
      if (<- look) != .flowEntry then refuse
      skip
    let token <- look
    if token == ending then
      skip
      return []
    let part <-
      if token == .key then do
        skip
        let key <- nodeOr [.value, .flowEntry, ending] (node false false fuel)
        pure (key, some (<- valueOr [.flowEntry, ending] (node false false fuel)))
      else pure (<- node false false fuel, none)
    return part :: (<- flowParts ending false fuel)

end

def directives : (fuel : Nat) -> (version : Bool) -> (handles : List (String × String)) -> Compose Unit
  | 0, _, _ => throw .tooDeep
  | fuel + 1, version, handles => do
    match <- look with
    | .directive name values =>
      skip
      match name, values with
      | "YAML", major :: _ =>
        if version || Decimal.digitsValue 0 major.toList ≠ 1 then refuse
        directives fuel true handles
      | "TAG", [handle, start] =>
        if (handles.lookup handle).isSome then refuse
        directives fuel version (handles ++ [(handle, start)])
      | _, _ => directives fuel version handles
    | _ => modify fun c => { c with
        handles := handles ++ [("!", "!"), ("!!", "tag:yaml.org,2002:")], anchors := [] }

def skipEnds : (fuel : Nat) -> Compose Unit
  | 0 => pure ()
  | fuel + 1 => do
    if (<- look) == .documentEnd then
      skip
      skipEnds fuel

def atEnd (fuel : Nat) : Compose Bool := do
  skipEnds fuel
  if (<- look) == .streamEnd then return true
  directives fuel false []
  if (<- look) != .documentStart then refuse
  return false

def single (fuel : Nat) : Compose (Option Node) := do
  let found <- match <- look with
    | .streamEnd => return none
    | .directive _ _ | .documentStart => do
      directives fuel false []
      if (<- look) != .documentStart then refuse
      skip
      if let .directive _ _ <- look then emptyNode
      else nodeOr [.documentStart, .documentEnd, .streamEnd] (node true false fuel)
    | _ => do
      directives fuel false []
      node true false fuel
  if (<- look) == .documentEnd then skip
  if !(<- atEnd fuel) then throw (.badYaml .references)
  return some found

end Compose

def Node.parse (text : String) : Except Failure (Option Node) := do
  let cs := text.toList
  if !cs.all isReadable then throw (.badYaml .characters)
  let (found, _) <- (Compose.single (2 * cs.length + 10)).run { reader := { rest := cs } }
  return found

end Refinery.Yaml
