import Refinery.Json

namespace Refinery.Xml

/-!
# Characters of names

Names are made of the letters, digits, marks and extenders that the second edition of Unicode had.
-/

def nameStartFlips : Text.Flip :=
  .ofText "1NaEBBa1RXBfB1GCLCIB1BB1QJkDCEe1E1lSH3oBBDBBBUBsBHDBBBBBBBBSNMB1OBMBkO1BCCCCDcCICC1DmCBHm
    1VbFDuaGKm1TCFBPBEBBPC10W1BDBaKjICCCWBHBBDEiCBDOCTGECCWBHBCBCBCfEBBTDQHBBBDBWBHBCBFDBiBkICCCWBHB
    CCEDBeCBDjGDDBEDCBBBCDCDDDIBD1XIBDBXBKBFmCjIBDBXBKBFkBBCjIBDBXBQmC3DuBBBCMG1HCBBCCBBCBGEBHBDBBBB
    CCBCBBBCJBCF2TIBh5ymKnJBBCBDBBBCBFpBBBBBLBBBBBDCDBFDBBBBBBBBDCDCBBoBJBCBCCHCBBBHoBEBIB59K3AE1mGW
    CGCmCGCIBBBBBBBfC1BBHBBDDBHDECGENFDBH5lBDCCB1dD71YBZJX1gM1mKo141v401y60q214s"

def nameFlips : Text.Flip :=
  .ofText "tCBK2VB10QCu1SaClB4rE5GRBXBDBBBCBB2TBKINKGB1xPCCBECK9zD1EBBQDENCCKRD1EBBHCCCDJBKCCKSB1FBB
    FECCDYMPD1EBBIBDBDYKRD1EBBGDCCDICOKSC1GFDDBEJBPJRD1GHBDBEHCPKSC1GHBDBEHCPKSC1GGCDBEJBOK3lBCHLJBK
    1jBCGBCJBBGCK1KCGKLBBBBBECxUBGEGBBBVDHBB84GNEB74bBkGBF1vCCC1pD"

def isNameStart (c : Char) : Bool :=
  nameStartFlips.contains c.toNat

def isNameChar (c : Char) : Bool :=
  isNameStart c || nameFlips.contains c.toNat

def isSpace (c : Char) : Bool :=
  c == ' ' || c == '\t' || c == '\n' || c == '\r'

def isAllowed (c : Char) : Bool :=
  (c.toNat ≥ 32 || isSpace c) && c.toNat ≠ 0xFFFE && c.toNat ≠ 0xFFFF

def isQuote (c : Char) : Bool :=
  c == '\"' || c == '\''

def past? (c : Char) (cs : List Char) : Option (List Char) := do
  let first :: rest := cs.dropWhile isSpace | none
  guard (first == c)
  return rest

def nameAt? (cs : List Char) : Option (String × List Char) := do
  guard (cs.head?.any isNameStart)
  return (String.ofList (cs.takeWhile isNameChar), cs.dropWhile isNameChar)

def qualifiedNameAt? (cs : List Char) : Option (String × List Char) := do
  let (first, rest) <- nameAt? cs
  match rest with
  | ':' :: rest =>
    let (second, rest) <- nameAt? rest
    return (first ++ ":" ++ second, rest)
  | _ => return (first, rest)

def until? (ending : List Char) : List Char -> Option (List Char × List Char)
  | [] => none
  | c :: rest =>
    if ending.isPrefixOf (c :: rest) then some ([], (c :: rest).drop ending.length)
    else (until? ending rest).map fun (inner, after) => (c :: inner, after)

/-!
## Document types

A document type declares entities, which stand for texts, and attributes with default values.
-/

structure Entity where
  text : Option (List Char) := none
  foreign : Bool := false

structure Declarations where
  standalone : Bool := false
  incomplete : Bool := false
  closed : Bool := false
  entities : List (String × Entity) := []
  defaults : List (String × String × String) := []

namespace Declarations

def strict (d : Declarations) : Bool :=
  !d.incomplete || d.standalone

end Declarations

/-! ## References -/

def number? (base : Nat) (digits : List Char) : Option Nat := do
  guard (!digits.isEmpty)
  digits.foldlM (fun n c => do
    let value <- Json.hexDigit? c
    guard (value < base)
    return n * base + value) 0

inductive Reference where
  | char (c : Char)
  | entity (name : String)

def usualEntities : List (String × Char) :=
  [("lt", '<'), ("gt", '>'), ("amp", '&'), ("quot", '\"'), ("apos", '\'')]

def referenceAt? (cs : List Char) : Option (Reference × List Char) :=
  match cs with
  | '#' :: rest => do
    let (digits, rest) <- until? [';'] rest
    let code <- match digits with
      | 'x' :: digits => number? 16 digits
      | digits => number? 10 digits
    guard (code.isValidChar && isAllowed (Char.ofNat code))
    return (.char (Char.ofNat code), rest)
  | _ => do
    let (name, rest) <- nameAt? cs
    let ';' :: rest := rest | none
    return (((usualEntities.lookup name).map .char).getD (.entity name), rest)

/-- The text of an attribute with its references replaced.  `entity` gives the text of an entity. -/
def attributeWith? (entity : String -> Option (List Char)) : (fuel : Nat) -> List Char -> Option (List Char)
  | _, [] => some []
  | 0, _ => none
  | _ + 1, '<' :: _ => none
  | fuel + 1, '&' :: rest => do
    let (reference, rest) <- referenceAt? rest
    let first <- match reference with
      | .char c => some [c]
      | .entity name => entity name
    return first ++ (<- attributeWith? entity fuel rest)
  | fuel + 1, c :: rest => do return c :: (<- attributeWith? entity fuel rest)

def entityText? (d : Declarations) : (depth : Nat) -> (opened : List String) -> String -> Option (List Char)
  | 0, _, _ => none
  | depth + 1, opened, name =>
    match d.entities.lookup name with
    | none => if d.strict then none else some []
    | some entity =>
      if opened.contains name || entity.foreign then none
      else do
        let text <- entity.text
        attributeWith? (entityText? d depth (name :: opened)) text.length text

variable (d : Declarations)

def attributeText? (value : List Char) : Option String :=
  (attributeWith? (entityText? d (d.entities.length + 1) []) value.length value).map String.ofList

def entityValue? : (fuel : Nat) -> List Char -> Option (List Char)
  | _, [] => some []
  | 0, _ => none
  | _ + 1, '%' :: _ => none
  | fuel + 1, '&' :: rest => do
    let (reference, after) <- referenceAt? rest
    let first := match reference, rest with
      | .char c, '#' :: _ => [c]
      | _, _ => '&' :: rest.take (rest.length - after.length)
    return first ++ (<- entityValue? fuel after)
  | fuel + 1, c :: rest => do return c :: (<- entityValue? fuel rest)

/-! ## Declarations -/

inductive Item where
  | name (text : String)
  | qualified (text : String)
  | token (text : String)
  | counted (text : String)
  | literal (text : List Char)
  | pound (text : String)
  | percent
  | comma
  | bar
  | opening
  | closing
  | closingCounted (sign : Char)
  deriving DecidableEq

def nextIn (cs : List Char) (allowed : String) : Bool :=
  cs.head?.any fun c => isSpace c || allowed.contains c

def isCount (c : Char) : Bool :=
  "+*?".contains c

def ending (found : Item × List Char) (allowed : String) : Option (Item × List Char) := do
  guard (nextIn found.2 allowed)
  return found

def wordAt? (cs : List Char) : Option (Item × List Char) := do
  let word := cs.takeWhile fun c => isNameChar c || c == ':'
  guard (!word.isEmpty)
  let rest := cs.drop word.length
  let text := String.ofList word
  let item : Item :=
    match Text.split ":" text with
    | [_] => if word.head?.any isNameStart then .name text else .token text
    | [_, second] =>
      if word.head?.any isNameStart && second ≠ "" then .qualified text else .token text
    | _ => .token text
  if !isCount (rest.headD ' ') then ending (item, rest) ">),|[%"
  else if item = .token text then none
  else some (.counted text, rest.drop 1)

def itemAt? (cs : List Char) : Option (Item × List Char) := do
  match cs with
  | [] => none
  | ',' :: rest => return (.comma, rest)
  | '|' :: rest => return (.bar, rest)
  | '(' :: rest => return (.opening, rest)
  | '%' :: rest => ending (.percent, rest) "%"
  | '#' :: rest =>
    let (name, rest) <- nameAt? rest
    ending (.pound name, rest) ")>%|"
  | ')' :: rest =>
    let sign := rest.headD ' '
    if isCount sign then return (.closingCounted sign, rest.drop 1)
    ending (.closing, rest) ">,|)"
  | c :: rest =>
    if !isQuote c then wordAt? cs
    else
      let (inner, rest) <- until? [c] rest
      ending (.literal inner, rest) ">%["

/-- The words and signs up to the end of a declaration, and the rest; with `bracket`, an opening square
bracket ends them too. -/
def itemsAt? (bracket : Bool) : (fuel : Nat) -> List Char -> Option (List Item × List Char)
  | 0, _ => none
  | fuel + 1, cs =>
    match cs.dropWhile isSpace with
    | '>' :: rest => some ([], rest)
    | '[' :: rest => if bracket then some ([], '[' :: rest) else none
    | inner => do
      let (item, rest) <- itemAt? inner
      let (more, rest) <- itemsAt? bracket fuel rest
      return (item :: more, rest)

def isPublic (text : List Char) : Bool :=
  text.all fun c => c.isAlphanum || " \r\n-'()+,./:=?;!*#@$_%".toList.contains c

def outside? : List Item -> Option (List Item)
  | .name "SYSTEM" :: .literal _ :: rest => some rest
  | .name "PUBLIC" :: .literal known :: .literal _ :: rest =>
    if isPublic known then some rest else none
  | _ => none

def declare (name : String) (entity : Entity) : Declarations :=
  if d.closed || (d.entities.lookup name).isSome then d
  else { d with entities := d.entities ++ [(name, entity)] }

def entityDeclaration? : List Item -> Option Declarations
  | .percent :: .name _ :: [.literal value] =>
    if d.closed then some d else (entityValue? (value.length + 1) value).map fun _ => d
  | .percent :: .name _ :: rest => do
    guard ((<- outside? rest) == [])
    return d
  | .name name :: [.literal value] =>
    if d.closed then some d
    else (entityValue? (value.length + 1) value).map fun text => declare d name { text := some text }
  | .name name :: rest => do
    match <- outside? rest with
    | [] => return declare d name {}
    | [.name "NDATA", .name _] => return declare d name { foreign := true }
    | _ => none
  | _ => none

def formatDeclaration? : List Item -> Option Unit
  | [.name _, .name "SYSTEM", .literal _] => some ()
  | [.name _, .name "PUBLIC", .literal known] => guard (isPublic known)
  | [.name _, .name "PUBLIC", .literal known, .literal _] => guard (isPublic known)
  | _ => none

def nameOf? : Item -> Option String
  | .name text | .qualified text => some text
  | _ => none

def enumeration? (accepted : Item -> Bool) : List Item -> Option (List Item)
  | item :: .closing :: rest => if accepted item then some rest else none
  | item :: .bar :: rest => if accepted item then enumeration? accepted rest else none
  | _ => none

def isValueWord : Item -> Bool
  | .name _ | .qualified _ | .token _ => true
  | _ => false

def isPlainName : Item -> Bool
  | .name _ => true
  | _ => false

def attributeType? : List Item -> Option (List Item)
  | .opening :: rest => enumeration? isValueWord rest
  | .name "NOTATION" :: .opening :: rest => enumeration? isPlainName rest
  | .name word :: rest =>
    if ["CDATA", "ID", "IDREF", "IDREFS", "ENTITY", "ENTITIES", "NMTOKEN", "NMTOKENS"].contains word
    then some rest else none
  | _ => none

def addDefault (element feature : String) (value : List Char) : Option Declarations :=
  if d.closed then some d
  else do
    let text <- attributeText? d value
    if d.defaults.any fun (e, a, _) => e = element && a = feature then return d
    return { d with defaults := d.defaults ++ [(element, feature, text)] }

def attributeDeclarations? (element : String) : (fuel : Nat) -> Declarations -> List Item -> Option Declarations
  | _, d, [] => some d
  | 0, _, _ => none
  | fuel + 1, d, item :: rest => do
    let feature <- nameOf? item
    match <- attributeType? rest with
    | .pound "IMPLIED" :: rest | .pound "REQUIRED" :: rest =>
      attributeDeclarations? element fuel d rest
    | .pound "FIXED" :: .literal value :: rest | .literal value :: rest =>
      attributeDeclarations? element fuel (<- addDefault d element feature value) rest
    | _ => none

def mixed : List Item -> Bool
  | [.closing] | [.closingCounted '*'] => true
  | .bar :: rest => mixedNames rest
  | _ => false
where
  mixedNames : List Item -> Bool
    | [item, .closingCounted '*'] => (nameOf? item).isSome
    | item :: .bar :: rest => (nameOf? item).isSome && mixedNames rest
    | _ => false

/-- Whether groups are well written.  `connectors` are the signs between the members of open groups, the
innermost first, and `expecting` says that a member comes next. -/
def groups : (connectors : List (Option Item)) -> (expecting : Bool) -> List Item -> Bool
  | [], _, items => items.isEmpty
  | open', true, .opening :: rest => groups (none :: open') true rest
  | open', true, .name _ :: rest | open', true, .qualified _ :: rest
  | open', true, .counted _ :: rest => groups open' false rest
  | _ :: outer, false, .closing :: rest
  | _ :: outer, false, .closingCounted _ :: rest => groups outer false rest
  | connector :: outer, false, .comma :: rest =>
    connector != some .bar && groups (some .comma :: outer) true rest
  | connector :: outer, false, .bar :: rest =>
    connector != some .comma && groups (some .bar :: outer) true rest
  | _, _, _ => false

def isContent : List Item -> Bool
  | [.name word] => word = "EMPTY" || word = "ANY"
  | .opening :: .pound "PCDATA" :: rest => mixed rest
  | .opening :: rest => groups [none] true rest
  | _ => false

def declaration? (word : String) (items : List Item) : Option Declarations := do
  match word, items with
  | "ENTITY", items => entityDeclaration? d items
  | "ATTLIST", item :: rest => attributeDeclarations? (<- nameOf? item) (rest.length + 1) d rest
  | "ELEMENT", item :: rest =>
    guard ((nameOf? item).isSome && isContent rest)
    return d
  | "NOTATION", items => (formatDeclaration? items).map fun _ => d
  | _, _ => none

def asideAt? (cs : List Char) : Option (List Char) :=
  match cs with
  | '<' :: '!' :: '-' :: '-' :: rest => do
    let (_, rest) <- until? ['-', '-'] rest
    let '>' :: rest := rest | none
    return rest
  | '<' :: '?' :: rest => do
    let (target, rest) <- nameAt? rest
    guard (target.toLower ≠ "xml")
    let (inner, rest) <- until? ['?', '>'] rest
    guard (inner.isEmpty || inner.head?.any isSpace)
    return rest
  | _ => none

def declarationName? (cs : List Char) : Option (String × List Char) :=
  let word := cs.takeWhile Char.isAlpha
  let rest := cs.drop word.length
  match rest with
  | '%' :: more => if nextIn more "%" then none else some (String.ofList word, rest)
  | c :: _ => if isSpace c then some (String.ofList word, rest) else none
  | [] => none

def subsetAt? : (fuel : Nat) -> Declarations -> List Char -> Option (Declarations × List Char)
  | 0, _, _ => none
  | fuel + 1, d, cs =>
    match cs.dropWhile isSpace with
    | ']' :: ']' :: '>' :: _ => none
    | ']' :: rest => some (d, rest)
    | '%' :: rest => do
      let (_, rest) <- nameAt? rest
      let ';' :: rest := rest | none
      subsetAt? fuel { d with incomplete := true, closed := !d.standalone } rest
    | inner =>
      match asideAt? inner with
      | some rest => subsetAt? fuel d rest
      | none => do
        let '<' :: '!' :: rest := inner | none
        let (word, rest) <- declarationName? rest
        let (items, rest) <- itemsAt? false (rest.length + 1) rest
        subsetAt? fuel (<- declaration? d word items) rest

def doctypeAt? (standalone : Bool) (cs : List Char) : Option (Declarations × List Char) := do
  guard (cs.head?.any isSpace)
  let (items, rest) <- itemsAt? true (cs.length + 1) cs
  let item :: more := items | none
  guard ((nameOf? item).isSome && (more.isEmpty || outside? more == some []))
  let d : Declarations := { standalone, incomplete := !more.isEmpty }
  match rest with
  | '[' :: inner =>
    let (d, rest) <- subsetAt? (inner.length + 1) d inner
    return (d, <- past? '>' rest)
  | _ => return (d, rest)

end Refinery.Xml
