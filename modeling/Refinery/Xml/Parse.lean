import Refinery.Failure
import Refinery.Xml.Doctype

namespace Refinery.Xml

open Text

/-!
# Reading XML

A document is read as a list of marks: the start and the end of elements, and the text between
them.
-/

/-!
## XML elements

What is kept of a document: the names of its elements with the addresses of their namespaces, the text in
front of the first inner element, and the inner elements.
-/

structure Name where
  space : String := ""
  part : String
  deriving DecidableEq

inductive Element where
  | mk (name : Name) (text : Option String) (inner : List Element)

namespace Element

def name : Element -> Name
  | mk name _ _ => name

def text : Element -> Option String
  | mk _ text _ => text

def inner : Element -> List Element
  | mk _ _ inner => inner

def named (element : Element) (name : Name) : List Element :=
  element.inner.filter (·.name = name)

def along (element : Element) : List Name -> List Element
  | [] => [element]
  | name :: rest => (element.named name).attach.flatMap fun ⟨found, _⟩ => found.along rest

def find? (element : Element) (way : List Name) : Option Element :=
  (element.along way).head?

end Element

/-! ## Marks -/

inductive Mark where
  | start (name : String) (attributes : List (String × String)) (empty : Bool)
  | stop (name : String)
  | text (content : List Char) (plain : Bool)
  | aside

def settingAt? (cs : List Char) : Option (List Char × List Char) := do
  let quote :: rest := (<- past? '=' cs).dropWhile isSpace | none
  guard (isQuote quote)
  until? [quote] rest

def attributesAt? (d : Declarations) : (fuel : Nat) -> List Char -> Option (List (String × String) × Bool × List Char)
  | 0, _ => none
  | fuel + 1, cs =>
    match cs.dropWhile isSpace with
    | '>' :: rest => some ([], false, rest)
    | '/' :: '>' :: rest => some ([], true, rest)
    | inner => do
      guard (inner.length < cs.length)
      let (name, rest) <- qualifiedNameAt? inner
      let (value, rest) <- settingAt? rest
      let value <- attributeText? d value
      let (more, empty, rest) <- attributesAt? d fuel rest
      return ((name, value) :: more, empty, rest)

def withDefaults (d : Declarations) (element : String) (attributes : List (String × String)) : List (String × String) :=
  attributes ++ (d.defaults.filter fun (owner, name, _) =>
    owner = element && (attributes.lookup name).isNone).map (·.2)

/-- The marks at the start of a text, and the rest.  `entity` gives the marks of an entity. -/
def marksAt? (d : Declarations) (entity : String -> Option (List Mark)) (cs : List Char) : Option (List Mark × List Char) :=
  match cs with
  | '<' :: '!' :: '[' :: 'C' :: 'D' :: 'A' :: 'T' :: 'A' :: '[' :: rest => do
    let (inner, rest) <- until? [']', ']', '>'] rest
    return ([.text inner false], rest)
  | '<' :: '!' :: _ | '<' :: '?' :: _ => (asideAt? cs).map fun rest => ([.aside], rest)
  | '<' :: '/' :: rest => do
    let name := rest.takeWhile fun c => isNameChar c || c == ':'
    return ([.stop (String.ofList name)], <- past? '>' (rest.drop name.length))
  | '<' :: rest => do
    let (name, rest) <- qualifiedNameAt? rest
    let (attributes, empty, rest) <- attributesAt? d (rest.length + 1) rest
    guard ((attributes.map (·.1)).eraseDups.length = attributes.length)
    return ([.start name (withDefaults d name attributes) empty], rest)
  | '&' :: rest => do
    match <- referenceAt? rest with
    | (.char c, rest) => return ([.text [c] false], rest)
    | (.entity name, rest) => return (<- entity name, rest)
  | _ => do
    let inner := cs.takeWhile fun c => c != '<' && c != '&'
    guard ((until? [']', ']', '>'] inner).isNone)
    return ([.text inner true], cs.drop inner.length)

def marks? (d : Declarations) (entity : String -> Option (List Mark)) : (fuel : Nat) -> List Char -> Option (List Mark)
  | _, [] => some []
  | 0, _ => none
  | fuel + 1, cs => do
    let (first, rest) <- marksAt? d entity cs
    return first ++ (<- marks? d entity fuel rest)

def balanced : (depth : Nat) -> List Mark -> Bool
  | depth, [] => depth = 0
  | depth, .start _ _ empty :: rest => balanced (if empty then depth else depth + 1) rest
  | 0, .stop _ :: _ => false
  | depth + 1, .stop _ :: rest => balanced depth rest
  | depth, _ :: rest => balanced depth rest

def entityMarks? (d : Declarations) : (depth : Nat) -> (opened : List String) -> String -> Option (List Mark)
  | 0, _, _ => none
  | depth + 1, opened, name => do
    let entity <- d.entities.lookup name
    guard (!opened.contains name && !entity.foreign)
    let text <- entity.text
    let marks <- marks? d (entityMarks? d depth (name :: opened)) text.length text
    guard (balanced 0 marks)
    return .text [] false :: marks

abbrev Spaces := List (String × String)

def ownSpace : String := "http://www.w3.org/XML/1998/namespace"

def bindingSpace : String := "http://www.w3.org/2000/xmlns/"

def nameIn? (spaces : Spaces) (bare : String) (name : String) : Option Name :=
  match split ":" name with
  | [start, part] => (spaces.lookup start).map (⟨·, part⟩)
  | _ => some ⟨bare, name⟩

def bindOne? (spaces : Spaces) (start address : String) : Option Spaces :=
  if (start ≠ "" && address = "") || start = "xmlns" || (start = "xml") != (address = ownSpace) ||
      address = bindingSpace || contains address "\x7d" then none
  else some ((start, address) :: spaces)

def bind? (spaces : Spaces) : List (String × String) -> Option Spaces
  | [] => some spaces
  | (name, value) :: rest => do
    match split ":" name with
    | ["xmlns"] => bind? (<- bindOne? spaces "" value) rest
    | ["xmlns", start] => bind? (<- bindOne? spaces start value) rest
    | _ => bind? spaces rest

def isBinding (name : String) : Bool :=
  name = "xmlns" || startsWith name "xmlns:"

structure OpenElement where
  tag : String
  name : Name
  spaces : Spaces
  text : List Char := []
  inner : List Element := []

def OpenElement.close (e : OpenElement) : Element :=
  .mk e.name (if e.text.isEmpty then none else some (String.ofList e.text)) e.inner.reverse

def usualSpaces : Spaces :=
  [("xml", ownSpace)]

def start? (outer : Spaces) (tag : String) (attributes : List (String × String)) :
    Option OpenElement := do
  let spaces <- bind? outer attributes
  let names <- (attributes.filter (!isBinding ·.1)).mapM fun (name, _) => nameIn? spaces "" name
  guard (names.eraseDups.length = names.length)
  let name <- nameIn? spaces ((spaces.lookup "").getD "") tag
  return { tag, name, spaces }

/-- Put the marks together: `above` are the unfinished elements, the innermost first, and `root` is the
finished outermost one. -/
def assemble? : (above : List OpenElement) -> (root : Option Element) -> List Mark -> Option Element
  | [], root, [] => root
  | _ :: _, _, [] => none
  | above, root, .aside :: rest => assemble? above root rest
  | [], root, .text content plain :: rest =>
    if plain && content.all isSpace then assemble? [] root rest else none
  | top :: above, root, .text content _ :: rest =>
    let top := if top.inner.isEmpty then { top with text := top.text ++ content } else top
    assemble? (top :: above) root rest
  | [], some _, .start _ _ _ :: _ => none
  | [], none, .start tag attributes empty :: rest => do
    let new <- start? usualSpaces tag attributes
    if empty then assemble? [] (some new.close) rest else assemble? [new] none rest
  | top :: above, root, .start tag attributes empty :: rest => do
    let new <- start? top.spaces tag attributes
    if empty then assemble? ({ top with inner := new.close :: top.inner } :: above) root rest
    else assemble? (new :: top :: above) root rest
  | [], _, .stop _ :: _ => none
  | [top], _, .stop tag :: rest =>
    if top.tag = tag then assemble? [] (some top.close) rest else none
  | top :: next :: above, root, .stop tag :: rest =>
    if top.tag = tag then
      assemble? ({ next with inner := top.close :: next.inner } :: above) root rest
    else none

/-! ## The start of a document -/

def settings? : (fuel : Nat) -> List Char -> Option (List (String × String))
  | 0, _ => none
  | fuel + 1, cs => do
    let inner := cs.dropWhile isSpace
    if inner.isEmpty then return []
    let name := inner.takeWhile fun c => c != '=' && !isSpace c
    guard (inner.length < cs.length && !name.isEmpty)
    let (value, rest) <- settingAt? (inner.drop name.length)
    guard (value.all fun c => c.isAlphanum || ".-_".contains c)
    return (String.ofList name, String.ofList value) :: (<- settings? fuel rest)

def standalone? : List (String × String) -> Option Bool
  | [] => some false
  | ("encoding", value) :: rest =>
    if value.toList.head?.any Char.isAlpha then last? rest else none
  | rest => last? rest
where
  last? : List (String × String) -> Option Bool
    | [] => some false
    | [("standalone", "yes")] => some true
    | [("standalone", "no")] => some false
    | _ => none

def declarationAt? (cs : List Char) : Option (Bool × List Char) :=
  match cs with
  | '<' :: '?' :: 'x' :: 'm' :: 'l' :: c :: rest =>
    if isSpace c || c == '?' then do
      let (inner, rest) <- until? ['?', '>'] (c :: rest)
      match <- settings? (inner.length + 1) inner with
      | ("version", _) :: more => return (<- standalone? more, rest)
      | _ => none
    else some (false, cs)
  | _ => some (false, cs)

def prologAt? : (fuel : Nat) -> (known : Option Declarations) -> (standalone : Bool) -> List Char ->
    Option (Declarations × List Char)
  | 0, _, _, _ => none
  | fuel + 1, known, standalone, cs =>
    match cs.dropWhile isSpace with
    | '<' :: '!' :: 'D' :: 'O' :: 'C' :: 'T' :: 'Y' :: 'P' :: 'E' :: rest => do
      guard known.isNone
      let (d, rest) <- doctypeAt? standalone rest
      prologAt? fuel (some d) standalone rest
    | inner =>
      match asideAt? inner with
      | some rest => prologAt? fuel known standalone rest
      | none => some (known.getD { standalone }, inner)

def parse (text : String) : Except Failure Element :=
  let cs := (unifyLineEnds text).toList
  let cs := if cs.head? = some (Char.ofNat 0xFEFF) then cs.drop 1 else cs
  let element? := do
    guard (cs.all isAllowed)
    let (standalone, cs) <- declarationAt? cs
    let (d, cs) <- prologAt? (cs.length + 1) none standalone cs
    let marks <- marks? d (entityMarks? d (d.entities.length + 1) []) cs.length cs
    assemble? [] none marks
  element?.elim (.error .badMarkup) .ok

end Refinery.Xml
