import Refinery.Format.Braces
import Refinery.Template.Iterate
import Refinery.Text.Arrange
import Refinery.Text.Encoding

namespace Refinery.Template

open Text

/-!
# Methods of texts

What can be called on a text.
-/

namespace Entity

def needSize (entity : Entity) : Except Failure Int := do
  let n <- entity.needWhole
  if n < -(Int.pow 2 63) || Int.pow 2 63 ≤ n then throw .tooLarge
  return n

def needWidth (entity : Entity) : Except Failure Nat := do
  let n <- entity.needSize
  if 100000000 < n then throw .unsupported
  return n.toNat

def needTextOrNull : Entity -> Except Failure (Option String)
  | .null => .ok none
  | entity => do return some (<- entity.needText)

def needChar (entity : Entity) : Except Failure Char := do
  let [c] := (<- entity.needText).toList | throw .wrongKind
  return c

end Entity

namespace Render

/-! ## Fields in braces -/

variable (e : Engine)

def fieldMember (value : Entity) (name : String) : Render Entity := do
  (<- attribute? e value name).getDM (throw .noMember)

def fieldItem (value index : Entity) : Render Entity := do
  if let some found <- element? value index then return found
  match value, <- cellOf? value with
  | _, some (.map _) => throw (.noKey (<- quoted index))
  | _, some (.list _) | .text _, _ | .markup _, _ | .bytes _, _ | .tuple _, _ | .group _ _, _
  | .range _ _ _, _ => throw (if index.whole?.isSome then .noIndex else .wrongKind)
  | _, _ => throw .wrongKind

def formatted (spec : String) (value : Entity) : Render String := do
  match value with
  | .text s | .markup s => Format.text spec s
  | .int n => Format.whole spec n
  | .bool b => if spec.isEmpty then display value else Format.whole spec (if b then 1 else 0)
  | .real x => Format.real spec x
  | _ => if spec.isEmpty then display value else throw .wrongKind

def braceValues (safe : Bool) (numbered : Nat -> Render Entity)
    (named : String -> Render Entity) : Format.Values Render Entity where
  numbered := numbered
  named := named
  enter value
    | .member name => fieldMember e value name
    | .key name => fieldItem value (.text name)
    | .index n => fieldItem value (.int n)
  convert conversion value := do
    match conversion with
    | 's' => return .text (<- display value)
    | 'r' => return .text (<- quoted value)
    | 'a' => return .text (escapedWide (<- quoted value))
    | _ => throw .badValue
  write spec value := do
    if !safe then formatted spec value
    else if isEscaped value then
      if spec.isEmpty then escaped value else throw .badValue
    else return escapeMarkup (<- formatted spec value)

def fillBraces (safe : Bool) (s : String) (a : Arguments Entity) : Render String :=
  let numbered (place : Nat) : Render Entity := a.placed[place]?.getDM (throw .noIndex)
  let named (name : String) : Render Entity :=
    (a.named.lookup name).getDM (throw (.noKey (Text.quoted name)))
  Format.fill (braceValues e safe numbered named) s

def fillBracesFrom (safe : Bool) (s : String) (map : Entity) : Render String :=
  let numbered (_ : Nat) : Render Entity := throw (if safe then .noIndex else .badValue)
  let named (name : String) : Render Entity := fieldItem map (.text name)
  Format.fill (braceValues e safe numbered named) s

/-! ## Characters by table -/

def charTable (a : List Entity) : Render Entity := do
  let code (c : Char) : Entity := .int (codeOf c)
  match a with
  | [source] =>
    let some (.map pairs) <- cellOf? source | throw .wrongKind
    mapOf (<- pairs.mapM fun (key, value) => do
      match key.text?.map String.toList, key.whole? with
      | some [c], _ => return (code c, value)
      | some _, _ => throw .badValue
      | none, some _ => return (key, value)
      | none, none => throw .wrongKind)
  | first :: second :: rest =>
    let before <- first.needText
    let after <- second.needText
    let dropped <- (rest.headD (.text "")).needText
    if before.length != after.length then throw .badValue
    mapOf ((before.toList.zip after.toList).map (fun (c, d) => (code c, code d)) ++ dropped.toList.map fun c => (code c, .null))
  | _ => throw .wrongKind

def charsByTable (table : Entity) (c : Char) : Render (List Char) := do
  match <- element? table (.int (codeOf c)) with
  | none => return [c]
  | some .null => return []
  | some found =>
    match found.text?, found.whole? with
    | some s, _ => return s.toList
    | none, some n => if n < 0 || 0x10FFFF < n then throw .badValue else return [ofCode n.toNat]
    | none, none => throw .wrongKind

/-! ## Methods -/

def searched (s : String) (a : Arguments Entity) : Render (Entity × Option (Nat × String)) := do
  let (part, places) <- a.leading 3
  let start <- Entity.sliceEnd ((places[0]?).getD .null)
  let stop <- Entity.sliceEnd ((places[1]?).getD .null)
  return (part, window? s start stop)

def edge (test : String -> String -> Bool) (s : String) (a : Arguments Entity) : Render Entity := do
  let (parts, window) <- searched s a
  return .bool (<- (parts.tuple?.getD [parts]).anyM fun part => do
    let part <- part.needText
    return window.any fun (_, piece) => test piece part)

def pieces (fromRight : Bool) (s : String) (a : Arguments Entity) : Render (List String) := do
  let bound <- a.bind ["sep", "maxsplit"]
  let separator <- (argument bound 0 .null).needTextOrNull
  let most <- (argument bound 1 (.int (-1))).needSize
  let count := if most < 0 then s.length + 1 else most.toNat
  match separator with
  | none => return if fromRight then cutAtBlanksRight count s else cutAtBlanks count s
  | some "" => throw .badValue
  | some sep =>
    return if fromRight then splitAtMostRight sep count s else splitAtMost sep count s

def question? (s name : String) : Option Bool :=
  let every (test : Char -> Bool) : Bool := !s.isEmpty && s.toList.all test
  [("isalnum", every isAlphanumeric), ("isalpha", every isLetter),
    ("isascii", s.toList.all fun c => c.toNat < 128), ("isdecimal", every isDigit),
    ("isdigit", every isAnyDigit), ("isidentifier", isIdentifier s),
    ("islower", isLower s), ("isnumeric", every isNumeric),
    ("isprintable", s.toList.all isPrintable), ("isspace", every isBlank),
    ("istitle", isTitle s), ("isupper", isUpper s)].lookup name

def recased? (s name : String) : Option String :=
  ([("capitalize", capitalize), ("casefold", foldCase), ("lower", lower),
    ("swapcase", swapCase), ("title", title), ("upper", upper)].lookup name).map (· s)

def rearranged? (s name : String) (a : Arguments Entity) : Render (Option String) := do
  let field (place : Char -> Nat -> String -> String) : Render (Option String) := do
    let (width, fill) <- a.leading 2
    let width <- width.needWidth
    return some (place (<- (fill.headD (.text " ")).needChar) width s)
  let trimmed (trim : (Char -> Bool) -> String -> String) : Render (Option String) := do
    match <- ((<- a.positional 0 1).headD .null).needTextOrNull with
    | none => return some (trim isBlank s)
    | some chars => return some (trim (fun c => chars.toList.contains c) s)
  match name with
  | "center" => field centered
  | "ljust" => field atLeft
  | "rjust" => field padLeft
  | "zfill" => return some (zeroFilled (<- (<- a.single).needWidth) s)
  | "strip" => trimmed trimBy
  | "lstrip" => trimmed trimLeftBy
  | "rstrip" => trimmed trimRightBy
  | "removeprefix" =>
    let part <- (<- a.single).needText
    return some (if startsWith s part then drop part.length s else s)
  | "removesuffix" =>
    let part <- (<- a.single).needText
    return some (if endsWith s part then dropEnd part.length s else s)
  | "expandtabs" =>
    let size <- (argument (<- a.bind ["tabsize"]) 0 (.int 8)).needSize
    return some (expandTabs size.toNat s)
  | "replace" =>
    match <- a.positional 2 3 with
    | before :: after :: count =>
      let before <- before.needText
      let after <- after.needText
      let count <- (count.headD (.int (-1))).needSize
      return some (if count < 0 then replace before after s else replaceFirst before after count.toNat s)
    | _ => throw .wrongKind
  | "translate" =>
    let table <- a.single
    return some (String.ofList (<- s.toList.mapM (charsByTable table)).flatten)
  | _ => return none

def textMethod (safe : Bool) (s name : String) (a : Arguments Entity) : Render Entity := do
  let wrap (s : String) : Entity := if safe then .markup s else .text s
  let found (place? : String -> String -> Option Nat) : Render (Option Int) := do
    let (part, window) <- searched s a
    let part <- part.needText
    return window.bind fun (start, piece) => (place? part piece).map fun n => ((start + n : Nat) : Int)
  let around (cut? : String -> String -> Option (String × String)) (missed : String × String × String) :
      Render Entity := do
    let value <- a.single
    let sep <- if safe then escaped value else value.needText
    if sep.isEmpty then throw .badValue
    let (before, between, after) := match cut? sep s with
      | some (before, after) => (before, sep, after)
      | none => missed
    return .tuple [wrap before, wrap between, wrap after]
  if let some answer := question? s name then
    a.nothing
    return .bool answer
  if let some changed := recased? s name then
    a.nothing
    return wrap changed
  let escapedArgument (value : Entity) : Render Entity := do
    if safe && (value.text?.isSome || isEscaped value) then return .markup (<- escaped value)
    else return value
  let safeArguments : Arguments Entity := {
    placed := <- a.placed.mapM escapedArgument
    named := <- a.named.mapM fun (name, value) => return (name, <- escapedArgument value) }
  if let some changed <- rearranged? s name safeArguments then
    return wrap changed
  match name with
  | "count" =>
    let (part, window) <- searched s a
    let part <- part.needText
    return .int ((window.map fun (_, piece) => countOf part piece).getD 0)
  | "find" => return .int ((<- found place?).getD (-1))
  | "rfind" => return .int ((<- found lastPlace?).getD (-1))
  | "index" | "rindex" =>
    let some place <- found (if name = "index" then place? else lastPlace?)
      | throw .badValue
    return .int place
  | "startswith" => edge startsWith s a
  | "endswith" => edge endsWith s a
  | "split" => return <- newList ((<- pieces false s a).map wrap)
  | "rsplit" => return <- newList ((<- pieces true s a).map wrap)
  | "splitlines" =>
    let keep <- (argument (<- a.bind ["keepends"]) 0 (.bool false)).needWhole
    newList ((if keep ≠ 0 then brokenLinesKept s else brokenLines s).map wrap)
  | "partition" => around cut? (s, "", "")
  | "rpartition" => around cutLast? ("", "", s)
  | "join" =>
    let texts <- (<- items e (<- a.single)).mapM fun item =>
      if safe then escaped item else item.needText
    return wrap (join s texts)
  | "encode" =>
    let bound <- a.bind ["encoding", "errors"]
    let encoding <- (argument bound 0 (.text "utf-8")).needText
    let handling <- (argument bound 1 (.text "strict")).needText
    let some encoding := Encoding.ofName? encoding | throw .unknownEncoding
    return .bytes (<- encoding.encode handling s)
  | "format" => return wrap (<- fillBraces e safe s a)
  | "format_map" => return wrap (<- fillBracesFrom e safe s (<- a.single))
  | "maketrans" => charTable (<- a.positional 1 3)
  | "escape" => return .markup (<- escaped (<- a.single))
  | "striptags" | "unescape" =>
    a.nothing
    return .text (if name = "unescape" then unescapeMarkup s else stripTags s)
  | _ => throw .noMember

end Render

end Refinery.Template
