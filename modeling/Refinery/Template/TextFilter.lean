import Refinery.Template.Method
import Refinery.Template.Paragraph
import Refinery.Template.Pretty

namespace Refinery.Template.Render

open Text

/-!
# Filters that give texts

Anything can be filtered as the text that it is printed as.
-/

/-! ## Whatever can be printed as text -/

def softText (entity : Entity) : Render (Bool × String) := do
  if let .markup s := entity then return (true, s)
  return (false, <- display entity)

def textOf (safe : Bool) (s : String) : Entity :=
  if safe then .markup s else .text s

variable (e : Engine)

def softMethod (value : Entity) (name : String) (a : Arguments Entity) :
    Render Entity := do
  let (safe, s) <- softText value
  textMethod e safe s name a

def titleWord (word : String) : String :=
  upper (take 1 word) ++ lower (drop 1 word)

def titleGaps : Expression :=
  Paragraph.pattern "([-\\s(\x7b\\[<]+)"

def titleText (s : String) : String :=
  String.join ((Paragraph.pieces titleGaps s).map titleWord)

def wordCount (s : String) : Nat :=
  ((Paragraph.pattern "\\w+").matchesIn s.toList).1.length

def replaceFilter (context : Nat) (value : Entity) (a : Arguments Entity) :
    Render Entity := do
  let bound <- a.bind ["old", "new", "count"] 2
  let before := argument bound 0 .null
  let after := argument bound 1 .null
  let count := argumentOr bound 2 (.int (-1))
  if !(<- escapes context) then
    let given : List Entity := [.text (<- display before), .text (<- display after), count]
    textMethod e false (<- display value) "replace" { placed := given }
  else
    let (safe, s) <-
      if isEscaped before || (isEscaped after && !isEscaped value) then
        pure (true, <- escaped value)
      else softText value
    let (safeBefore, before) <- softText before
    let (safeAfter, after) <- softText after
    textMethod e safe s "replace"
      { placed := [textOf safeBefore before, textOf safeAfter after, count] }

variable (value : Entity) (a : Arguments Entity)

def formatFilter : Render Entity := do
  if !a.placed.isEmpty && !a.named.isEmpty then throw (.template .badArgument)
  let (safe, s) <- softText value
  let given <- if a.named.isEmpty then pure (.tuple a.placed)
    else newMap (a.named.map fun (name, value) => (.text name, value))
  fillPercent safe s given

/-! ## Lines -/

def indentFilter : Render Entity := do
  let bound <- a.bind ["width", "first", "blank"]
  let width := argument bound 0 (.int 4)
  let indention <- match width.text?, width with
    | some s, _ => pure s
    | none, .undefined => throw missing
    | none, _ => pure (Text.repeated (<- width.needWidth) " ")
  let first <- flag bound 1 false
  let blank <- flag bound 2 false
  match value, <- cellOf? value with
  | .undefined, _ => throw missing
  | .text s, _ | .markup s, _ =>
    let lines := brokenLines (s ++ "\n")
    let rest := (lines.drop 1).map fun line =>
      if blank || !line.isEmpty then indention ++ line else line
    let text := join "\n" (lines.take 1 ++ rest)
    return textOf (isEscaped value) (if first then indention ++ text else text)
  | _, some (.list _) => throw .noMember
  | _, _ => throw .wrongKind

def wordwrapFilter (value : Entity) (a : Arguments Entity) : Render Entity := do
  let bound <- a.bind ["width", "break_long_words", "wrapstring", "break_on_hyphens"]
  let separator := argumentOr bound 2 (.text "\n")
  if separator.isUndefined then throw missing
  if separator.text?.isNone then throw .noMember
  if value.isUndefined then throw missing
  let lines := brokenLines (<- value.text?.getDM (throw .noMember))
  let width := argument bound 0 (.int 79)
  if !lines.isEmpty && width.isUndefined then throw missing
  let width <- if lines.isEmpty then pure 1 else width.needWhole
  if width ≤ 0 then throw .badValue
  let setting : Paragraph.Setting := {
    width := width.toNat
    cutWords := <- flag bound 1 true
    partAtHyphens := <- flag bound 3 true }
  let join (texts : List Entity) : Render Entity :=
    softMethod e separator "join" { placed := [.tuple texts] }
  join (<- lines.mapM fun line => join ((Paragraph.wrap setting line).map .text))

def truncateFilter : Render Entity := do
  let bound <- a.bind ["length", "killwords", "end", "leeway"]
  let length := argument bound 0 (.int 255)
  let killwords <- flag bound 1 false
  let ending := argument bound 2 (.text "...")
  let leeway := argumentOr bound 3 (.int 5)
  let store <- store
  let sizeOf (entity : Entity) : Render Nat := (entity.length? store).getDM (throw .wrongKind)
  let endingSize <- sizeOf ending
  let compare (a b : Entity) : Render Bool :=
    Entity.before store true Entity.nesting a b
  if !(<- compare (.int endingSize) length) then throw .unmetAssumption
  if !(<- compare (.int 0) leeway) then throw .unmetAssumption
  let size <- sizeOf value
  if <- compare (.int size) (<- binary .add length leeway) then return value
  let start <- slice value .null (<- binary .subtract length (.int endingSize)) .null
  if killwords then return <- binary .add start ending
  let some s := start.text? | throw .noMember
  binary .add (textOf (isEscaped start) ((splitAtMostRight " " 1 s).headD "")) ending

/-! ## Markup and addresses -/

def addressText (bytes : List UInt8) (slash : Bool) : String :=
  String.join (bytes.map fun b =>
    let c := Char.ofNat b.toNat
    if b.toNat < 128 && (c.isAlphanum || "_.-~".toList.contains c || (slash && c == '/')) then
      String.singleton c
    else "%" ++ upper (hex 2 b.toNat))

def addressPart (query : Bool) (value : Entity) : Render String := do
  let bytes <- match value with
    | .bytes b => pure b
    | _ =>
      let s <- display value
      if !Text.encodable s then throw .unencodable
      pure s.toUTF8
  let text := addressText bytes.toList !query
  return if query then replace "%20" "+" text else text

def isIterable : Render Bool := do
  match value, <- cellOf? value with
  | .undefined, _ | .text _, _ | .markup _, _ | .bytes _, _ | .atom (.set _), _ | .tuple _, _
  | .group _ _, _ | .range _ _ _, _ | .view _ _, _ | _, some (.list _) | _, some (.map _)
  | _, some (.iteration _) | _, some (.loop _) => return true
  | _, _ => return false

def urlencodeFilter (e : Engine) (value : Entity) : Render Entity := do
  if value.text?.isSome || !(<- isIterable value) then return .text (<- addressPart false value)
  let pairs <- match <- cellOf? value with
    | some (.map pairs) => pure (pairs.map fun (name, value) => [name, value])
    | _ => (<- items e value).mapM (unpack e 2)
  let parts <- pairs.mapM fun pair => return join "=" (<- pair.mapM (addressPart true))
  return .text (join "&" parts)

def xmlattrFilter (context : Nat) (value : Entity) (a : Arguments Entity) : Render Entity := do
  let bound <- a.bind ["autospace"]
  if value.isUndefined then throw missing
  let some (.map pairs) <- cellOf? value | throw .noMember
  let present := pairs.filter fun (_, value) => !value.isNull && !value.isUndefined
  let parts <- present.mapM fun (key, value) => do
    let name <- key.needText
    if name.toList.any fun c => " \t\n\r\x0b\x0c/>=".contains c then throw .badValue
    return (<- escaped key) ++ "=\"" ++ (<- escaped value) ++ "\""
  let text := join " " parts
  let spaced <- flag bound 0 true
  return textOf (<- escapes context) (if spaced && !text.isEmpty then " " ++ text else text)

def urlizeFilter (context : Nat) (value : Entity) (a : Arguments Entity) :
    Render Entity := do
  let bound <- a.bind ["trim_url_limit", "nofollow", "target", "rel", "extra_schemes"]
  let limit := argument bound 0 .null
  let rel := argument bound 3 .null
  let relations <- if <- truthy rel then
      pure (words (<- rel.text?.getDM (throw .noMember)))
    else pure []
  let relations := relations ++ (if <- flag bound 1 false then ["nofollow"] else []) ++ ["noopener"]
  let relation := join " " (sorted relations.eraseDups)
  let schemes <- match argument bound 4 .null with
    | .null => pure []
    | schemes => items e schemes
  let schemes <- schemes.mapM fun scheme => do
    let s <- scheme.needText
    if !Link.isScheme s then throw (.template .badArgument)
    return s
  let target := argument bound 2 .null
  let targetText <- if <- truthy target then
      pure (" target=\"" ++ (<- escaped target) ++ "\"")
    else pure ""
  let shorten (s : String) : Except Failure String :=
    match limit, limit.number? with
    | .null, _ => .ok s
    | .undefined, _ => .error missing
    | _, some (.inl n) =>
      if n < s.length then
        .ok (String.ofList (Entity.sliceItems s.toList.toArray none (some n) 1) ++ "...")
      else .ok s
    | _, some (.inr x) =>
      if Decimal.lessNumber (.inr x) (.inl s.length) then .error .wrongKind else .ok s
    | _, none => .error .wrongKind
  let setting : Link.Setting := {
    shorten
    attributes := " rel=\"" ++ escapeMarkup relation ++ "\"" ++ targetText
    schemes }
  let text <- Link.inText setting (<- escaped value)
  return textOf (<- escapes context) text

def tojsonFilter : Render Entity := do
  let bound <- a.bind ["indent"]
  let indent <- match argument bound 0 .null with
    | .null => pure none
    | .text s | .markup s => pure (some s)
    | .undefined => throw missing
    | width => pure (some (Text.repeated (<- width.needWidth) " "))
  return .markup (<- value.json (<- store) indent)

/-! ## Wording -/

def badgeFilter : Render Entity := do
  if !(<- truthy value) then return .text ""
  return .text (Wording.releaseBadge (<- value.text?.getDM (throw .noMember)))

def languageFilter (name : String -> String) (value : Entity) : Render Entity := do
  if <- equal value (.text "nodejs") then return .text (name "nodejs") else return value

def slugFilter : Render Entity := do
  if value.isUndefined then throw missing
  return .text (Wording.slug (<- value.text?.getDM (throw .noMember)))

/-! ## By name -/

abbrev Filter := Engine -> (context : Nat) -> Entity -> Arguments Entity -> Render Entity

def plain (result : Engine -> Entity -> Render Entity) : Filter :=
  fun e _ value a => do a.nothing; result e value

def markup (result : Entity -> Render String) : Filter :=
  plain fun _ value => return .markup (<- result value)

def soft (method argumentName : String) (usual : Entity) : Filter :=
  fun e _ value a => do
    let bound <- a.bind [argumentName]
    softMethod e value method { placed := [argument bound 0 usual] }

def textFilters : List (String × Filter) :=
  ["capitalize", "lower", "upper"].map (fun name => (name, fun e _ value => softMethod e value name)) ++
  [("center", soft "center" "width" (.int 80)), ("trim", soft "strip" "chars" .null),
    ("title", plain fun _ value => return .text (titleText (<- softText value).2)),
    ("wordcount", plain fun _ value => return .int (wordCount (<- softText value).2)),
    ("replace", replaceFilter), ("format", fun _ _ => formatFilter),
    ("indent", fun _ _ => indentFilter), ("wordwrap", fun e _ => wordwrapFilter e),
    ("truncate", fun _ _ => truncateFilter), ("escape", markup escaped), ("e", markup escaped),
    ("forceescape", markup fun value => return escapeMarkup (<- display value)), ("safe", markup display),
    ("string", plain fun _ value =>
      return textOf (isEscaped value && value.text?.isSome) (<- display value)),
    ("striptags", plain fun _ value => return .text (stripTags (<- display value))),
    ("urlencode", plain urlencodeFilter), ("xmlattr", fun _ => xmlattrFilter),
    ("urlize", urlizeFilter), ("tojson", fun _ _ => tojsonFilter),
    ("pprint", plain fun _ value => return .text (<- value.pretty (<- store))),
    ("release_quality_badge", plain fun _ => badgeFilter),
    ("language_pretty", plain fun _ => languageFilter Wording.languageName),
    ("syntax_highlighter", plain fun _ => languageFilter Wording.highlighterName), ("slugify", plain fun _ => slugFilter)]

end Refinery.Template.Render
