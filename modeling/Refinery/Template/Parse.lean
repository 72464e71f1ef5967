import Refinery.Template.Piece
import Refinery.Template.Token

namespace Refinery.Template

/-!
# Reading templates

Expressions are read by falling precedence: choice, or, and, not, comparison, sum, concatenation,
product, power, sign.
-/

abbrev Reading := StateT (List Token) (Except Failure)

namespace Reading

variable {α : Type}

def refuse : Reading α :=
  throw refusal

def look : Reading (Option Token) := do
  return (<- get).head?

def second : Reading (Option Token) := do
  return ((<- get).drop 1).head?

def skip : Reading Unit :=
  modify fun rest => rest.drop 1

def skipIf (token : Token) : Reading Bool := do
  if (<- look) == some token then
    skip
    return true
  return false

def skipSign (text : String) : Reading Bool :=
  skipIf (.sign text)

def skipName (text : String) : Reading Bool :=
  skipIf (.name text)

def expect (token : Token) : Reading Unit := do
  if !(<- skipIf token) then refuse

def comesAny (signs : List String) : Reading Bool := do
  let next <- look
  return signs.any fun text => next == some (.sign text)

def takeName : Reading String := do
  let some (.name text) <- look | refuse
  skip
  return text

def atTupleEnd (stop : Option String) : Reading Bool := do
  match <- look with
  | some .printEnd | some .statementEnd | some (.sign ")") => return true
  | some (.name text) => return stop == some text
  | _ => return false

def readIf (asked : Bool) (read : Reading α) : Reading (Option α) :=
  if asked then some <$> read else pure none

/-! ## Repetition -/

def growFrom (step : α -> Reading (Option α)) : (fuel : Nat) -> α -> Reading α
  | 0, _ => throw .tooDeep
  | fuel + 1, value => do
    match <- step value with
    | some next => growFrom step fuel next
    | none => return value

def grow (step : α -> Reading (Option α)) (start : α) : Reading α := do
  growFrom step ((<- get).length + 1) start

def growIf (asked : Reading Bool) (step : α -> Reading α) : α -> Reading α :=
  grow fun value => do readIf (<- asked) (step value)

/-- Items with commas between them up to an end; with `trailing`, also a comma in front of it. -/
def listed (atEnd : Reading Bool) (trailing : Bool) (item : Reading α) : Reading (List α) :=
  grow (fun done => do
    if <- atEnd then return none
    if !done.isEmpty then
      expect (.sign ",")
      if trailing then
        if <- atEnd then return none
    return some (done ++ [<- item])) []

def several (stop : Option String) (item : Reading α) : Reading (List α × Bool) :=
  grow (fun (done, _) => do
    if !done.isEmpty then
      if !(<- skipSign ",") then return none
    if <- atTupleEnd stop then return if done.isEmpty then none else some (done, true)
    return some (done ++ [<- item], !done.isEmpty)) ([], false)

def leftward (operator? : Token -> Option (Expr -> Expr -> Expr)) (operand : Reading Expr) : Reading Expr := do
  grow (fun left => do
    let some join := (<- look).bind operator? | return none
    skip
    return some (join left (<- operand))) (<- operand)

/-! ## Expressions -/

def sumOf? : Token -> Option (Expr -> Expr -> Expr)
  | .sign "+" => some (.binary .add)
  | .sign "-" => some (.binary .subtract)
  | _ => none

def productOf? : Token -> Option (Expr -> Expr -> Expr)
  | .sign "*" => some (.binary .multiply)
  | .sign "/" => some (.binary .divide)
  | .sign "//" => some (.binary .floorDivide)
  | .sign "%" => some (.binary .modulo)
  | _ => none

def comparisonOf? : Token -> Option Comparison
  | .sign "==" => some .equal
  | .sign "!=" => some .notEqual
  | .sign "<" => some .less
  | .sign "<=" => some .lessEqual
  | .sign ">" => some .greater
  | .sign ">=" => some .greaterEqual
  | .name "in" => some .within
  | _ => none

def comparison? : Reading (Option Comparison) := do
  match <- look, <- second with
  | some (.name "not"), some (.name "in") =>
    skip
    skip
    return some .notWithin
  | token, _ =>
    let found := token.bind comparisonOf?
    if found.isSome then skip
    return found

def dottedName : Reading String := do
  growIf (skipSign ".") (fun done => return done ++ "." ++ (<- takeName)) (<- takeName)

inductive Rank where
  | choice
  | plain
  | negation
  | signed

section Ranks

variable (self : Rank -> Reading Expr)

def callArguments : Reading (Given Expr) := do
  let (found, _) <- grow (fun ((given, first) : Given Expr × Bool) => do
    if <- skipSign ")" then return none
    if !first then
      expect (.sign ",")
      if <- skipSign ")" then return none
    let next <- match <- look, <- second with
      | some (.sign "*"), _ => do
        if given.spread.isSome || given.spreadNamed.isSome then refuse
        skip
        pure { given with spread := some (<- self .choice) }
      | some (.sign "**"), _ => do
        if given.spreadNamed.isSome then refuse
        skip
        pure { given with spreadNamed := some (<- self .choice) }
      | some (.name name), some (.sign "=") => do
        if given.spreadNamed.isSome then refuse
        skip
        skip
        pure { given with named := given.named ++ [(name, <- self .choice)] }
      | _, _ => do
        if given.spread.isSome || given.spreadNamed.isSome || !given.named.isEmpty then refuse
        pure { given with placed := given.placed ++ [<- self .choice] }
    return some (next, false)) ({}, true)
  return found

def tuple (rank : Rank) (bracketed : Bool) (stop : Option String := none) : Reading Expr := do
  match <- several stop (self rank) with
  | ([item], false) => return item
  | ([], false) => if bracketed then return .tuple [] else refuse
  | (items, _) => return .tuple items

def primary : Reading Expr := do
  let some token <- look | refuse
  match token with
  | .text _ =>
    return .const (.text (<- grow (fun done => do
      let some (.text value) <- look | return none
      skip
      return some (done ++ value)) ""))
  | _ => skip
  match token with
  | .name text =>
    match text with
    | "true" | "True" => return .const (.bool true)
    | "false" | "False" => return .const (.bool false)
    | "none" | "None" => return .const .null
    | _ => return .name text
  | .int value => return .const (.int value)
  | .real value => return .const (.real value)
  | .sign "(" =>
    let value <- tuple self .choice true
    expect (.sign ")")
    return value
  | .sign "[" => return .list (<- listed (skipSign "]") true (self .choice))
  | .sign "\x7b" =>
    return .map (<- listed (skipSign "\x7d") true do
      let key <- self .choice
      expect (.sign ":")
      return (key, <- self .choice))
  | _ => refuse

def subscript : Reading Expr := do
  let part (ends : List String) : Reading (Option Expr) := do
    readIf (!(<- comesAny ends)) (self .choice)
  let start <- part [":"]
  if !(<- skipSign ":") then
    let some index := start | refuse
    return index
  let stop <- part [":", "]", ","]
  let step <- if <- skipSign ":" then part ["]", ","] else pure none
  return .slice start stop step

def attached : Expr -> Reading Expr :=
  grow fun value => do
    match <- look with
    | some (.sign ".") =>
      skip
      let found <- look
      skip
      match found with
      | some (.name text) => return some (.member value text)
      | some (.int index) => return some (.item value (.const (.int index)))
      | _ => refuse
    | some (.sign "[") =>
      skip
      match <- listed (skipSign "]") false (subscript self) with
      | [index] => return some (.item value index)
      | several => return some (.item value (.tuple several))
    | some (.sign "(") =>
      skip
      return some (.call value (<- callArguments self))
    | _ => return none

def filterOf (target : Option Expr) : Reading Expr := do
  let name <- dottedName
  let given <- readIf (<- skipSign "(") (callArguments self)
  return .filter name target (given.getD {})

def testOf (target : Expr) : Reading Expr := do
  let negated <- skipName "not"
  let name <- dottedName
  let single : Reading (Given Expr) := do
    return { placed := [<- attached self (<- primary self)] }
  let given <- match <- look with
    | some (.sign "(") => do
      skip
      callArguments self
    | some (.name text) =>
      if ["else", "or", "and"].contains text then pure {}
      else if text = "is" then refuse
      else single
    | some (.text _) | some (.int _) | some (.real _) | some (.sign "[") | some (.sign "\x7b") => single
    | _ => pure {}
  let found := Expr.test name target given
  return if negated then .not found else found

def filtered : Expr -> Reading Expr :=
  grow fun value => do
    if <- skipSign "|" then return some (<- filterOf self (some value))
    if <- skipName "is" then return some (<- testOf self value)
    if <- skipSign "(" then return some (.call value (<- callArguments self))
    return none

def signed : Reading Expr := do
  let value <-
    if <- skipSign "-" then pure (Expr.negative (<- self .signed))
    else if <- skipSign "+" then pure (Expr.positive (<- self .signed))
    else primary self
  attached self value

def sum : Reading Expr := do
  let power := leftward (fun token => if token == .sign "**" then some (.binary .power) else none)
    (do filtered self (<- signed self))
  let product := leftward productOf? power
  leftward sumOf? do
    let first <- product
    let parts <- growIf (skipSign "~") (fun parts => return parts ++ [<- product]) [first]
    return if parts.length = 1 then first else .concat parts

def negation : Reading Expr := do
  if <- skipName "not" then return .not (<- self .negation)
  let first <- sum self
  let rest <- grow (fun done => do
    let some operator <- comparison? | return none
    return some (done ++ [(operator, <- sum self)])) []
  return if rest.isEmpty then first else .compare first rest

def disjunction : Reading Expr :=
  let connective (word : String) (join : Expr -> Expr -> Expr) :=
    leftward fun token => if token == .name word then some join else none
  connective "or" .either (connective "and" .both (negation self))

def chosen : Expr -> Reading Expr :=
  growIf (skipName "if") fun first => do
    let condition <- disjunction self
    return .choose condition first (<- readIf (<- skipName "else") (self .choice))

end Ranks

def expressionAt : (fuel : Nat) -> Rank -> Reading Expr
  | 0, _ => throw .tooDeep
  | fuel + 1, rank =>
    let self := expressionAt fuel
    match rank with
    | .choice => do chosen self (<- disjunction self)
    | .plain => disjunction self
    | .negation => negation self
    | .signed => signed self

def within (rank : Rank) : Reading Expr := do
  expressionAt ((<- get).length + 1) rank

def expression : Reading Expr :=
  within .choice

/-! ## Statements -/

def isConstantName (name : String) : Bool :=
  ["true", "false", "none", "True", "False", "None"].contains name

def boundName : Reading String := do
  let name <- takeName
  if isConstantName name then refuse
  return name

mutual

def targetOf? : Expr -> Option Target
  | .name name => some (.name name)
  | .tuple items => (targetsOf? items).map .several
  | _ => none

def targetsOf? : List Expr -> Option (List Target)
  | [] => some []
  | item :: rest => do return (<- targetOf? item) :: (<- targetsOf? rest)

end

def target (stop : Option String := none) : Reading Target := do
  let one : Reading Target := do
    let some found := targetOf? (<- primary within) | refuse
    return found
  match <- several stop one with
  | ([one], false) => return one
  | ([], false) => refuse
  | (many, _) => return .several many

def signature : Reading Signature :=
  grow (fun done => do
    if <- skipSign ")" then return none
    if !done.parameters.isEmpty then expect (.sign ",")
    let parameters := done.parameters ++ [<- boundName]
    if <- skipSign "=" then
      return some { parameters, defaults := done.defaults ++ [<- expression] }
    if !done.defaults.isEmpty then refuse
    return some { done with parameters }) {}

def context? : Reading (Option Bool) := do
  match <- look, <- second with
  | some (.name "with"), some (.name "context") => return some true
  | some (.name "without"), some (.name "context") => return some false
  | _, _ => return none

def contextChoice (usual : Bool) : Reading Bool := do
  let some found <- context? | return usual
  skip
  skip
  return found

def importedNames : Reading (List (String × String)) :=
  grow (fun done => do
    if !done.isEmpty then
      if !(<- skipSign ",") then return none
    if (<- context?).isSome then return none
    let name <- boundName
    if name.startsWith "_" then throw (.template .unknownName)
    return some (done ++ [(name, (<- readIf (<- skipName "as") boundName).getD name)])) []

def atStatementEnd : Reading Bool := do
  return (<- look) == some .statementEnd

def bindings : Reading (List (Target × Expr)) :=
  listed atStatementEnd false do
    let bound <- target
    expect (.sign "=")
    return (bound, <- expression)

def isBlankBody (pieces : List Piece) : Bool :=
  pieces.all fun piece =>
    match piece with
    | .data text => Text.allBlank text
    | _ => false

def filterChain : Reading Expr := do
  growIf (skipSign "|") (fun found => filterOf within (some found)) (<- filterOf within none)

section Nesting

variable (inner : (stops : List String) -> Reading (List Piece))

def body (stops : List String) : Reading (List Piece × String) := do
  let _ <- skipSign ":"
  expect .statementEnd
  let found <- inner stops
  return (found, <- takeName)

def bodyTo (stop : String) : Reading (List Piece) := do
  return (<- body inner [stop]).1

def branches : Reading (List (Expr × List Piece) × String) := do
  let branch : Reading ((Expr × List Piece) × String) := do
    let condition <- tuple within .plain false
    let (found, ending) <- body inner ["elif", "else", "endif"]
    return ((condition, found), ending)
  let (first, ending) <- branch
  grow (fun (done, ending) => do
    if ending ≠ "elif" then return none
    let (next, ending) <- branch
    return some (done ++ [next], ending)) ([first], ending)

def statement (name : String) : Reading (List Piece) := do
  match name with
  | "if" =>
    let (found, ending) <- branches inner
    return [.choice found ((<- readIf (ending = "else") (bodyTo inner "endif")).getD [])]
  | "for" =>
    let bound <- target (some "in")
    expect (.name "in")
    let source <- tuple within .plain false (some "recursive")
    let condition <- readIf (<- skipName "if") expression
    let recursive <- skipName "recursive"
    let (found, ending) <- body inner ["endfor", "else"]
    let otherwise <- readIf (ending = "else") (bodyTo inner "endfor")
    return [.loop bound source condition recursive found (otherwise.getD [])]
  | "set" =>
    let bound <-
      if (<- second) == some (.sign ".") then do
        let holder <- takeName
        skip
        pure (Target.field holder (<- takeName))
      else target
    if <- skipSign "=" then return [.set bound (<- tuple within .choice false)]
    let filter <- readIf (<- skipSign "|") filterChain
    return [.setBlock bound filter (<- bodyTo inner "endset")]
  | "block" =>
    let name <- takeName
    let exposed <- skipName "scoped"
    let required <- skipName "required"
    let found <- bodyTo inner "endblock"
    if required && !isBlankBody found then refuse
    let _ <- skipName name
    return [.block name exposed required found]
  | "extends" => return [.extend (<- expression)]
  | "include" =>
    let template <- expression
    let ignoring := (<- look) == some (.name "ignore") && (<- second) == some (.name "missing")
    if ignoring then
      skip
      skip
    return [.load template ignoring (<- contextChoice true)]
  | "import" =>
    let template <- expression
    expect (.name "as")
    let name <- boundName
    return [.importAs template name (<- contextChoice false)]
  | "from" =>
    let template <- expression
    expect (.name "import")
    let names <- importedNames
    return [.importNames template names (<- contextChoice false)]
  | "macro" =>
    let name <- boundName
    expect (.sign "(")
    let found <- signature
    return [.define name found (<- bodyTo inner "endmacro")]
  | "call" =>
    let found <- readIf (<- skipSign "(") signature
    let .call function given <- expression | refuse
    return [.callWith function given (found.getD {}) (<- bodyTo inner "endcall")]
  | "filter" => return [.filtered (<- filterChain) (<- bodyTo inner "endfilter")]
  | "with" => return [.withValues (<- bindings) (<- bodyTo inner "endwith")]
  | "autoescape" => return [.escaping (<- expression) (<- bodyTo inner "endautoescape")]
  | "print" => return [.print (<- listed atStatementEnd false expression)]
  | _ => refuse

def piecesUpTo (stops : List String) : Reading (List Piece) :=
  grow (fun done => do
    match <- look with
    | none => if stops.isEmpty then return none else refuse
    | some (.data text) =>
      skip
      return some (done ++ [.data text])
    | some .printStart =>
      skip
      let value <- tuple within .choice false
      expect .printEnd
      return some (done ++ [.print [value]])
    | some .statementStart =>
      let some (.name name) <- second | refuse
      skip
      if stops.contains name then return none
      skip
      let found <- statement inner name
      expect .statementEnd
      return some (done ++ found)
    | some _ => refuse) []

end Nesting

def pieces : (fuel : Nat) -> (stops : List String) -> Reading (List Piece)
  | 0, _ => throw .tooDeep
  | fuel + 1, stops => piecesUpTo (pieces fuel) stops

end Reading

def Sheet.parse (keepLast : Bool) (name source : String) : Except Failure Sheet := do
  let found <- tokens keepLast source
  let (pieces, _) <- (Reading.pieces (found.length + 1) []).run found
  return ⟨name, pieces, blocksOfPieces pieces⟩

end Refinery.Template
