import Refinery.Template.Execute

namespace Refinery.Template.Render

/-!
# Preparing templates

Constants are worked out, and what cannot be right in any rendering is refused: unknown filters and tests,
blocks that are defined twice, an extension inside of another section.
-/

structure Site where
  scope : Scope
  top : Bool := false
  root : Bool := false
  soft : Bool := false
  checked : Bool := false
  escaping : Escaping := {}
  loops : Nat := 0

structure Progress where
  extending : Bool := false
  extensions : Nat := 0
  unworkable : Bool := false

abbrev Preparing := StateT Progress Render

def refusal : Failure := .template .unknownName

/-! ## Constants -/

def constantOf? (store : Store) : (fuel : Nat) -> Entity -> Option Doc
  | 0, _ => none
  | fuel + 1, entity =>
    match entity with
    | .null => some .null
    | .bool value => some (.bool value)
    | .int value => some (.int value)
    | .real value => some (.real value)
    | .text value => some (.text value)
    | .tuple items => (items.mapM (constantOf? store fuel)).map .tuple
    | .cell number =>
      match store[number]? with
      | some (.list items) => (items.toList.mapM (constantOf? store fuel)).map .list
      | some (.map pairs) =>
        (pairs.mapM fun (key, value) => do
          return (<- constantOf? store fuel key, <- constantOf? store fuel value)).map .map
      | _ => none
    | _ => none

def scratch {α : Type} (body : Render α) : Render (Option α) := do
  let before <- get
  let outcome <- tryCatch (some <$> body) fun _ => return none
  set before
  return outcome

variable (e : Engine) (escaping : Escaping)

def constantValue (expr : Expr) : Render Entity := do
  let context <- newContext { name := "", escapes := escaping.on }
  e.eval { scope := [], runs := [], context, escaping, constant := true } expr

def folded (expr : Expr) : Render Expr := do
  let found <- scratch do
    let value <- constantValue e escaping expr
    match constantOf? (<- store) Entity.nesting value with
    | some doc => return doc
    | none => throw noConstant
  return (found.map .const).getD expr

def fold : (fuel : Nat) -> Expr -> Render Expr
  | 0, expr => return expr
  | fuel + 1, expr => do
    let found <- expr.mapParts (fold fuel)
    match found with
    | .const _ | .name _ | .slice _ _ _ | .call _ _ => return found
    | _ => folded e escaping found

/-! ## Checks -/

def reservedWords : List String :=
  ["False", "None", "True", "and", "as", "assert", "async", "await", "break", "class", "continue",
    "def", "del", "elif", "else", "except", "finally", "for", "from", "global", "if", "import", "in",
    "is", "lambda", "nonlocal", "not", "or", "pass", "raise", "return", "try", "while", "with", "yield"]

def unworkable : Preparing Unit :=
  modify fun progress => { progress with unworkable := true }

def checkNames (names : List String) : Preparing Unit := do
  if names.eraseDups.length != names.length && !names.any reservedWords.contains then unworkable

def checkConstant (doc : Doc) : Except Failure Unit :=
  (atoms doc).forM fun
    | .int n => do discard (Entity.wholeText n)
    | _ => .ok ()

def isSlice : Expr -> Bool
  | .slice _ _ _ => true
  | _ => false

def checkGiven (given : Given Expr) : Preparing Unit :=
  checkNames (given.named.map (·.1))

def check : (fuel : Nat) -> (soft : Bool) -> Expr -> Preparing Unit
  | 0, _, _ => return
  | fuel + 1, soft, expr => do
    match expr with
    | .const value => liftM (checkConstant value)
    | .tuple items => if items.any isSlice then unworkable
    | .call _ given => checkGiven given
    | .filter own _ given => do
      if !soft && !Filter.names.contains own then throw refusal
      checkGiven given
    | .test own _ given => do
      if !soft && !Test.names.contains own then throw refusal
      checkGiven given
    | _ => pure ()
    let soft := soft || expr matches .choose _ _ _
    let _ <- expr.mapParts fun part => do
      check fuel soft part
      return part

variable (site : Site)

def prepared (expr : Expr) : Preparing Expr := do
  let expr <- if site.escaping.asked then pure expr else liftM (fold e site.escaping manyLevels expr)
  check manyLevels site.soft expr
  return expr

def preparedPrint (expr : Expr) : Preparing Piece := do
  let text <- liftM (scratch do
    let value <- constantValue e site.escaping expr
    if site.escaping.on then escaped value else display value)
  match text with
  | some text => return .data text
  | none => return .print [<- prepared e site expr]

/-! ## Pieces -/

def setsIn (name : String) (pieces : List Piece) : Bool :=
  (allPieces pieces).any fun
    | .set target _ | .loop target _ _ _ _ _ | .setBlock target _ _ => target.names.contains name
    | _ => false

def Site.inside (layer : Layer) : Site :=
  { site with scope := layer :: site.scope, top := false, root := false, soft := false }

def Site.inMacro (signature : Signature) (body : List Piece) : Site :=
  { site.inside (Layer.ofMacro site.scope signature body) with checked := false, loops := 0 }

def mostLoops : Nat := 20

def preparedSignature (signature : Signature) (body : List Piece) :
    Preparing Signature := do
  if (Layer.specials signature body).lacksCaller then throw refusal
  if signature.parameters.eraseDups.length != signature.parameters.length then unworkable
  let defaults <- signature.defaults.mapM (prepared e site)
  return { signature with defaults }

mutual

def preparePiece (site : Site) : Piece -> Preparing (List Piece × Bool)
  | .data text => return ([.data text], false)
  | .print values => do
    if site.checked && (<- get).extending then return ([.print values], false)
    return (<- values.mapM (preparedPrint e site), false)
  | .choice branches otherwise => do
    let site := { site with soft := true, root := false }
    let branches <- prepareBranches site branches
    return ([.choice branches (<- preparePieces site otherwise)], false)
  | .loop target source condition recursive body otherwise => do
    let condition <- match condition with
      | some condition => do
        let inside := site.inside (Layer.ofCondition site.scope target condition)
        pure (some (<- prepared e inside condition))
      | none => pure none
    if target.names.contains "loop" || setsIn "loop" body || setsIn "loop" otherwise then
      throw refusal
    let names := Layer.loopNames target recursive body
    let inside := { site.inside (Layer.ofPieces site.scope names body) with
      loops := if recursive then 1 else site.loops + 1 }
    if mostLoops < inside.loops then unworkable
    let source <- prepared e site source
    let body <- preparePieces inside body
    let beside := site.inside (Layer.ofPieces site.scope [] otherwise)
    let otherwise <- preparePieces beside otherwise
    return ([.loop target source condition recursive body otherwise], false)
  | .set target value => do return ([.set target (<- prepared e site value)], false)
  | .setBlock target filter body => do
    let inside := { site.inside (Layer.ofPieces site.scope [] body) with checked := false }
    let body <- preparePieces inside body
    let filter <- match filter with
      | some filter => do
        if filter.names.any fun name => (inside.scope.slot? name).isNone then throw .unmetAssumption
        pure (some (<- prepared e inside filter))
      | none => pure none
    return ([.setBlock target filter body], false)
  | .block name exposed required body => return ([.block name exposed required body], false)
  | .extend template => do
    if !site.top then throw refusal
    let progress <- get
    if progress.extending then return ([.extend template], true)
    let template <- prepared e site template
    modify fun progress => { progress with
      extensions := progress.extensions + 1, extending := progress.extending || site.root }
    return ([.extend template], false)
  | .load template ignoreMissing withContext => do
    return ([.load (<- prepared e site template) ignoreMissing withContext], false)
  | .define name signature body => do
    let inside := site.inMacro signature body
    let signature <- preparedSignature e inside signature body
    return ([.define name signature (<- preparePieces inside body)], false)
  | .withValues bindings body => do
    let inside := site.inside (Layer.ofBindings site.scope bindings body)
    let bindings <- bindings.mapM fun (target, value) => do return (target, <- prepared e site value)
    return ([.withValues bindings (<- preparePieces inside body)], false)
  | .filtered filter body => do
    let inside := site.inside (Layer.ofFiltered site.scope filter body)
    let body <- preparePieces inside body
    return ([.filtered (<- prepared e inside filter) body], false)
  | .callWith function given signature body => do
    let inside := site.inMacro signature body
    let signature <- preparedSignature e inside signature body
    let body <- preparePieces inside body
    checkNames (given.named.map (·.1) ++ ["caller"])
    let .call function given <- prepared e site (.call function given) | throw refusal
    return ([.callWith function given signature body], false)
  | .importAs template name withContext => do
    return ([.importAs (<- prepared e site template) name withContext], false)
  | .importNames template names withContext => do
    return ([.importNames (<- prepared e site template) names withContext], false)
  | .escaping condition body => do
    let inside := site.inside (Layer.ofEscaping site.scope condition body)
    let condition <- prepared e inside condition
    let escaping : Escaping := match condition with
      | .const value => { site.escaping with on := value.truthy }
      | _ => { site.escaping with asked := true }
    return ([.escaping condition (<- preparePieces { inside with escaping } body)], false)

def preparePieces (site : Site) : List Piece -> Preparing (List Piece)
  | [] => return []
  | piece :: rest => do
    let (pieces, fails) <- preparePiece site piece
    if fails then return pieces
    return pieces ++ (<- preparePieces site rest)

def prepareBranches (site : Site) : List (Expr × List Piece) -> Preparing (List (Expr × List Piece))
  | [] => return []
  | (condition, body) :: rest => do
    let condition <- prepared e site condition
    let body <- preparePieces site body
    return (condition, body) :: (<- prepareBranches site rest)

end

/-! ## Templates -/

def prepareBlock (block : Block) : Preparing Block := do
  let names := ["self", "super"].filter (reads block.body)
  let site : Site := { scope := [Layer.ofPieces [] names block.body] }
  return { block with body := <- preparePieces e site block.body }

def prepare (sheet : Sheet) : Render Sheet := do
  let names := sheet.blocks.map (·.name)
  if names.eraseDups.length != names.length then throw refusal
  let names := ["self"].filter (reads sheet.pieces)
  let site : Site := {
    scope := [Layer.ofPieces [] names sheet.pieces]
    top := true, root := true, checked := sheet.isExtension }
  let all : Preparing Sheet := do
    let pieces <- preparePieces e site sheet.pieces
    let blocks <- sheet.blocks.mapM (prepareBlock e)
    return { sheet with pieces, blocks }
  let (sheet, progress) <- all.run {}
  if progress.unworkable then throw (.template .unworkable)
  return sheet

end Refinery.Template.Render
