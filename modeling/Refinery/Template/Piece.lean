import Refinery.Doc.Basic

namespace Refinery.Template

/-!
# Expressions and pieces of templates

A template is a list of pieces: text, printed expressions and statements.
-/

inductive Operation where
  | add
  | subtract
  | multiply
  | divide
  | floorDivide
  | modulo
  | power
  deriving DecidableEq

inductive Comparison where
  | equal
  | notEqual
  | less
  | lessEqual
  | greater
  | greaterEqual
  | within
  | notWithin
  deriving DecidableEq

structure Given (ε : Type) where
  placed : List ε := []
  named : List (String × ε) := []
  spread : Option ε := none
  spreadNamed : Option ε := none

inductive Expr where
  | const (value : Doc)
  | name (name : String)
  | tuple (items : List Expr)
  | list (items : List Expr)
  | map (pairs : List (Expr × Expr))
  | member (target : Expr) (name : String)
  | item (target index : Expr)
  | slice (start stop step : Option Expr)
  | call (function : Expr) (given : Given Expr)
  | filter (name : String) (target : Option Expr) (given : Given Expr)
  | test (name : String) (target : Expr) (given : Given Expr)
  | negative (target : Expr)
  | positive (target : Expr)
  | binary (operation : Operation) (left right : Expr)
  | both (left right : Expr)
  | either (left right : Expr)
  | not (target : Expr)
  | compare (first : Expr) (rest : List (Comparison × Expr))
  | concat (parts : List Expr)
  | choose (condition yes : Expr) (no : Option Expr)

inductive Target where
  | name (name : String)
  | field (holder name : String)
  | several (targets : List Target)

structure Signature where
  parameters : List String := []
  defaults : List Expr := []

inductive Piece where
  | data (text : String)
  | print (values : List Expr)
  | choice (branches : List (Expr × List Piece)) (otherwise : List Piece)
  | loop (target : Target) (source : Expr) (condition : Option Expr) (recursive : Bool)
      (body otherwise : List Piece)
  | set (target : Target) (value : Expr)
  | setBlock (target : Target) (filter : Option Expr) (body : List Piece)
  | block (name : String) (exposed required : Bool) (body : List Piece)
  | extend (template : Expr)
  | load (template : Expr) (ignoreMissing withContext : Bool)
  | define (name : String) (signature : Signature) (body : List Piece)
  | withValues (bindings : List (Target × Expr)) (body : List Piece)
  | filtered (filter : Expr) (body : List Piece)
  | callWith (function : Expr) (given : Given Expr) (signature : Signature) (body : List Piece)
  | importAs (template : Expr) (name : String) (withContext : Bool)
  | importNames (template : Expr) (names : List (String × String)) (withContext : Bool)
  | escaping (condition : Expr) (body : List Piece)

structure Block where
  name : String
  exposed : Bool := false
  required : Bool := false
  body : List Piece

/-! ## Names in expressions -/

def manyLevels : Nat := 1000000

namespace Expr

def mapParts {m : Type -> Type} [Monad m] (f : Expr -> m Expr) (expr : Expr) : m Expr := do
  let second {κ : Type} (pairs : List (κ × Expr)) : m (List (κ × Expr)) :=
    pairs.mapM fun (key, value) => return (key, <- f value)
  let within (given : Given Expr) : m (Given Expr) :=
    return ⟨<- given.placed.mapM f, <- second given.named, <- given.spread.mapM f, <- given.spreadNamed.mapM f⟩
  match expr with
  | .const _ | .name _ => return expr
  | .tuple items => return .tuple (<- items.mapM f)
  | .list items => return .list (<- items.mapM f)
  | .map pairs => return .map (<- pairs.mapM fun (key, value) => return (<- f key, <- f value))
  | .member target own => return .member (<- f target) own
  | .item target index => return .item (<- f target) (<- f index)
  | .slice start stop step => return .slice (<- start.mapM f) (<- stop.mapM f) (<- step.mapM f)
  | .call function given => return .call (<- f function) (<- within given)
  | .filter own target given => return .filter own (<- target.mapM f) (<- within given)
  | .test own target given => return .test own (<- f target) (<- within given)
  | .negative target => return .negative (<- f target)
  | .positive target => return .positive (<- f target)
  | .binary operation left right => return .binary operation (<- f left) (<- f right)
  | .both left right => return .both (<- f left) (<- f right)
  | .either left right => return .either (<- f left) (<- f right)
  | .not target => return .not (<- f target)
  | .compare first rest => return .compare (<- f first) (<- second rest)
  | .concat parts => return .concat (<- parts.mapM f)
  | .choose condition yes no => return .choose (<- f condition) (<- f yes) (<- no.mapM f)

def noteNames : (fuel : Nat) -> Expr -> StateM (List String) Expr
  | 0, expr => return expr
  | fuel + 1, expr => do
    if let .name own := expr then modify (· ++ [own])
    expr.mapParts (noteNames fuel)

def names (expr : Expr) : List String :=
  ((noteNames manyLevels expr).run []).2

end Expr

namespace Target

mutual

def names : Target -> List String
  | .name own => [own]
  | .field _ _ => []
  | .several targets => namesOfAll targets

def namesOfAll : List Target -> List String
  | [] => []
  | target :: rest => target.names ++ namesOfAll rest

end

mutual

def holders : Target -> List String
  | .name _ => []
  | .field holder _ => [holder]
  | .several targets => holdersOfAll targets

def holdersOfAll : List Target -> List String
  | [] => []
  | target :: rest => target.holders ++ holdersOfAll rest

end

end Target

/-! ## Names in pieces -/

inductive Mention where
  | read (name : String)
  | bound (name : String)
  deriving DecidableEq

namespace Mention

def ofExpr (e : Expr) : List Mention :=
  e.names.map .read

def ofExprs (es : List Expr) : List Mention :=
  es.flatMap ofExpr

def ofTarget (target : Target) : List Mention :=
  target.names.map .bound

def ofSignature (signature : Signature) : List Mention :=
  signature.parameters.map .bound ++ ofExprs signature.defaults

mutual

/-- The names in a piece, in order.  The bodies of blocks count only with `blocks`. -/
def ofPiece (blocks : Bool) : Piece -> List Mention
  | .data _ => []
  | .print values => ofExprs values
  | .choice branches otherwise => ofBranches blocks branches ++ ofPieces blocks otherwise
  | .loop target source condition _ body otherwise =>
    ofTarget target ++ ofExpr source ++ ofPieces blocks body ++ ofPieces blocks otherwise ++ (condition.map ofExpr).getD []
  | .set target value => ofTarget target ++ ofExpr value
  | .setBlock target filter body =>
    ofTarget target ++ (filter.map ofExpr).getD [] ++ ofPieces blocks body
  | .block _ _ _ body => if blocks then ofPieces blocks body else []
  | .extend template | .load template _ _ | .importAs template _ _ | .importNames template _ _ =>
    ofExpr template
  | .define _ signature body => ofSignature signature ++ ofPieces blocks body
  | .withValues bindings body =>
    bindings.flatMap (fun binding => ofTarget binding.1) ++
      bindings.flatMap (fun binding => ofExpr binding.2) ++ ofPieces blocks body
  | .filtered filter body => ofPieces blocks body ++ ofExpr filter
  | .callWith function given signature body =>
    ofExpr (.call function given) ++ ofSignature signature ++ ofPieces blocks body
  | .escaping condition body => ofExpr condition ++ ofPieces blocks body

def ofPieces (blocks : Bool) : List Piece -> List Mention
  | [] => []
  | piece :: rest => ofPiece blocks piece ++ ofPieces blocks rest

def ofBranches (blocks : Bool) : List (Expr × List Piece) -> List Mention
  | [] => []
  | (condition, body) :: rest =>
    ofExpr condition ++ ofPieces blocks body ++ ofBranches blocks rest

end

end Mention

def readFirst (wanted : List String) : List Mention -> List String
  | [] => []
  | .read name :: rest =>
    if wanted.contains name then name :: readFirst wanted rest else readFirst wanted rest
  | .bound name :: rest => readFirst (wanted.filter (· != name)) rest

def reads (pieces : List Piece) (name : String) : Bool :=
  !(readFirst [name] (Mention.ofPieces false pieces)).isEmpty

/-! ## Blocks in pieces -/

def Piece.bodies : Piece -> List (List Piece)
  | .choice branches otherwise => branches.map (·.2) ++ [otherwise]
  | .loop _ _ _ _ body otherwise => [body, otherwise]
  | .block _ _ _ body | .setBlock _ _ body | .define _ _ body | .withValues _ body |
      .filtered _ body | .callWith _ _ _ body | .escaping _ body => [body]
  | _ => []

def allPiecesAt : (fuel : Nat) -> List Piece -> List Piece
  | 0, pieces => pieces
  | fuel + 1, pieces => pieces.flatMap fun piece => piece :: allPiecesAt fuel piece.bodies.flatten

def allPieces (pieces : List Piece) : List Piece :=
  allPiecesAt manyLevels pieces

def blocksOfPieces (pieces : List Piece) : List Block :=
  (allPieces pieces).filterMap fun
    | .block name exposed required body => some { name, exposed, required, body }
    | _ => none

structure Sheet where
  name : String
  pieces : List Piece
  blocks : List Block

def Sheet.isExtension (sheet : Sheet) : Bool :=
  (allPieces sheet.pieces).any fun piece => piece matches .extend _

end Refinery.Template
