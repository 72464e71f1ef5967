import Refinery.Format.Spec

namespace Refinery.Format

/-!
# Texts with fields in braces
-/

structure Field where
  name : List Char
  conversion : Option Char := none
  specification : List Char := []
  nested : Bool := false

inductive Step where
  | member (name : String)
  | key (name : String)
  | index (number : Nat)
  deriving DecidableEq

structure Values (m : Type -> Type) (α : Type) where
  numbered : Nat -> m α
  named : String -> m α
  enter : α -> Step -> m α
  convert : Char -> α -> m α
  write : String -> α -> m String

inductive Numbering where
  | open
  | counted (next : Nat)
  | explicit
  deriving DecidableEq

def fieldName : (inside : Bool) -> List Char -> Except Failure (List Char × Option Char × List Char)
  | _, [] => .ok ([], none, [])
  | inside, c :: rest => do
    if !inside && c == '\x7b' then throw .badValue
    if !inside && "\x7d:!".contains c then return ([], some c, rest)
    let (name, sign, left) <- fieldName (if inside then c != ']' else c == '[') rest
    return (c :: name, sign, left)

def specification : (depth : Nat) -> List Char -> Option (List Char × List Char)
  | _, [] => none
  | 0, '\x7d' :: rest => some ([], rest)
  | depth, c :: rest =>
    let depth := if c == '\x7b' then depth + 1 else if c == '\x7d' then depth - 1 else depth
    (specification depth rest).map fun (spec, left) => (c :: spec, left)

def field (cs : List Char) : Except Failure (Field × List Char) := do
  let specified (name : List Char) (conversion : Option Char) (rest : List Char) :
      Except Failure (Field × List Char) := do
    let some (spec, left) := specification 0 rest | throw .badValue
    return ({ name, conversion, specification := spec, nested := spec.contains '\x7b' }, left)
  let (name, sign, rest) <- fieldName false cs
  match sign, rest with
  | some '\x7d', _ => return ({ name }, rest)
  | some ':', _ => specified name none rest
  | some _, conversion :: '\x7d' :: left => return ({ name, conversion := some conversion }, left)
  | some _, conversion :: ':' :: left => specified name (some conversion) left
  | _, _ => throw .badValue

def literal (cs : List Char) : Except Failure (List Char × Bool × List Char) :=
  let plain := cs.takeWhile fun c => c != '\x7b' && c != '\x7d'
  match cs.drop plain.length with
  | [] => .ok (plain, false, [])
  | '\x7b' :: '\x7b' :: rest => .ok (plain ++ ['\x7b'], false, rest)
  | '\x7d' :: '\x7d' :: rest => .ok (plain ++ ['\x7d'], false, rest)
  | ['\x7b'] => .error .badValue
  | '\x7b' :: rest => .ok (plain, true, rest)
  | _ => .error .badValue

def position? (cs : List Char) : Except Failure (Option Nat) :=
  match Spec.number? cs with
  | (some n, []) => if Spec.largest < n then .error .badValue else .ok (some n)
  | _ => .ok none

def steps : (fuel : Nat) -> List Char -> List (Except Failure Step)
  | 0, _ => []
  | _, [] => []
  | fuel + 1, '.' :: rest =>
    let name := rest.takeWhile fun c => c != '.' && c != '['
    if name.isEmpty then [.error .badValue]
    else .ok (.member (String.ofList name)) :: steps fuel (rest.drop name.length)
  | fuel + 1, '[' :: rest =>
    let inner := rest.takeWhile (· != ']')
    let after := rest.drop (inner.length + 1)
    if inner.isEmpty || inner.length = rest.length then [.error .badValue]
    else
      (match position? inner with
        | .ok (some n) => .ok (.index n)
        | .ok none => .ok (.key (String.ofList inner))
        | .error e => .error e) :: steps fuel after
  | _, _ => [.error .badValue]

variable {m : Type -> Type} {α : Type} [Monad m] [MonadExceptOf Failure m]

def valueOf (values : Values m α) (numbering : Numbering) (name : List Char) : m (α × Numbering) := do
  let first := name.takeWhile fun c => c != '.' && c != '['
  let rest := name.drop first.length
  let position <- liftExcept (position? first)
  let (value, numbering) <-
    match first, position, numbering with
    | [], _, .open => pure (<- values.numbered 0, Numbering.counted 1)
    | [], _, .counted next => pure (<- values.numbered next, Numbering.counted (next + 1))
    | [], _, .explicit | _, some _, .counted _ => throw Failure.badValue
    | _, some n, _ => pure (<- values.numbered n, Numbering.explicit)
    | _, none, _ => pure (<- values.named (String.ofList first), numbering)
  let value <- (steps (rest.length + 1) rest).foldlM (fun value step => do
    values.enter value (<- liftExcept step)) value
  return (value, numbering)

/-- Fill in fields, where `depth` bounds fields within specifications. -/
def fillFrom (values : Values m α) : (depth fuel : Nat) -> Numbering -> List Char -> m (String × Numbering)
  | 0, _, _, _ => throw Failure.badValue
  | _, 0, numbering, _ => pure ("", numbering)
  | _, _, numbering, [] => pure ("", numbering)
  | depth + 1, fuel + 1, numbering, cs => do
    let (plain, follows, rest) <- liftExcept (literal cs)
    let (written, numbering, rest) <-
      if follows then
        let (found, rest) <- liftExcept (field rest)
        let (value, numbering) <- valueOf values numbering found.name
        let value <- found.conversion.elim (pure value) (values.convert · value)
        let (spec, numbering) <-
          if found.nested then
            fillFrom values depth (found.specification.length + 1) numbering found.specification
          else pure (String.ofList found.specification, numbering)
        pure (<- values.write spec value, numbering, rest)
      else pure ("", numbering, rest)
    let (others, numbering) <- fillFrom values (depth + 1) fuel numbering rest
    return (String.ofList plain ++ written ++ others, numbering)
termination_by depth fuel => (depth, fuel)

def fill (values : Values m α) (text : String) : m String := do
  return (<- fillFrom values 2 (text.length + 1) .open text.toList).1

/-! ## Texts by name -/

def texts (named : List (String × String)) : Values (Except Failure) String where
  numbered _ := .error .noIndex
  named name := (named.lookup name).getDM (throw (.noKey (Text.quoted name)))
  enter value
    | .member _ => .error .noMember
    | .key _ => .error .wrongKind
    | .index n => return String.singleton (<- value.toList[n]?.getDM (throw .noIndex))
  convert
    | 's', value => .ok value
    | 'r', value => .ok (Text.quoted value)
    | 'a', value => .ok (Text.quotedAscii value)
    | _, _ => .error .badValue
  write := text

def fillTexts (named : List (String × String)) (pattern : String) : Except Failure String :=
  fill (texts named) pattern

end Refinery.Format
