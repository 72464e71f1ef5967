import Refinery.Template.Compare

namespace Refinery.Template.Entity

open Text

/-!
# Entities over several lines

Nested entities are written for readers, in lines of a width with the entries of maps in order, or as JSON.
-/

/-! ## For readers -/

def prettyWidth : Nat := 80

def prettyLess (store : Store) (a b : Entity) : Except Failure Bool :=
  match before store false nesting a b with
  | .error .wrongKind => .ok (decide (a.kindName store < b.kindName store))
  | outcome => outcome

def prettyPairs (store : Store) (pairs : List (Entity × Entity)) : Except Failure (List (Entity × Entity)) :=
  Sorting.sort (fun a b => prettyLess store a.1 b.1) pairs

def prettyLine (store : Store) : (fuel : Nat) -> (inside : List Nat) -> Entity -> Except Failure String
  | 0, _, _ => .error .tooDeep
  | fuel + 1, inside, entity =>
    match entity with
    | .tuple [one] => do return "(" ++ (<- prettyLine store fuel inside one) ++ ",)"
    | .tuple items => do
      return "(" ++ join ", " (<- items.mapM (prettyLine store fuel inside)) ++ ")"
    | .cell number =>
      let recursion : String :=
        "<Recursion on " ++ entity.kindName store ++ " with id=140000000000000>"
      match store[number]? with
      | some (.list items) => do
        if inside.contains number then return recursion
        return "[" ++ join ", "
          (<- items.toList.mapM (prettyLine store fuel (number :: inside))) ++ "]"
      | some (.map pairs) => do
        if inside.contains number then return recursion
        let entries <- (<- prettyPairs store pairs).mapM fun (key, value) => do
          return (<- prettyLine store fuel (number :: inside) key) ++ ": " ++ (<- prettyLine store fuel (number :: inside) value)
        return "\x7b" ++ join ", " entries ++ "\x7d"
      | _ => entity.quoted store
    | _ => entity.quoted store

def wordsWithBlanks : (fuel : Nat) -> List Char -> List String
  | 0, _ => []
  | _, [] => []
  | fuel + 1, cs =>
    let word := cs.takeWhile fun c => !Text.isBlank c
    let blanks := (cs.drop word.length).takeWhile isBlank
    String.ofList (word ++ blanks) :: wordsWithBlanks fuel (cs.drop (word.length + blanks.length))

def fitWords (width : Nat) (allowance : Nat) (isLast : Bool) : (current : String) -> List String -> List String
  | current, [] => if current.isEmpty then [] else [Text.quoted current]
  | current, word :: rest =>
    let room := if isLast && rest.isEmpty then width - allowance else width
    let candidate := current ++ word
    if room < (Text.quoted candidate).length then
      (if current.isEmpty then [] else [Text.quoted current]) ++ fitWords width allowance isLast word rest
    else fitWords width allowance isLast candidate rest

def textChunks (width allowance : Nat) : List String -> List String
  | [] => []
  | line :: rest =>
    let isLast := rest.isEmpty
    let room := if isLast then width - allowance else width
    let whole := Text.quoted line
    (if whole.length ≤ room then [whole]
      else fitWords width allowance isLast "" (wordsWithBlanks (line.length + 1) line.toList)) ++ textChunks width allowance rest

def prettyText (s : String) (indent allowance level : Nat) : String :=
  if s.isEmpty then Text.quoted s
  else
    let outermost := level == 1
    let indent := if outermost then indent + 1 else indent
    let allowance := if outermost then allowance + 1 else allowance
    match textChunks (prettyWidth - indent) allowance (brokenLinesKept s) with
    | [one] => one
    | chunks =>
      let text := join ("\n" ++ repeated indent " ") chunks
      if outermost then "(" ++ text ++ ")" else text

def prettyAt (store : Store) : (fuel : Nat) -> (inside : List Nat) -> (indent allowance level : Nat) ->
    Entity -> Except Failure String
  | 0, _, _, _, _, _ => .error .tooDeep
  | fuel + 1, inside, indent, allowance, level, entity => do
    let line <- prettyLine store nesting inside entity
    let between : String := ",\n" ++ repeated (indent + 1) " "
    let last {α : Type} (items : List α) (place : Nat) (allowance : Nat) : Nat :=
      if place + 1 = items.length then allowance else 1
    let all (inside : List Nat) (items : List Entity) (allowance : Nat) : Except Failure String := do
      let texts <- items.zipIdx.mapM fun (item, place) =>
        prettyAt store fuel inside (indent + 1) (last items place allowance) (level + 1) item
      return join between texts
    if line.length + indent + allowance ≤ prettyWidth then return line
    match entity with
    | .text s => return prettyText s indent allowance (level + 1)
    | .tuple items =>
      let ending := if items.length = 1 then ",)" else ")"
      return "(" ++ (<- all inside items (allowance + ending.length)) ++ ending
    | .cell number =>
      match store[number]? with
      | some (.list items) =>
        if inside.contains number then return line
        return "[" ++ (<- all (number :: inside) items.toList (allowance + 1)) ++ "]"
      | some (.map pairs) =>
        if inside.contains number then return line
        let pairs <- prettyPairs store pairs
        let texts <- pairs.zipIdx.mapM fun ((key, value), place) => do
          let name <- prettyLine store nesting (number :: inside) key
          let written <- prettyAt store fuel (number :: inside) (indent + name.length + 3)
            (last pairs place (allowance + 1)) (level + 1) value
          return name ++ ": " ++ written
        return "\x7b" ++ join between texts ++ "\x7d"
      | _ => return line
    | _ => return line

def pretty (store : Store) (entity : Entity) : Except Failure String :=
  prettyAt store nesting [] 0 0 0 entity

/-! ## As JSON -/

def jsonName : Entity -> Except Failure String
  | .text s | .markup s => .ok s
  | .int n => wholeText n
  | .real x => .ok (Json.real x)
  | .bool b => .ok (if b then "true" else "false")
  | .null => .ok "null"
  | _ => .error .wrongKind

def jsonEnclosed (indent : Option String) (level : Nat) (opening closing : String) (items : List String) : String :=
  if items.isEmpty then opening ++ closing
  else
    match indent with
    | none => opening ++ join ", " items ++ closing
    | some unit =>
      let line (level : Nat) := "\n" ++ repeated level unit
      opening ++ line (level + 1) ++ join ("," ++ line (level + 1)) items ++ line level ++ closing

def jsonAt (store : Store) (indent : Option String) : (fuel : Nat) -> (inside : List Nat) ->
    (level : Nat) -> Entity -> Except Failure String
  | 0, _, _, _ => .error .tooDeep
  | fuel + 1, inside, level, entity =>
    let all (inside : List Nat) (items : List Entity) : Except Failure String := do
      return jsonEnclosed indent level "[" "]"
        (<- items.mapM (jsonAt store indent fuel inside (level + 1)))
    match entity with
    | .null => .ok "null"
    | .bool b => .ok (if b then "true" else "false")
    | .int n => wholeText n
    | .real x => .ok (Json.real x)
    | .text s | .markup s => .ok (Json.string s)
    | .cell number =>
      match store[number]? with
      | some (.list items) =>
        if inside.contains number then .error .badValue else all (number :: inside) items.toList
      | some (.map pairs) => do
        if inside.contains number then throw .badValue
        let pairs <- Sorting.sort (fun a b => before store false nesting a.1 b.1) pairs
        let fields <- pairs.mapM fun (key, value) => do
          let name <- jsonName key
          return Json.string name ++ ": " ++ (<- jsonAt store indent fuel (number :: inside) (level + 1) value)
        return jsonEnclosed indent level "\x7b" "\x7d" fields
      | _ => .error .wrongKind
    | _ =>
      match entity.tuple? with
      | some items => all inside items
      | none => .error .wrongKind

def json (store : Store) (indent : Option String) (entity : Entity) : Except Failure String := do
  let text <- jsonAt store indent nesting [] 0 entity
  return [("<", "\\u003c"), (">", "\\u003e"), ("&", "\\u0026"), ("'", "\\u0027")].foldl
    (fun text (before, after) => replace before after text) text

end Refinery.Template.Entity
