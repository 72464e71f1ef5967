import Refinery.Failure

namespace Refinery.CommandLine

open Text

/-!
# Command lines

Options start with two hyphens; other words are positions.
-/

structure Options where
  valued : List String
  flags : List String := []

structure Words where
  values : List (String × String) := []
  flags : List String := []
  positions : List String := []

namespace Words

def all (words : Words) (name : String) : List String :=
  (words.values.filter (·.1 = name)).map (·.2)

def last? (words : Words) (name : String) : Option String :=
  (words.all name).getLast?

end Words

def read (options : Options) : List String -> Except Failure Words
  | [] => .ok {}
  | "--" :: rest => .ok { positions := rest }
  | word :: rest =>
    if startsWith word "-" && word.length > 1 then
      match cut? "=" word with
      | some (name, value) =>
        if options.valued.contains name then do
          let words <- read options rest
          return { words with values := (name, value) :: words.values }
        else if options.flags.contains name then .error (.option .strayValue)
        else .error (.option .unknownOption)
      | none =>
        if options.valued.contains word then
          match rest with
          | value :: rest => do
            let words <- read options rest
            return { words with values := (word, value) :: words.values }
          | [] => .error (.option .strayValue)
        else if options.flags.contains word then do
          let words <- read options rest
          return { words with flags := word :: words.flags }
        else .error (.option .unknownOption)
    else do
      let words <- read options rest
      return { words with positions := word :: words.positions }

/-! ## Shortened options -/

inductive Arity where
  | one
  | atMostOne
  deriving DecidableEq

def isDigits (s : String) : Bool :=
  s.toList.all Char.isDigit

def isNegativeNumber (word : String) : Bool :=
  match split "." (drop 1 word) with
  | [whole] => whole ≠ "" && isDigits whole
  | [whole, fraction] => fraction ≠ "" && isDigits whole && isDigits fraction
  | _ => false

def isValue (options : List (String × Arity)) (word : String) : Bool :=
  !Text.startsWith word "-" || word = "-" || ((options.lookup word).isNone && (isNegativeNumber word || contains word " ") &&
      !options.any fun (name, _) => startsWith word "--" &&
        startsWith name ((split "=" word).headD ""))

def optionOf? (options : List (String × Arity)) (word : String) : Option (String × Arity × Option String) :=
  match options.find? (·.1 = word) with
  | some (name, arity) => some (name, arity, none)
  | none =>
    let (start, value) := match cut? "=" word with
      | some (start, value) => (start, some value)
      | none => (word, none)
    if !Text.startsWith word "--" then none
    else
      match options.find? (·.1 = start) with
      | some (name, arity) => some (name, arity, value)
      | none =>
        match options.filter fun (name, _) => startsWith name start with
        | [(name, arity)] => some (name, arity, value)
        | _ => none

def readShortened? (options : List (String × Arity)) : List String -> Option (List (String × Option String))
  | [] => some []
  | word :: rest => do
    guard (word ≠ "--" && startsWith word "-")
    let (name, arity, value) <- optionOf? options word
    match value, rest with
    | some value, rest => return (name, some value) :: (<- readShortened? options rest)
    | none, next :: rest =>
      if isValue options next then return (name, some next) :: (<- readShortened? options rest)
      else
        guard (arity = .atMostOne)
        return (name, none) :: (<- readShortened? options (next :: rest))
    | none, [] =>
      guard (arity = .atMostOne)
      return [(name, none)]

end Refinery.CommandLine
