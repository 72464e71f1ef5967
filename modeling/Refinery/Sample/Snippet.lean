import Refinery.Workspace.Glob

namespace Refinery.Snippet

open Text

/-!
# Snippets of sample files

Tags in a file open and close named snippets, which may overlap.  Lines between exclusion tags belong to none,
and shared indentation is removed.
-/

inductive Mark where
  | opening (name : String)
  | closing (name : String)
  | excludeFrom
  | excludeTo
  | content
  deriving DecidableEq

def isNameChar (c : Char) : Bool :=
  ('a' ≤ c && c ≤ 'z') || ('0' ≤ c && c ≤ '9') || c == '_'

def tagHere? (tag : String) (text : List Char) : Option String :=
  if tag.toList.isPrefixOf text then
    let rest := text.drop tag.length
    let name := rest.takeWhile isNameChar
    match rest.dropWhile isNameChar with
    | ']' :: _ => if name.isEmpty then none else some (String.ofList name)
    | _ => none
  else none

def lastTag? (tag : String) : List Char -> Option String
  | [] => none
  | c :: rest =>
    match lastTag? tag rest with
    | some name => some name
    | none => tagHere? tag (c :: rest)

def markOf (excluding : Bool) (line : String) : Mark :=
  let opening := if excluding then none else lastTag? "[START " line.toList
  let closing := if excluding then none else lastTag? "[END " line.toList
  match opening, closing with
  | some name, _ => .opening name
  | none, some name => .closing name
  | none, none =>
    if contains line "[START_EXCLUDE]" then .excludeFrom
    else if contains line "[END_EXCLUDE]" then .excludeTo
    else .content

structure Progress where
  snippets : List (String × List String) := []
  openNames : List String := []
  excluding : Bool := false
  deriving DecidableEq

def Progress.take (p : Progress) (line : String) : Progress :=
  match markOf p.excluding line with
  | .opening name =>
    { p with
      openNames := if p.openNames.contains name then p.openNames else p.openNames ++ [name]
      snippets :=
        if p.snippets.any (·.1 == name) then p.snippets else p.snippets ++ [(name, [])] }
  | .closing name => { p with openNames := p.openNames.filter (· != name) }
  | .excludeFrom => { p with excluding := true }
  | .excludeTo => { p with excluding := false }
  | .content =>
    if p.excluding then p
    else
      { p with snippets := p.snippets.map fun (name, lines) =>
          if p.openNames.contains name then (name, lines ++ [line]) else (name, lines) }

def indentation (line : String) : Nat :=
  (line.toList.takeWhile (· == ' ')).length

def commonIndentation? (lines : List String) : Option Nat :=
  ((lines.filter (!Text.allBlank ·)).map indentation).min?

def trimIndentation (lines : List String) : Except Failure (List String) :=
  match commonIndentation? lines with
  | some count =>
    .ok (lines.map fun line => if allBlank line then "\n" else drop count line)
  | none => .error .badValue

def ofLines (lines : List String) : Except Failure (List (String × String)) :=
  (lines.foldl Progress.take {}).snippets.mapM fun (name, lines) => do
    return (name, String.join (<- trimIndentation lines))

def inFile (path : String) : Job (List (String × String)) := do
  if <- Job.exists? path then
    Job.ofExcept (ofLines (lines (<- Job.readText path)))
  else return []

def put (entries : List (String × String)) (entry : String × String) : List (String × String) :=
  if entries.any (·.1 == entry.1) then
    entries.map fun old => if old.1 == entry.1 then entry else old
  else entries ++ [entry]

def inFiles (patterns : List String) : Job (List (String × String)) := do
  let files <- patterns.mapM ShellGlob.paths
  files.flatten.foldlM (fun entries file => do return (<- inFile file).foldl put entries) []

end Refinery.Snippet
