import Refinery.Text.Quoted
import Refinery.Text.Search

namespace Refinery

open Text

/-!
# Path values

A path is an anchor and a list of names.  Double dots stay: what they mean depends on the tree.
-/

inductive Anchor where
  | relative
  | slash
  | doubleSlash
  deriving DecidableEq, Inhabited

namespace Anchor

def text : Anchor -> String
  | relative => ""
  | slash => "/"
  | doubleSlash => "//"

end Anchor

structure Path where
  anchor : Anchor
  names : List String
  deriving DecidableEq, Inhabited

namespace Path

def here : Path :=
  ⟨.relative, []⟩

def top : Path :=
  ⟨.slash, []⟩

def namesOf (s : String) : List String :=
  (split "/" s).filter fun name => name != "" && name != "."

def anchorOf (s : String) : Anchor :=
  match (s.toList.takeWhile (· == '/')).length with
  | 0 => .relative
  | 2 => .doubleSlash
  | _ => .slash

def ofString (s : String) : Path :=
  ⟨anchorOf s, namesOf s⟩

variable (p : Path)

def toString : String :=
  if p.anchor = .relative && p.names.isEmpty then "."
  else p.anchor.text ++ join "/" p.names

instance : ToString Path :=
  ⟨toString⟩

def isAbsolute : Bool :=
  p.anchor != .relative

def append (q : Path) : Path :=
  if q.isAbsolute then q else ⟨p.anchor, p.names ++ q.names⟩

instance : HDiv Path Path Path :=
  ⟨append⟩

instance : HDiv Path String Path :=
  ⟨fun p s => p.append (ofString s)⟩

def child (name : String) : Path :=
  ⟨p.anchor, p.names ++ [name]⟩

def parent : Path :=
  ⟨p.anchor, p.names.dropLast⟩

def parents : List Path :=
  (List.range p.names.length).map fun i => ⟨p.anchor, p.names.take (p.names.length - 1 - i)⟩

def name : String :=
  p.names.getLast?.getD ""

def splitName (name : String) : String × String :=
  match cutLast? "." name with
  | some (stem, ending) =>
    if stem.isEmpty || ending.isEmpty then (name, "") else (stem, "." ++ ending)
  | none => (name, "")

def stem : String :=
  (splitName p.name).1

def ending : String :=
  (splitName p.name).2

def parts : List String :=
  if p.isAbsolute then p.anchor.text :: p.names else p.names

def relativeTo? (base : Path) : Option Path :=
  if p.anchor = base.anchor && base.names.isPrefixOf p.names then
    some ⟨.relative, p.names.drop base.names.length⟩
  else
    none

def isBelow (base : Path) : Bool :=
  (p.relativeTo? base).isSome

def le (q : Path) : Bool :=
  leAll p.parts q.parts

def shown : String :=
  "PosixPath(" ++ quoted p.toString ++ ")"

end Path

namespace PathText

/-!
## Paths as plain texts

Operations that keep repeated slashes, dots and a final slash.
-/

def splitLast (s : String) : String × String :=
  let back := s.toList.reverse
  let name := (back.takeWhile (· != '/')).reverse
  let head := back.dropWhile (· != '/')
  let trimmed := head.dropWhile (· == '/')
  (String.ofList (if trimmed.isEmpty then head else trimmed).reverse, String.ofList name)

def base (s : String) : String :=
  (splitLast s).2

def directory (s : String) : String :=
  (splitLast s).1

def join (s t : String) : String :=
  if startsWith t "/" then t
  else if s.isEmpty || endsWith s "/" then s ++ t
  else s ++ "/" ++ t

def collapse (absolute : Bool) : (back : List String) -> List String -> List String
  | back, [] => back.reverse
  | back, name :: rest =>
    if name = ".." then
      match back with
      | [] => if absolute then collapse absolute [] rest else collapse absolute [".."] rest
      | last :: before =>
        if last = ".." then collapse absolute (".." :: back) rest
        else collapse absolute before rest
    else
      collapse absolute (name :: back) rest

def normal (s : String) : String :=
  let p := Path.ofString s
  (Path.mk p.anchor (collapse p.isAbsolute [] p.names)).toString

def splitEnding (s : String) : String × String :=
  let name := base s
  let dots := (name.toList.takeWhile (· == '.')).length
  match cutLast? "." (drop dots name) with
  | some (_, ending) => (dropEnd (ending.length + 1) s, "." ++ ending)
  | none => (s, "")

end PathText
end Refinery
