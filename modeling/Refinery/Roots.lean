import Refinery.Workspace.Files

namespace Refinery

open Job

/-!
# Tracked roots

A path is made relative to the longest root above it.
-/

namespace Roots

def byLength (roots : List Path) : List Path :=
  Sorting.ordered (fun a b => b.toString.length ≤ a.toString.length) roots

def insert (roots : List Path) (path : Path) : List Path :=
  byLength (roots ++ [path])

def relativize? (roots : List Path) (path : Path) : Option Path :=
  roots.findSome? path.relativeTo?

def add (path : Path) : Job Unit :=
  note fun s => { s with roots := insert s.roots path }

def relativize (path : Path) : Job Path := do
  match relativize? (<- session).roots path with
  | some relative => return relative
  | none => complain (.untracked path)

def all : Job (List Path) := do
  return byLength (Sorting.ordered (fun a b => Text.le a.toString b.toString) (<- session).roots)

end Roots

/-!
## The staging directory

The default version is handled last.
-/

namespace Staging

def usual : Path :=
  Path.ofString "owl-bot-staging"

def order (names : List String) (defaultVersion : Option String) : List String :=
  Text.sorted (names.filter fun name => some name ≠ defaultVersion) ++ defaultVersion.toList

def versions (defaultVersion : Option String := none) (place : Option String := none) :
    Job (List Path) := do
  let staging : Path := match place with
    | some text => if text = "" then usual else Path.ofString text
    | none => usual
  if !(<- isDirectory staging) then return []
  let names <- (<- list staging).filterM fun name => isDirectory (staging.child name)
  let found := (order names defaultVersion).map fun (name : String) => staging / name
  found.forM Roots.add
  return found

def remove : Job Unit := do
  if <- isDirectory usual then removeTree usual

end Staging

end Refinery
