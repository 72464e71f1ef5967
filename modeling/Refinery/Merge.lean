import Refinery.Pattern.Replace
import Refinery.Transfer
import Refinery.Yaml.Print

namespace Refinery
namespace Merge

open Pattern

/-!
# Keeping the year of a copyright line
-/

open Pattern (literal sequence ofKind times)

def copyrightLine (start : Pattern) (words : String) : Expression :=
  { pattern := sequence [start, literal words, .group 1 (times 4 (ofKind .digit)), literal " Google LLC", .boundary .lineEnd]
    groups := 1
    names := [] }

/-- Put the year of the first copyright line of `destination` into that of `source`. -/
def keepYear (line : Expression) (words source destination : String) : String :=
  match line.search? destination with
  | some found => line.replaceBy (words ++ found.group 1 ++ " Google LLC") source (some 1)
  | none => source

def commentLine : Expression :=
  copyrightLine (.boundary .lineStart) "# Copyright "

def anyLine : Expression :=
  copyrightLine .empty "Copyright "

def year : Merge := fun source destination _ =>
  .ok (keepYear anyLine "Copyright " source destination)

def versionSetter : Expression :=
  { pattern := sequence [.boundary .lineStart, oneOrMore (ofKind .blank),
      literal "VERSION = \"", oneOrMore (among [.kind .digit false, .one '.']),
      literal "\""]
    groups := 0
    names := [] }

def gem : Merge := fun source destination path =>
  let name := path.name
  .ok <| if name = "CHANGELOG.md" then destination
    else if name = "version.rb" && versionSetter.occursIn destination then destination
    else if Text.endsWith name ".rb" || name = "Rakefile" then
      keepYear commentLine "# Copyright " source destination
    else source

end Merge

namespace Merge

/-!
## Keeping settings of a library

Release settings are completed, and others are kept as they are.
-/

open Yaml (Value)

def releaseKey : String := "handleGHRelease"

mutual

def setField (number : Nat) (key : String) (item : Value) : Value -> Value
  | .leaf n doc => .leaf n doc
  | .list n items => .list n (setFieldItems number key item items)
  | .tuple items => .tuple (setFieldItems number key item items)
  | .set n items => .set n items
  | .map n pairs =>
    let pairs := setFieldPairs number key item pairs
    .map n (if n = number then Value.assign (.leaf 0 (.text key)) item pairs else pairs)

def setFieldItems (number : Nat) (key : String) (item : Value) : List Value -> List Value
  | [] => []
  | first :: rest => setField number key item first :: setFieldItems number key item rest

def setFieldPairs (number : Nat) (key : String) (item : Value) : List (Value × Value) -> List (Value × Value)
  | [] => []
  | (k, first) :: rest => (k, setField number key item first) :: setFieldPairs number key item rest

end

def mentions (name : String) : Value -> Except Failure Bool
  | .map _ pairs => .ok (Value.field? pairs name).isSome
  | .list _ items | .tuple items | .set _ items => .ok (items.any fun item => item.doc.same (.text name))
  | .leaf _ (.text text) => .ok (Text.contains text name)
  | .leaf _ _ => .error .wrongKind

def listedMaps : Value -> Except Failure (List Nat)
  | .list _ items => items.mapM fun item =>
    match item with
    | .map number _ => .ok number
    | _ => .error .wrongKind
  | .leaf _ (.text "") | .map _ [] | .set _ [] => .ok []
  | .leaf _ (.bytes b) => if b.isEmpty then .ok [] else .error .wrongKind
  | _ => .error .wrongKind

def completeRelease (text : String) : Except Failure String := do
  let settings <- Value.parse text
  if <- mentions releaseKey settings then return text
  match settings with
  | .map number pairs =>
    let handled := Value.leaf 0 (.bool true)
    let pairs := Value.assign (.leaf 0 (.text releaseKey)) handled pairs
    let branches <- match Value.field? pairs "branches" with
      | some branches => listedMaps branches
      | none => .ok []
    return Yaml.print (branches.foldl (fun settings branch =>
      setField branch releaseKey handled settings) (.map number pairs))
  | _ => throw .wrongKind

def commonFiles : Merge := fun source destination path =>
  let named (name : String) := path.matches? name == some true
  if named "pom.xml" || named "sync-repo-settings.yaml" then .ok destination
  else if named "release-please.yml" then completeRelease destination
  else .ok source

end Merge
end Refinery
