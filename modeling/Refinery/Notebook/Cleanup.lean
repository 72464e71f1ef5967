import Refinery.Workspace.Files

namespace Refinery.Notebook

open Job

/-!
# Deleting what notebooks left behind
-/

def restTime : Nat := 60 * 60 * 8

def isRecent : Doc -> Bool
  | .int n => n ≤ restTime
  | .real x => x.toFloat ≤ restTime.toFloat
  | _ => true

def mayDelete (name : String) (age : Doc) (shown : String) : Job Bool := do
  if Text.startsWith name "perm" then
    printLine ("Skipping '" ++ name ++ "' due to name starting with 'perm'.")
    return false
  if isRecent age then
    printLine ("Skipping '" ++ name ++ "' due update_time being '" ++ shown ++
      "', which is less than '" ++ toString restTime ++ "'.")
    return false
  return true

def shownAge : Doc -> String
  | .int n => toString n ++ ".0"
  | age => age.display

def resourceKinds : List (String × List (String × Doc)) :=
  [("dataset", []), ("endpoint", [("force", .bool true)]), ("model", [])]

def delete (kind : String) (options : List (String × Doc)) (resource : Resource) : Job Unit := do
  call "delete" [.text kind, .text resource.name, .fields options]
  if let some text := resource.refusal then printLine text

def cleanKind (dry : Bool) (kind : String) (options : List (String × Doc)) : Job Unit := do
  printLine ("Fetching " ++ kind ++ "'s...")
  call "list" [.text kind]
  let resources := ((<- get).services.resources.lookup kind).getD []
  printLine ("Found " ++ toString resources.length ++ " " ++ kind ++ "'s")
  resources.forM fun resource => do
    if <- mayDelete resource.name resource.age (shownAge resource.age) then
      if dry then printLine ("Will delete '" ++ kind ++ "': " ++ resource.name)
      else delete kind options resource

def cleanUp (dry : Bool := false) : Job Unit :=
  resourceKinds.forM fun (kind, options) => cleanKind dry kind options

end Refinery.Notebook
