import Refinery.Workspace.Files

namespace Refinery
namespace Doc

/-!
# Fields of documents

A document of the wrong shape is a failure of its own kind.
-/

variable (doc : Doc) (name : String)

def entry : Except Failure Doc :=
  match doc with
  | .map fields =>
    match lookup (.text name) fields with
    | some value => .ok value
    | none => .error (.noKey (Text.quoted name))
  | _ => .error .wrongKind

def entry? : Except Failure (Option Doc) :=
  match doc with
  | .map fields => .ok (lookup (.text name) fields)
  | _ => .error .noMember

def entryOrNull : Except Failure Doc := do
  return (<- doc.entry? name).getD .null

def holds : Except Failure Bool :=
  match doc with
  | .map fields => .ok (lookup (.text name) fields).isSome
  | .list items | .tuple items | .set items => .ok (items.any (·.same (.text name)))
  | .text s => .ok (Text.contains s name)
  | _ => .error .wrongKind

def put (value : Doc) : Except Failure Doc :=
  match doc with
  | .map fields => .ok (.map (assign (.text name) value fields))
  | _ => .error .wrongKind

def putIn (outer name : String) (value : Doc) : Except Failure Doc := do
  doc.put outer (<- (<- doc.entry outer).put name value)

def needText : Doc -> Except Failure String
  | .text s => .ok s
  | _ => .error .wrongKind

def each : Doc -> Except Failure (List Doc)
  | .list items | .tuple items | .set items => .ok items
  | .map fields => .ok (fields.map (·.1))
  | .text s => .ok (s.toList.map fun c => .text (String.singleton c))
  | .bytes b => .ok (b.toList.map fun n => .int n.toNat)
  | _ => .error .wrongKind

/-! Reading with a default: what is missing or of another kind counts as nothing. -/

def get : Doc :=
  match doc with
  | .map fields => (lookup (.text name) fields).getD .null
  | _ => .null

def items : Doc -> List Doc
  | .list items => items
  | _ => []

def pairs : Doc -> List (String × Doc)
  | .map fields => fields.map fun (key, value) => (key.asText?.getD "", value)
  | _ => []

def str (usual : String := "") : String :=
  doc.asText?.getD usual

def int' (usual : Int := 0) : Int :=
  match doc with
  | .int n => n
  | _ => usual

end Doc

namespace Job

def readJson (path : String) : Job Doc := do
  let text <- readText path
  need .badJson (Json.parse? text)

def writeJson (path : String) (indentation : Nat) (doc : Doc) : Job Unit := do
  writeText path ((Json.print? (.indented indentation) doc).getD "")

end Job
end Refinery
