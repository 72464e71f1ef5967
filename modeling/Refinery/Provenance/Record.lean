import Refinery.Json
import Refinery.Pattern.Match

namespace Refinery

open Text Pattern

/-!
# Provenance records

A record says where the files of a library came from and where they went.
-/

structure GitSource where
  name : String := ""
  remote : String := ""
  sha : String := ""
  internalRef : String := ""
  localPath : String := ""
  log : String := ""
  deriving DecidableEq

structure GeneratorSource where
  name : String := ""
  version : String := ""
  dockerImage : String := ""
  deriving DecidableEq

structure TemplateSource where
  name : String := ""
  origin : String := ""
  version : String := ""
  deriving DecidableEq

inductive Source where
  | unset
  | git (source : GitSource)
  | generator (source : GeneratorSource)
  | template (source : TemplateSource)
  deriving DecidableEq

structure ClientDestination where
  source : String := ""
  apiName : String := ""
  apiVersion : String := ""
  language : String := ""
  generator : String := ""
  config : String := ""
  deriving DecidableEq

structure FileSetDestination where
  source : String := ""
  files : List String := []
  deriving DecidableEq

inductive Destination where
  | unset
  | client (destination : ClientDestination)
  | fileset (destination : FileSetDestination)
  deriving DecidableEq

structure Timestamp where
  seconds : Int
  nanos : Nat
  deriving DecidableEq

structure Record where
  updateTime : Option Timestamp := none
  sources : List Source := []
  destinations : List Destination := []
  newFiles : List String := []
  generatedFiles : List String := []
  deriving DecidableEq

namespace Source

def key : Source -> List String
  | unset => []
  | git s => ["git", s.name, s.remote, s.sha]
  | generator s => ["generator", s.name, s.version, s.dockerImage]
  | template s => ["template", s.name, s.origin, s.version]

def le (a b : Source) : Bool :=
  leAll a.key b.key

def forgetLocalPath : Source -> Source
  | git s => git { s with localPath := "" }
  | other => other

end Source

namespace Record

variable (r : Record)

def addSource (source : Source) : Record :=
  { r with sources := r.sources ++ [source] }

def addDestination (destination : Destination) : Record :=
  { r with destinations := r.destinations ++ [destination] }

def addGeneratedFile (path : String) : Record :=
  { r with generatedFiles := r.generatedFiles ++ [path] }

def sortSources : Record :=
  { r with sources := Sorting.ordered Source.le r.sources }

def forgetLocalPaths : Record :=
  { r with sources := r.sources.map Source.forgetLocalPath }

def gitSources : List (String × GitSource) :=
  r.sources.foldl (fun found source =>
    match source with
    | .git s =>
      if (found.lookup s.name).isSome then
        found.map fun entry => if entry.1 = s.name then (entry.1, s) else entry
      else found ++ [(s.name, s)]
    | _ => found) []

end Record

/-!
## Provenance records as JSON

Fields that have their default value are left out, but the kind of an entry stays visible.  When a record is
read, a field may have either of its two spellings; unknown fields, repeated fields and two kinds in one entry
are refused.
-/

namespace Timestamp

open Calendar

def span (first last : Char) : Pattern :=
  .among [.range first last]

def pair (a b c d : Char) : Pattern :=
  .seq (span a b) (span c d)

def tens (first last : Char) : Pattern :=
  .seq (span first last) (.ofKind .digit)

def civilPattern : Expression :=
  let dash := literal "-"
  let colon := literal ":"
  let year := times 4 (.ofKind .digit)
  let month := choice [pair '1' '1' '0' '2', pair '0' '0' '1' '9', span '1' '9']
  let day := choice [pair '3' '3' '0' '1', tens '1' '2', pair '0' '0' '1' '9',
    span '1' '9', pair ' ' ' ' '1' '9']
  let hour := choice [pair '2' '2' '0' '3', tens '0' '1', .ofKind .digit]
  let minute := choice [tens '0' '5', .ofKind .digit]
  let second := choice [pair '6' '6' '0' '1', tens '0' '5', .ofKind .digit]
  { pattern := .sequence [.group 1 year, dash, .group 2 month, dash, .group 3 day,
      .literal "T", .group 4 hour, colon, .group 5 minute, colon, .group 6 second]
    groups := 6
    names := [] }

def civilSeconds? (s : String) : Option Int := do
  let found <- civilPattern.matchStart? s
  guard (found.text.length = s.length)
  let part (index : Nat) : Option Nat := (Decimal.readWhole? 10 (found.group index)).map Int.toNat
  let year <- part 1
  let month <- part 2
  let day <- part 3
  let hour <- part 4
  let minute <- part 5
  let second <- part 6
  guard (1 ≤ year && day ≤ daysInMonth year month && second < 60)
  return daysFromCivil year month day * 86400 + (hour * 3600 + minute * 60 + second : Nat)

def zoneMinutes? (cs : List Char) : Option Int := do
  let hours := cs.takeWhile (· != ':')
  guard (hours.length < cs.length)
  let minutes := cs.drop (hours.length + 1)
  return (<- Decimal.readWhole? 10 (String.ofList hours)) * 60 + (<- Decimal.readWhole? 10 (String.ofList minutes))

def nanos? (fraction : List Char) : Option Nat := do
  if fraction.isEmpty then return 0
  guard (fraction.length ≤ 9)
  let part <- Decimal.readReal? (String.ofList ('0' :: '.' :: fraction))
  let scaled := Decimal.Double.ofFloat (part.toFloat * 1000000000.0)
  guard scaled.isFinite
  let (numerator, denominator) := scaled.size
  let nanos := Decimal.roundDiv numerator denominator
  guard (nanos < Nat.pow 2 31)
  return nanos

def zoneStart? (cs : List Char) : Option Nat :=
  match cs.findIdx? (· == 'Z') with
  | some i => some i
  | none =>
    match cs.findIdx? (· == '+') with
    | some i => some i
    | none => (cs.reverse.findIdx? (· == '-')).map (cs.length - 1 - ·)

def parse? (s : String) : Option Timestamp := do
  let cs := s.toList
  let zone <- zoneStart? cs
  let time := cs.take zone
  let whole := time.takeWhile (· != '.')
  let seconds <- civilSeconds? (String.ofList whole)
  let nanos <- nanos? (time.drop (whole.length + 1))
  let seconds <- match cs.drop zone with
    | ['Z'] => some seconds
    | '+' :: rest => (zoneMinutes? rest).map fun minutes => seconds - minutes * 60
    | '-' :: rest => (zoneMinutes? rest).map fun minutes => seconds + minutes * 60
    | _ => none
  let seconds := seconds + nanos / 1000000000
  guard (-62135596800 ≤ seconds && seconds ≤ 253402300799)
  return ⟨seconds, nanos % 1000000000⟩

def text (t : Timestamp) : String :=
  let days := Int.fdiv t.seconds 86400
  let rest := (t.seconds - days * 86400).toNat
  let (year, month, day) := civilFromDays days
  let two (n : Nat) := padLeft '0' 2 (toString n)
  let fraction :=
    if t.nanos = 0 then ""
    else if t.nanos % 1000000 = 0 then "." ++ padLeft '0' 3 (toString (t.nanos / 1000000))
    else if t.nanos % 1000 = 0 then "." ++ padLeft '0' 6 (toString (t.nanos / 1000))
    else "." ++ padLeft '0' 9 (toString t.nanos)
  padLeft '0' 4 (toString year) ++ "-" ++ two month ++ "-" ++ two day ++ "T" ++
    two (rest / 3600) ++ ":" ++ two (rest % 3600 / 60) ++ ":" ++ two (rest % 60) ++ fraction ++ "Z"

end Timestamp

namespace Record

/-! ## Writing -/

def textFields (pairs : List (String × String)) : Doc :=
  .fields ((pairs.filter (·.2 != "")).map fun pair => (pair.1, .text pair.2))

def texts (items : List String) : Doc :=
  .list (items.map .text)

def gitDoc (s : GitSource) : Doc :=
  textFields [("name", s.name), ("remote", s.remote), ("sha", s.sha),
    ("internalRef", s.internalRef), ("localPath", s.localPath), ("log", s.log)]

def sourceDoc : Source -> Doc
  | .unset => .map []
  | .git s => .fields [("git", gitDoc s)]
  | .generator s =>
    .fields [("generator", textFields [("name", s.name), ("version", s.version), ("dockerImage", s.dockerImage)])]
  | .template s =>
    .fields [("template", textFields [("name", s.name), ("origin", s.origin), ("version", s.version)])]

def destinationDoc : Destination -> Doc
  | .unset => .map []
  | .client d =>
    .fields [("client", textFields [("source", d.source), ("apiName", d.apiName),
      ("apiVersion", d.apiVersion), ("language", d.language), ("generator", d.generator), ("config", d.config)])]
  | .fileset d =>
    let source := if d.source = "" then [] else [("source", Doc.text d.source)]
    let files := if d.files.isEmpty then [] else [("files", texts d.files)]
    .fields [("fileset", .fields (source ++ files))]

def listField (name : String) (items : List Doc) : List (String × Doc) :=
  if items.isEmpty then [] else [(name, .list items)]

def doc (r : Record) : Doc :=
  .fields ((match r.updateTime with
      | some t => [("updateTime", .text t.text)]
      | none => []) ++ listField "sources" (r.sources.map sourceDoc) ++
    listField "destinations" (r.destinations.map destinationDoc) ++
    listField "newFiles" (r.newFiles.map fun path => textFields [("path", path)]) ++
    listField "generatedFiles" (r.generatedFiles.map .text))

def print (r : Record) : String :=
  (Json.print? (.indented 2) r.doc).getD ""

/-! ## Reading -/

def fieldsOf? : Doc -> Option (List (String × Doc))
  | .map fields => fields.mapM fun field => field.1.asText?.map fun name => (name, field.2)
  | .list [] => some []
  | .text "" => some []
  | _ => none

def readFields {α : Type} (start : α) (set : α -> String -> Doc -> Option α) (doc : Doc) : Option α := do
  let fields <- fieldsOf? doc
  fields.foldlM (fun entry field => set entry field.1 field.2) start

def text? : Doc -> Option String
  | .text s => if encodable s then some s else none
  | _ => none

def textOr? : Doc -> Option String
  | .null => some ""
  | value => text? value

def texts? : Doc -> Option (List String)
  | .null => some []
  | .list items => items.mapM text?
  | _ => none

def git? : Doc -> Option GitSource :=
  readFields {} fun s name value => do
    let text <- textOr? value
    match name with
    | "name" => some { s with name := text }
    | "remote" => some { s with remote := text }
    | "sha" => some { s with sha := text }
    | "internalRef" | "internal_ref" => some { s with internalRef := text }
    | "localPath" | "local_path" => some { s with localPath := text }
    | "log" => some { s with log := text }
    | _ => none

def generator? : Doc -> Option GeneratorSource :=
  readFields {} fun s name value => do
    let text <- textOr? value
    match name with
    | "name" => some { s with name := text }
    | "version" => some { s with version := text }
    | "dockerImage" | "docker_image" => some { s with dockerImage := text }
    | _ => none

def template? : Doc -> Option TemplateSource :=
  readFields {} fun s name value => do
    let text <- textOr? value
    match name with
    | "name" => some { s with name := text }
    | "origin" => some { s with origin := text }
    | "version" => some { s with version := text }
    | _ => none

def client? : Doc -> Option ClientDestination :=
  readFields {} fun d name value => do
    let text <- textOr? value
    match name with
    | "source" => some { d with source := text }
    | "apiName" | "api_name" => some { d with apiName := text }
    | "apiVersion" | "api_version" => some { d with apiVersion := text }
    | "language" => some { d with language := text }
    | "generator" => some { d with generator := text }
    | "config" => some { d with config := text }
    | _ => none

def fileset? : Doc -> Option FileSetDestination :=
  readFields {} fun d name value =>
    match name with
    | "source" => (textOr? value).map fun text => { d with source := text }
    | "files" => (texts? value).map fun files => { d with files := files }
    | _ => none

def oneOf? {α : Type} (unset : α) (kinds : List (String × (Doc -> Option α))) (doc : Doc) :
    Option α := do
  let fields <- fieldsOf? doc
  let chosen <- fields.foldlM (fun (chosen : Option α) field => do
    let read <- kinds.lookup field.1
    match field.2 with
    | .null => some chosen
    | value => if chosen.isSome then none else some (some (<- read value))) none
  return chosen.getD unset

def source? : Doc -> Option Source :=
  oneOf? .unset [("git", fun d => (git? d).map .git), ("generator", fun d => (generator? d).map .generator),
    ("template", fun d => (template? d).map .template)]

def destination? : Doc -> Option Destination :=
  oneOf? .unset [("client", fun d => (client? d).map .client), ("fileset", fun d => (fileset? d).map .fileset)]

def newFile? : Doc -> Option String :=
  readFields "" fun _ name value => if name = "path" then textOr? value else none

def entries? {α : Type} (read : Doc -> Option α) : Doc -> Option (List α)
  | .null => some []
  | .list items => items.mapM fun item =>
    match item with
    | .null => none
    | other => read other
  | _ => none

def ofDoc? : Doc -> Option Record :=
  readFields {} fun r name value =>
    match name with
    | "updateTime" | "update_time" =>
      match value with
      | .null => some { r with updateTime := none }
      | .text s => (Timestamp.parse? s).map fun t => { r with updateTime := some t }
      | _ => none
    | "sources" => (entries? source? value).map fun items => { r with sources := items }
    | "destinations" =>
      (entries? destination? value).map fun items => { r with destinations := items }
    | "newFiles" | "new_files" =>
      (entries? newFile? value).map fun items => { r with newFiles := items }
    | "generatedFiles" | "generated_files" =>
      (texts? value).map fun items => { r with generatedFiles := items }
    | _ => none

def fieldless : Doc -> Bool
  | .null | .bool _ | .int _ | .real _ => true
  | _ => false

def readText {α : Type} (read : Doc -> Option α) (s : String) : Except Failure α :=
  match Json.parse? s true with
  | none => .error .badRecord
  | some doc =>
    match read doc with
    | some value => .ok value
    | none => .error (if fieldless doc then .wrongKind else .badRecord)

def parse (s : String) : Except Failure Record :=
  readText ofDoc? s

end Record

structure Preclones where
  repositories : List (String × String) := []
  deriving DecidableEq

namespace Preclones

def pair? (field : Doc × Doc) : Option (String × String) := do
  return (<- Record.text? field.1, <- Record.text? field.2)

def ofDoc? : Doc -> Option Preclones :=
  Record.readFields {} fun p name value =>
    match name with
    | "preclonedRepos" | "precloned_repos" =>
      match value with
      | .null => some {}
      | .map fields =>
        (fields.mapM pair?).map fun pairs => { p with repositories := pairs }
      | _ => none
    | _ => none

def parse (s : String) : Except Failure Preclones :=
  Record.readText ofDoc? s

def doc (p : Preclones) : Doc :=
  if p.repositories.isEmpty then .map []
  else .fields [("preclonedRepos", .fields (p.repositories.map fun (url, dir) => (url, .text dir)))]

end Preclones

end Refinery
