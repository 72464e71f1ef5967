import Refinery.Repository
import Refinery.Sample.Metadata
import Refinery.Sample.Snippet

namespace Refinery.Npm

open Job Text Pattern

/-!
# Index files of packages
-/

def clientPattern : Expression :=
  ⟨sequence [literal "\x7b",
    .group 1 (.seq (zeroOrMore dot) (literal "Client")), literal "\x7d"], 1, [], none⟩

def clientsIn (content : String) : List String :=
  (clientPattern.matchesIn content.toList).1.map (·.group 1)

def clientsAt (path : String) : Job (List String) := do
  return clientsIn (<- readText path)

inductive Layout where
  | alone
  | shared
  | modules
  deriving DecidableEq

namespace Layout

def sources : Layout -> String
  | alone | shared => "src"
  | modules => "esm/src"

def versionFile : Layout -> String
  | alone | shared => ""
  | modules => "/index.js"

def messages : Layout -> String
  | alone | shared => "../protos/protos"
  | modules => "../../protos/protos.js"

end Layout

def heading (year : String) : List String :=
  ["// Copyright " ++ year ++ " Google LLC", "//", "// Licensed under the Apache License, Version 2.0 (the \"License\");",
    "// you may not use this file except in compliance with the License.", "// You may obtain a copy of the License at",
    "//", "//     https://www.apache.org/licenses/LICENSE-2.0", "//",
    "// Unless required by applicable law or agreed to in writing, software",
    "// distributed under the License is distributed on an \"AS IS\" BASIS,",
    "// WITHOUT WARRANTIES OR CONDITIONS OF ANY KIND, either express or implied.",
    "// See the License for the specific language governing permissions and", "// limitations under the License.", "//",
    "// ** This file is automatically generated by synthtool. **", "// ** https://github.com/googleapis/synthtool **",
    "// ** All changes to this file may be overwritten. **", ""]

def indexLines (layout : Layout) (year : String) (versions : List String) (default : String)
    (clients : List String) : List String :=
  let exported := "\x7b" ++ join ", " versions ++ ", " ++ join ", " clients ++ "\x7d;"
  heading year ++ versions.map (fun version =>
      "import * as " ++ version ++ " from './" ++ version ++ layout.versionFile ++ "';") ++ [""] ++ clients.flatMap (fun client =>
      ["const " ++ client ++ " = " ++ default ++ "." ++ client ++ ";",
        "type " ++ client ++ " = " ++ default ++ "." ++ client ++ ";"]) ++
    ["", "export " ++ exported, "export default " ++ exported,
      "import * as protos from '" ++ layout.messages ++ "';", "export \x7bprotos\x7d;"]

def indexText (layout : Layout) (year : String) (versions : List String) (default : String) (clients : List String) : String :=
  String.join ((indexLines layout year versions default clients).map (· ++ "\n"))

def requireDefault (versions : List String) (default : String) : Except Failure Unit :=
  if versions.isEmpty then .error (.complaint .noVersions)
  else if versions.contains default then .ok ()
  else .error (.complaint (.noDefaultVersion (quotedList versions) default))

def writeIndex (layout : Layout) (directory : Path) (year : String) (versions : List String)
    (default : String) : Job Unit := do
  Job.ofExcept (requireDefault versions default)
  let clients <- clientsAt (directory / layout.sources / default / "index.ts")
  if clients.isEmpty then complain (.noClient default)
  let target := directory / layout.sources / "index.ts"
  let target <- if layout = .alone then pure target else resolve target
  writeText target (indexText layout year (sorted versions) default clients)

/-!
## Package descriptions

The description of a package is completed with what documents need.
-/

def requiredFields : List String :=
  ["name", "repository", "engines"]

def requireFields (doc : Doc) : Except Failure Unit := do
  let present <- requiredFields.foldlM (fun all name =>
    if all then doc.holds name else .ok false) true
  if present then .ok () else .error (.complaint (.packageFields requiredFields))

def engineVersion? : List Char -> Option String
  | a :: b :: rest =>
    if a.isDigit && b.isDigit then some (String.ofList [a, b]) else engineVersion? (b :: rest)
  | _ => none

def engineOf (absent : Failure) (doc : Doc) : Except Failure String := do
  let text <- (<- (<- doc.entry "engines").entry "node").needText
  match engineVersion? text.toList with
  | some version => .ok version
  | none => .error absent

def complete (absent : Failure) (repository : RepositoryName) (doc : Doc) : Except Failure Doc := do
  let doc <- doc.put "repository" (.text (repository.owner ++ "/" ++ repository.name))
  let doc <- doc.put "repository_name" (.text repository.name)
  let doc <- doc.put "lib_install_cmd" (.text ("npm install " ++ (<- doc.entry "name").display))
  doc.put "engine" (.text (<- engineOf absent doc))

def describe (doc : Doc) : Except Failure Doc := do
  requireFields doc
  complete .noMember (<- RepositoryName.parse (<- (<- doc.entry "repository").needText)) doc

def describeShared (doc : Doc) : Except Failure Doc := do
  requireFields doc
  match <- doc.entry "repository" with
  | .text url =>
    let repository <- RepositoryName.parse url
    let doc <- doc.put "directory_path" (.text url)
    let doc <- doc.put "full_directory_path" (.text url)
    complete .unmetAssumption repository (<- doc.put "homepage" (.text url))
  | shared =>
    let repository <- RepositoryName.parse (<- (<- shared.entry "url").needText)
    let directory := (<- shared.entry "directory").display
    let doc <- doc.put "directory_path" (.text directory)
    let doc <- doc.put "full_directory_path"
      (.text (repository.owner ++ "/" ++ repository.name ++ "/" ++ directory))
    let doc <- doc.put "homepage" (<- doc.entry "homepage")
    complete .unmetAssumption repository doc

def read : Job Doc := do
  Job.ofExcept (describe (<- Job.readJson "./package.json"))

def readShared (directory : String) : Job Doc := do
  let path <- resolve (Path.ofString directory / "package.json")
  Job.ofExcept (describeShared (<- Job.readJson path))

def orEmpty (description : Job Doc) : Job Doc := do
  match <- attempt description with
  | .ok doc => return doc
  | .error (.absent _) => return .map []
  | .error failure => fail failure

def firstSnippet (path : String) : Job String := do
  return ((<- Snippet.inFile path).head?.map (·.2)).getD ""

def listedSamples (quickstart : String) (samples : List Doc) : Except Failure (List Doc) :=
  samples.filterM fun sample => do
    return !(<- sample.entry "file").same (.text "samples/quickstart.js") || quickstart ≠ ""

def withSamples (doc : Doc) (quickstart : String) (samples : List Doc) : Except Failure Doc := do
  let doc <- doc.put "quickstart" (.text quickstart)
  doc.put "samples" (.list (<- listedSamples quickstart samples))

def metadata : Job Doc := do
  let doc <- orEmpty read
  let samples <- Sample.inFiles ["samples/*.js"]
  let quickstart <- firstSnippet "samples/quickstart.js"
  Job.ofExcept (withSamples doc quickstart samples)

def fromPackages (file : String) : String :=
  match cut? "packages/" file with
  | some (_, rest) => "packages/" ++ String.ofList (rest.toList.takeWhile (· != '\n'))
  | none => file

def shortenFile (sample : Doc) : Except Failure Doc := do
  sample.put "file" (.text (fromPackages (<- (<- sample.entry "file").needText)))

def isTest (sample : Doc) : Except Failure Bool := do
  return contains (<- (<- sample.entry "file").needText) "test/"

def sharedMetadata (directory : String) : Job Doc := do
  let doc <- orEmpty (readShared directory)
  let samples <- Sample.inFiles [(Path.ofString directory / "samples/**/*.js").toString]
  let samples <- Job.ofExcept (samples.mapM shortenFile)
  let samples <- Job.ofExcept (samples.filterM fun sample => do return !(<- isTest sample))
  let quickstart <- firstSnippet
    (<- resolve (Path.ofString directory / "samples/quickstart.js"))
  let doc <- Job.ofExcept (withSamples doc quickstart samples)
  Job.ofExcept (doc.put "year" (.int (<- get).today.year))

def publishToken (package : String) : String :=
  replace "/" "-" (trimBy (· == '@') package) ++ "-npm-token"

end Refinery.Npm
