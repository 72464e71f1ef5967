import Refinery.Doc.Access
import Refinery.Pattern.Replace
import Refinery.Workspace.Glob
import Refinery.Yaml.Value

namespace Refinery
namespace Text

/-!
# Words inside a name

A name is split where a new word starts: at a capital letter after a small letter or a digit, and at the last
of several when one of these follows.
-/

def isCapital (c : Char) : Bool :=
  'A' ≤ c && c ≤ 'Z'

def isSmallOrDigit (c : Char) : Bool :=
  ('a' ≤ c && c ≤ 'z') || ('0' ≤ c && c ≤ '9')

def breakAcronyms : List Char -> List Char
  | x :: y :: z :: rest =>
    if isCapital x && isCapital y && isSmallOrDigit z then
      x :: ' ' :: breakAcronyms (y :: z :: rest)
    else
      x :: breakAcronyms (y :: z :: rest)
  | short => short

def breakWords : List Char -> List Char
  | x :: y :: rest =>
    if isSmallOrDigit x && isCapital y then x :: ' ' :: breakWords (y :: rest)
    else x :: breakWords (y :: rest)
  | short => short

def startCapital : List Char -> Except Failure (List Char)
  | [] => .ok []
  | '\\' :: _ => .error (.badPattern "bad escape (end of pattern) at position 0")
  | '\n' :: rest => .ok ('\n' :: rest)
  | c :: rest => .ok (upperChar c ++ rest)

def titleWords (name : String) : Except Failure String := do
  return String.ofList (breakWords (breakAcronyms (<- startCapital name.toList)))

end Text

namespace Sample

/-!
## Metadata of sample files

A sample has a title, made from its file name, and the name of its file.
-/

def commentPattern : Expression :=
  ⟨.group 1 (Pattern.sequence
    [Pattern.literal "//", Pattern.zeroOrMore (Pattern.literal " "), Pattern.literal "sample-metadata:",
      Pattern.oneOrMore (.group 2 (Pattern.choice
        [Pattern.oneOrMore (Pattern.notAmong [.one '\n']), Pattern.literal "\n//"]))]), 2, [("metadata", 1)], none⟩

def commentSign : Expression :=
  ⟨.group 1 (Pattern.sequence
    [.group 2 (Pattern.choice [Pattern.literal "#", Pattern.literal "//"]), Pattern.optional (Pattern.literal " ")]), 2, [], none⟩

def commentText? (content : String) : Option String :=
  (commentPattern.search? content).map fun found =>
    commentSign.replaceBy "" (found.group 1)

def entryOf (name : String) : Doc -> Except Failure Doc
  | .map fields =>
    match Doc.lookup (.text name) fields with
    | some value => .ok value
    | none => .error (.noKey (Text.quoted name))
  | _ => .error .wrongKind

def commentMetadata (content : String) : Except Failure Doc :=
  match commentText? content with
  | none => .ok (.map [])
  | some text =>
    match Yaml.parse text with
    | .ok doc => entryOf "sample-metadata" doc
    | .error (.badYaml .tokens) => .ok (.map [])
    | .error failure => .error failure

def titleOf (file : String) : Except Failure String :=
  Text.titleWords (PathText.splitEnding (PathText.base file)).1

def withComment (title file : String) : (comment : Doc) -> Except Failure Doc
  | .map more =>
    .ok (.map (more.foldl (fun fields (key, value) => Doc.assign key value fields)
      [(.text "title", .text title), (.text "file", .text file)]))
  | _ => .error .wrongKind

def ofFile (file : String) : Job Doc := do
  let title <- Job.ofExcept (titleOf file)
  let comment <- Job.ofExcept (commentMetadata (<- Job.readText file))
  Job.ofExcept (withComment title file comment)

def inFiles (patterns : List String) : Job (List Doc) := do
  let files <- patterns.mapM ShellGlob.paths
  (Text.sorted files.flatten).mapM ofFile

/-!
## Generated samples

Generated samples have metadata files, which name the version of the library.
-/

def generatedFiles (directory : Path) (pattern : String := "snippet_metadata") :
    Job (List String) := do
  let found <- Glob.fold directory "**/*" (fun found (path : Path) => do
    if <- Job.isFile path then
      let expression <- Job.ofExcept (Expression.ofText {} pattern)
      if expression.occursIn path then return (<- Job.resolve path).toString :: found
    return found) []
  return found.reverse

def withLibraryVersion (version : Doc) (metadata : Doc) : Except Failure Doc :=
  metadata.putIn "clientLibrary" "version" version

def setLibraryVersion (version : Doc) (directory : Path) : Job Unit := do
  (<- generatedFiles directory).forM fun file => do
    let metadata <- Job.ofExcept (withLibraryVersion version (<- Job.readJson file))
    Job.writeJson file 4 metadata

end Sample
end Refinery
