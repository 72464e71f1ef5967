import Refinery.CommandLine
import Refinery.Doc.Access
import Refinery.Replacement
import Refinery.Yaml.Value

namespace Refinery.Notebook

open Job Text

/-!
# Files in the cloud

Files are copied to and from buckets by a command.
-/

def copyBetween (source target : String) : Job Unit := do
  let _ <- runChecked ["gsutil", "cp", source, target]

def download (bucket name target : String) : Job String := do
  copyBetween ("gs://" ++ bucket ++ "/" ++ name) target
  return target

def upload (file target : String) : Job String := do
  copyBetween file target
  return target

def bucketOf (address : String) : Job (String × String) := do
  need (.noKey (quoted address)) ((<- get).services.buckets.lookup address)

variable (path : String)

def memberName : String :=
  trimBy (· == '/') path

def membersOf (archive : Path) : (depth : Nat) -> (path : String) -> Job (List String)
  | 0, _ => fail .tooDeep
  | depth + 1, path => do
    if (<- absolute (Path.ofString path)) = archive then return []
    if (<- isDirectory path) && !(<- isLink path) then
      let inner <- (<- list path).mapM fun name =>
        membersOf archive depth (PathText.join path name)
      return memberName path :: inner.flatten
    return [memberName path]

def archiveName : String :=
  "source_archived_00000000-0000-4000-8000-000000000000.tar.gz"

def archive (bucket : String) : Job String := do
  let listed <- runChecked ["git", "ls-tree", "-r", "HEAD", "--name-only"]
  writeText archiveName ""
  let place <- absolute (Path.ofString archiveName)
  let files <- (split "\n" (unifyLineEnds listed.output)).filterM fun file => do
    if file = "" then return false
    exists? file
  let members <- files.mapM (membersOf place (<- depthLimit))
  writeText archiveName (join "\n" (sorted members.flatten))
  let address <- upload archiveName (bucket ++ "/code_archives/" ++ archiveName)
  printLine ("Uploaded source code archive to " ++ address)
  return address

/-!
## Running a notebook here

However the run ends, the notebook is then delivered.
-/

def execute (logged : Bool) : Job (Option Failure) := do
  call "papermill.execute_notebook" [.fields
    [ ("input_path", .text path), ("output_path", .text path), ("progress_bar", .bool logged),
      ("request_save_on_cell_execute", .bool logged), ("log_output", .bool logged),
      ("stdout_file", .bool logged), ("stderr_file", .bool logged) ]]
  let services := (<- get).services
  onTree (Workspace.applyChanges · services.executionChanges)
  return services.executionError.map .service

def isAddress (text : String) : Bool :=
  startsWith text "gs://"

def makeFolderOf : Job Unit := do
  let folder := PathText.directory path
  if !(<- exists? folder) then
    match <- attempt (makeDirectories folder false) with
    | .ok _ | .error (.occupied _) => pure ()
    | .error failure => fail failure

def deliver (target : String) : Job Unit := do
  if isAddress target then
    let _ <- upload path target
    printLine "\n=== EXECUTION FINISHED ===\n"
    printLine ("Please debug the executed notebook by downloading: " ++ target)
    printLine "\n======\n"
  else
    makeFolderOf target
    printLine ("Writing output to: " ++ target)
    move path target

def run (source target : String) (logged : Bool) : Job Unit := do
  let path <- if isAddress source then do
      let (bucket, name) <- bucketOf source
      download bucket name (PathText.base (PathText.normal source))
    else pure source
  let failure <- execute path logged
  deliver path target
  if let some failure := failure then fail failure

/-!
## Running many notebooks

A notebook that fails does not stop the others.
-/

/-!
## Preparing the cells of a notebook

Cells that must not run are taken out, and placeholders get a value.
-/

def updateVariable (content name value : String) : Except Failure String := do
  let substitution <- Substitution.parse
    ("(" ++ name ++ ".*?=.*?[\\\",\\'])\\[.+?\\]([\\\",\\'].*?)") ("\\1" ++ value ++ "\\2")
  return (<- substitution.inText content).1

variable (values : List (String × String))

def updateVariables (content : String) : Except Failure String :=
  values.foldlM (fun content (name, value) => updateVariable content name value) content

def skipMark : String := "no_execute"

def mayRun (cell : Cell) : Except Failure Bool := do
  let tags <- cell.metadata.entryOrNull "tags"
  if tags.truthy then return !(<- tags.holds skipMark)
  return true

def updateCell (cell : Cell) : Except Failure Cell := do
  if cell.kind = "code" then return { cell with source := <- updateVariables values cell.source }
  return cell

def prepare (cells : List Cell) :
    Except Failure (List Cell) := do
  (<- cells.filterM mayRun).mapM (updateCell values)

def cellDoc (cell : Cell) : Doc :=
  .fields [("cell_type", .text cell.kind), ("source", .text cell.source), ("metadata", cell.metadata)]

def readCells : Job (List Cell) := do
  let _ <- readBytes path
  call "nbformat.read" [.text path, .int 4]
  match (<- get).services.notebooks.lookup path with
  | some (.cells cells) => return cells
  | some (.refused text) => fail (.service text)
  | none => return []

def prepareFile (project region : String) : Job Unit := do
  let cells <- readCells path
  let cells <- Job.ofExcept (prepare [("PROJECT_ID", project), ("REGION", region)] cells)
  writeText path ""
  call "nbformat.write" [.text path, .list (cells.map cellDoc)]

/-! ## Running a notebook on a build service -/

structure BuildRequest where
  code : String
  notebook : String
  output : String
  container : String
  tag : Option String

def buildFile : String := ".cloud-build/notebook-execution-test-cloudbuild-single.yaml"

def timeLimit : Doc := .text "86400s"

def BuildRequest.doc (request : BuildRequest) (bucket name : String) (steps : Doc) : Doc :=
  .fields ([ ("source", .fields [("storage_source", .fields [("bucket", .text bucket), ("object_", .text name)])]),
    ("steps", steps), ("substitutions", .fields [ ("_PYTHON_IMAGE", .text request.container),
      ("_NOTEBOOK_GCS_URI", .text request.notebook), ("_NOTEBOOK_OUTPUT_GCS_URI", .text request.output) ]),
    ("timeout", timeLimit), ("queue_ttl", timeLimit) ] ++ match request.tag with
    | some tag => if tag = "" then [] else [("tags", .list [.text tag])]
    | none => [])

def nextBuild : Job BuildAnswer := do
  let services := (<- get).services
  modify fun w => { w with services := { services with builds := services.builds.tail } }
  return services.builds.headD {}

def startBuild (request : BuildRequest) : Job BuildAnswer := do
  let project := (<- get).services.project
  let settings <- Job.ofExcept (Yaml.parse (<- Job.readText buildFile) true)
  let (bucket, name) <- bucketOf request.code
  let steps <- Job.ofExcept (settings.entry "steps")
  call "create_build" [.text project, request.doc bucket name steps]
  nextBuild

/-! ## One notebook after the other -/

def durationText (seconds : Int) : String :=
  let days := Int.fdiv seconds 86400
  let rest := (Int.fmod seconds 86400).toNat
  let two (n : Nat) : String := padLeft '0' 2 (toString n)
  let time := two (rest / 3600) ++ ":" ++ two (rest % 3600 / 60) ++ ":" ++ two (rest % 60)
  if 0 < days then
    toString days ++ (if 1 < days then " days " else " day ") ++ time
  else time

def microseconds (x : Decimal.Double) : Int :=
  let whole := x.truncated
  let fraction := x.toFloat - (Decimal.Double.ofInt whole).toFloat
  let scaled := Decimal.Double.ofFloat (fraction * 1000000.0)
  let (numerator, denominator) := scaled.size
  let part : Int := numerator / denominator
  let rest := Decimal.roundDiv (numerator % denominator + numerator / denominator % 2 * denominator)
    denominator
  let size := part - part % 2 + rest
  whole * 1000000 + (if scaled.isNegative then -size else size)

def wholeSeconds (seconds : Doc) : Except Failure Int := do
  let micros <- match seconds.number? with
    | some (.inl n) => pure (n * 1000000)
    | some (.inr x) =>
      if x.isNaN then throw .badValue
      else if x.isInf then throw .tooLarge
      else pure (microseconds x)
    | none => throw .wrongKind
  let days := Int.fdiv micros 86400000000
  if 999999999 < days.natAbs then throw .tooLarge
  return (Decimal.Double.ofRatio (micros < 0) micros.natAbs 1000000).truncated

def isTagChar (c : Char) : Bool :=
  c.isAlphanum || c == '_' || c == '.' || c == '-'

def hyphened : (inRun : Bool) -> List Char -> List Char
  | _, [] => []
  | inRun, c :: rest =>
    if isTagChar c then c :: hyphened false rest
    else if inRun then hyphened true rest
    else '-' :: hyphened true rest

def tagOf : String :=
  let tag := hyphened false (PathText.base (PathText.normal path)).toList
  match tag with
  | '.' :: rest | '-' :: rest => String.ofList rest
  | _ => String.ofList tag

structure Result where
  name : String
  outputUri : String
  passed : Bool := false
  logUrl : String := ""
  buildId : String := ""
  error : Option String := none
  duration : Int := 0
  deriving DecidableEq

structure Setting where
  container : String
  stagingBucket : String
  artifactsBucket : String
  project : String
  region : String

def start (setting : Setting) (notebook output tag : String) : Job BuildAnswer := do
  prepareFile notebook setting.project setting.region
  let code <- archive setting.stagingBucket
  startBuild { code, notebook, output, container := setting.container, tag := some tag }

def logTail (build : BuildAnswer) : Job String := do
  let log := build.logsBucket ++ "/log-" ++ build.id ++ ".txt"
  match <- attempt (runChecked ["gsutil", "cat", "-r", "-1000", log]) with
  | .ok answer => return unifyLineEnds answer.output
  | .error failure => return failure.describe

def runOne (setting : Setting) (notebook : String) (withLogs : Bool := false) : Job Result := do
  printLine ("Running notebook: " ++ notebook)
  let output := setting.artifactsBucket ++ "/" ++ (Path.ofString notebook).name
  let tag := tagOf notebook
  let result : Result := { name := tag, outputUri := output }
  let ended (result : Result) (error : String) : Job Result := do
    printLine (notebook ++ " FAILED in " ++ durationText result.duration ++ ": " ++ error)
    return { result with error := some error }
  match <- attempt (start setting notebook output tag) with
  | .error failure => ended result failure.describe
  | .ok build =>
    let result := { result with buildId := build.id, logUrl := build.logUrl }
    match build.error with
    | some text => ended result (<- if withLogs then logTail build else pure text)
    | none =>
      printLine (notebook ++ " PASSED in " ++ durationText result.duration ++ ".")
      return { result with passed := true }

def tableRows (results : List Result) : List (List String) :=
  (results.filter (·.passed) ++ results.filter (!·.passed)).map fun result =>
    [ result.name, if result.passed then "PASSED" else "FAILED", durationText result.duration, result.logUrl ]

def reportResults (results : List Result) : Job Unit := do
  printLine "\n=== RESULTS ===\n"
  call "tabulate" [.list ((tableRows results).map fun row => .list (row.map .text)),
    .list (["build_tag", "status", "duration", "log_url"].map .text)]
  printLine "<table>"
  printLine "\n=== END RESULTS===\n"
  let total := (results.map (·.duration)).foldl (· + ·) 0
  printLine ("Cumulative notebook duration: " ++ durationText total)
  if results.any (!·.passed) then complain .notebooksFailed

def runAll (notebooks : List String) (setting : Setting) (together : Bool) : Job Unit := do
  if notebooks.isEmpty then
    printLine "No notebooks modified in this pull request."
  else
    printLine ("Found " ++ toString notebooks.length ++ " modified notebooks: " ++ quotedList notebooks)
    if together && 1 < notebooks.length then
      printLine
        "Running notebooks in parallel, so no logs will be displayed. Please wait..."
  reportResults (<- notebooks.mapM (runOne setting))

def foldersIn (file : String) : Job (List String) := do
  let lines := (lines (<- readText file)).map trim
  let folders := lines.filter (· ≠ "")
  if folders.isEmpty then complain .noTestFolders
  return folders

def changedNotebooks (file : String) (branch : Option String := none) : Job (List String) := do
  let folders <- foldersIn file
  printLine ("Checking folders: " ++ quotedList folders)
  let answer <- match branch.filter (· ≠ "") with
    | some branch => do
      printLine ("Looking for notebooks that changed from branch: " ++ branch)
      runChecked (["git", "diff", "--name-only", "origin/" ++ branch ++ "..."] ++ folders)
    | none => do
      printLine "Looking for all notebooks."
      runChecked (["git", "ls-files"] ++ folders)
  ((split "\n" answer.output).filter (endsWith · ".ipynb")).filterM fun notebook =>
    exists? (Path.ofString notebook)

/-! ## Notebooks by command line -/

def usageError : Failure := .exit 2

def readOptions (options : List (String × CommandLine.Arity)) (required words : List String) :
    Except Failure (List (String × Option String)) :=
  match CommandLine.readShortened? options words with
  | some values =>
    if required.all fun name => (values.lookup name).isSome then .ok values
    else .error usageError
  | none => .error usageError

def lastValue (values : List (String × Option String)) (name : String) : String :=
  ((values.reverse.lookup name).bind id).getD ""

def runCommand (words : List String) : Job Unit := do
  let names := ["--notebook_source", "--output_file_or_uri"]
  let values <- Job.ofExcept (readOptions (names.map fun name => (name, .one)) names words)
  run (lastValue values "--notebook_source") (lastValue values "--output_file_or_uri") true

def changedOptions : List String :=
  ["--test_paths_file", "--container_uri", "--variable_project_id", "--variable_region",
    "--staging_bucket", "--artifacts_bucket"]

def yesOrNo (word : String) : Except Failure Bool :=
  let word := lower word
  if ["yes", "true", "t", "y", "1"].contains word then .ok true
  else if ["no", "false", "f", "n", "0"].contains word then .ok false
  else .error usageError

def runChangedCommand (words : List String) : Job Unit := do
  let options := changedOptions.map (fun name => (name, CommandLine.Arity.one)) ++
    [("--base_branch", .one), ("--should_parallelize", .atMostOne)]
  let values <- Job.ofExcept (readOptions options changedOptions words)
  let choices <- Job.ofExcept ((values.filter (·.1 = "--should_parallelize")).mapM fun (_, value) =>
    (value.map yesOrNo).getD (.ok true))
  let value := lastValue values
  let notebooks <- changedNotebooks (value "--test_paths_file") (some (value "--base_branch"))
  runAll notebooks
    { container := value "--container_uri"
      stagingBucket := value "--staging_bucket"
      artifactsBucket := value "--artifacts_bucket"
      project := value "--variable_project_id"
      region := value "--variable_region" }
    (choices.getLastD true)

def checkInterpreter (major minor : Int) (text : String) : Job Unit := do
  if 3 ≤ major || 5 ≤ minor then
    printLine ("Python version acceptable: " ++ text)
    fail (.exit 0)
  else
    printLine "Error: Python version less than 3.5"
    fail (.exit 1)

end Refinery.Notebook
