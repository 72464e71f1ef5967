import Refinery.Generation.Copied

namespace Refinery.Generation

open Job Text

/-!
# Generation by an image per language
-/

structure ImageRequest where
  service : String
  version : String
  language : String
  unpublished : Bool := false
  protoPath : Option String := none
  extraProtos : List String := []
  output : Option String := none
  imageVersion : Option String := none
  arguments : List (String × String) := []

def newImageGenerator : Job Nat := do
  requirePrograms ["docker", "git"]
  newGenerator

def imageName (language version : String) : String :=
  "gcr.io/gapic-images/gapic-generator-" ++ language ++ ":" ++ version

def outputDirectory (given : Option String) : Job Path := do
  match given with
  | some path => resolve (Path.ofString path)
  | none => do resolve (Path.ofString (<- makeTemporary))

def requireProtos (directory : Path) : Job Unit := do
  if !(<- exists? directory) then complain (.noProtoFolder directory)
  if (<- Glob.list directory "*.proto").isEmpty then complain (.emptyProtoFolder directory)

def extraMounts (root : Path) (protos : List String) : Job (List String) := do
  let mounts <- protos.mapM fun (proto : String) => do
    let source := root / proto
    if !(<- exists? source) then complain (.noExtraProto source)
    let inside := Path.ofString "/in" / proto
    return ["--mount", s!"type=bind,source={source},destination={inside},readonly"]
  return mounts.flatten

def requireOutput (output : Path) : Job Unit := do
  if (<- list output).isEmpty then complain (.emptyOutput output)

def generateByImage (generator : Nat) (request : ImageRequest) : Job Path := do
  let root <- find (if request.unpublished then .unpublished else .published) generator
  let usual := (<- setting? "SYNTHTOOL_GAPIC_GENERATOR_PYTHON_VERSION").getD "latest"
  let image := imageName request.language (request.imageVersion.getD usual)
  let _ <- runChecked ["docker", "pull", image]
  let protos <- match request.protoPath.filter (· ≠ "") with
    | some path => Job.ofExcept (fromTop (Path.ofString path))
    | none => pure (Path.ofString "google/cloud" / request.service / request.version)
  requireProtos (root / protos)
  let output <- outputDirectory (request.output.filter (· ≠ ""))
  let source := root / protos
  let inside := Path.ofString "/in" / protos
  let words := ["docker", "run", "--mount",
    s!"type=bind,source={source}/,destination={inside}/,readonly",
    "--mount", s!"type=bind,source={output}/,destination=/out/", "--rm", "--user", "1000"] ++
    (<- extraMounts root request.extraProtos) ++ [image] ++
    request.arguments.flatMap fun (key, value) => ["--" ++ key, value]
  let _ <- runChecked words
  requireOutput output
  noteClient
    { source := if request.unpublished then "googleapis-private" else "googleapis"
      apiName := request.service, apiVersion := request.version, language := request.language
      generator := "gapic-generator-" ++ request.language } output

/-!
## Generation by building a target

The target has a usual name, from the directory of the definitions.
-/

structure BuildRequest where
  service : String
  version : String
  language : String
  anew : Bool := false
  unpublished : Bool := false
  discovery : Bool := false
  protoPath : Option String := none
  output : Option String := none
  target : Option String := none
  withProtos : Bool := false
  protoOutput : Option String := none
  strip : Int := 1

namespace BuildRequest

variable (request : BuildRequest)

def definitions : Definitions × String :=
  if request.discovery then (.discovery, "discovery-artifact-manager")
  else if request.unpublished then (.unpublished, "googleapis_private")
  else (.published, "googleapis")

def protos : Except Failure Path :=
  let path := match request.protoPath, request.target with
    | some path, _ => path
    | none, some target => drop 2 ((split ":" target).headD "")
    | none, none => s!"google/cloud/{request.service}/{request.version}"
  fromTop (Path.ofString path)

def usualTarget (protos : Path) : Except Failure String :=
  let parts := protos.parts.dropWhile (· ≠ "google")
  if parts.isEmpty then .error (.complaint (.noTarget protos.toString))
  else
    let name := match request.language with
      | "python" => s!"{request.service}-{request.version}-py"
      | "nodejs" => s!"{request.service}-{request.version}-nodejs"
      | "go" => "gapi-" ++ join "-" parts.tail ++ "-go"
      | language => join "-" parts ++ "-" ++ language
    .ok ("//" ++ join "/" parts ++ ":" ++ name)

def protoFolder (output : Path) : Path :=
  match request.protoOutput with
  | some path => output / path
  | none =>
    if request.language = "python" then
      output / s!"google/cloud/{request.service}_{request.version}/proto"
    else output / "protos"

end BuildRequest

def newBuildGenerator : Job Nat := do
  requirePrograms ["bazel", "zip", "unzip", "tar"]
  newGenerator

def buildTarget (request : BuildRequest) (target : String) (output : Path) : Job Unit := do
  if request.anew then
    let _ <- runChecked ["bazel", "clean", "--expunge", "--async"]
  let _ <- runChecked ["bazel", "--version"]
  let _ <- runChecked ["bazel", "--max_idle_secs=240", "build", target]
  let archive := "bazel-bin/" ++ replace ":" "/" (drop 2 target) ++ ".tar.gz"
  let _ <- runChecked ["tar", "-C", output, s!"--strip-components={request.strip}", "-xzf",
    archive]

def generateByBuild (generator : Nat) (given : BuildRequest) : Job Path := do
  let request := { given with
    protoPath := given.protoPath.filter (· ≠ ""), target := given.target.filter (· ≠ "")
    output := given.output.filter (· ≠ ""), protoOutput := given.protoOutput.filter (· ≠ "") }
  let (definitions, sourceName) := request.definitions
  let root <- find definitions generator
  let protos <- if request.target.isNone || request.withProtos then Job.ofExcept request.protos
    else pure .here
  let target <- match request.target with
    | some target => pure target
    | none => do
      let target <- Job.ofExcept (request.usualTarget protos)
      requireProtos (root / protos)
      pure target
  let output <- outputDirectory request.output
  let before <- workingDirectory
  enter root
  buildTarget request target output
  if request.withProtos then copyProtos protos (request.protoFolder output)
  enter before
  requireOutput output
  noteClient
    { source := sourceName, apiName := request.service, apiVersion := request.version
      language := request.language, generator := "bazel" } output

end Refinery.Generation
