import Refinery.Generation.Copied
import Refinery.Yaml.Value

namespace Refinery.Generation

open Job Text

/-!
# The generator container

The version and the exact name of its image go into the record.
-/

structure Container where
  version : String
  image : String
  deriving DecidableEq

namespace Container

def entry (name : String) : Doc -> Except Failure Doc
  | .map fields =>
    match Doc.lookup (.text name) fields with
    | some value => .ok value
    | none => .error (.noKey (quoted name))
  | _ => .error .wrongKind

def first : Doc -> Except Failure Doc
  | .list (item :: _) => .ok item
  | .list [] => .error .noIndex
  | .text s => if s.isEmpty then .error .noIndex else .ok (.text (take 1 s))
  | .map _ => .error (.noKey "0")
  | _ => .error .wrongKind

def settingOf : Doc -> Except Failure (String × String)
  | .text s =>
    match cut? "=" s with
    | some found => .ok found
    | none => .error .badValue
  | _ => .error .noMember

def settings : Doc -> Except Failure (List (String × String))
  | .list items => items.mapM settingOf
  | .text s => if s.isEmpty then .ok [] else .error .badValue
  | .map fields => fields.mapM fun field => settingOf field.1
  | _ => .error .wrongKind

def ofDescription (description : Doc) : Except Failure Container := do
  let settings <- settings (<- entry "Env" (<- entry "Config" description))
  let image <- first (<- entry "RepoDigests" description)
  match image with
  | .text image =>
    return { version := (settings.reverse.lookup "ARTMAN_VERSION").getD "unknown", image }
  | _ => throw .wrongKind

def wanted : Job String := do
  return "googleapis/artman:" ++ ((<- setting? "SYNTHTOOL_ARTMAN_VERSION").getD "latest")

def prepare : Job Container := do
  requirePrograms ["docker", "git"]
  let wanted <- wanted
  let _ <- runChecked ["docker", "pull", wanted]
  let answer <- runChecked ["docker", "inspect", wanted]
  let doc <- need .badJson (Json.parse? answer.output)
  let container <- Job.ofExcept (do ofDescription (<- first doc))
  record (·.addSource (.generator
    { name := "artman", version := container.version, dockerImage := container.image }))
  return container

def innerCommand (config : Path) (artifact : String) (arguments : List String) : String :=
  join " " (["artman", "--local", "--config", config.toString] ++
    (if arguments.isEmpty then []
      else ["--generator-args='" ++ join " " arguments ++ "'"]) ++
    ["generate", artifact])

def run (root config : Path) (artifact : String) (generator : Option String := none)
    (arguments : List String := []) : Job Path := do
  let output := root / "artman-genfiles"
  let words := ["docker", "run", "--name", "artman-docker", "--rm", "-i",
    "-e", "HOST_USER_ID=1000", "-e", "HOST_GROUP_ID=1000", "-e", "RUNNING_IN_ARTMAN_DOCKER=True",
    "-v", s!"{root}:{root}", "-v", s!"{output}:{output}", "-w", root.toString] ++ (match generator with
      | some directory => ["-v", directory ++ ":/toolkit"]
      | none => []) ++ [<- wanted, "/bin/bash", "-c", innerCommand config artifact arguments]
  let _ <- runChecked words (some root)
  return output

end Container

/-! ## Generation from a configuration -/

structure Request where
  service : String
  version : String
  language : String
  configuration : Option String := none
  outputName : Option String := none
  unpublished : Bool := false
  withProtos : Bool := false
  withSamples : Bool := false
  arguments : List String := []

def artifactOf (javaArtifact language : String) : Except Failure (String × String) :=
  match [("python", "python_gapic", "python"), ("nodejs", "nodejs_gapic", "js"),
    ("ruby", "ruby_gapic", "ruby"), ("php", "php_gapic", "php"), ("java", javaArtifact, "java")].lookup language with
  | some found => .ok found
  | none => .error (.complaint .unsupportedLanguage)

variable (request : Request)

def Request.configurationPath (folder : String) : Except Failure Path :=
  match request.configuration with
  | none =>
    .ok (Path.ofString folder / request.service /
      s!"artman_{request.service}_{request.version}.yaml")
  | some given =>
    let path := Path.ofString given
    if path.isAbsolute then fromTop path
    else .ok (Path.ofString folder / request.service / path)

def Request.outputFolder (root : Path) (folder : String) : Job Path := do
  let output := root / folder /
    request.outputName.getD (request.service ++ "-" ++ request.version)
  if <- exists? output then return output
  complain (.noGeneratedOutput output)

def resourceAddress : Doc -> Except Failure String
  | .map fields =>
    match Doc.lookup (.text "uri") fields with
    | some (.text uri) =>
      .ok (if startsWith uri "gs://" then
        replace "gs://" "https://storage.googleapis.com/" uri else uri)
    | _ => .error .noMember
  | _ => .error .noMember

def resourceAddresses : Doc -> Except Failure (List (Except Failure String))
  | .map fields =>
    match Doc.lookup (.text "sample_resources") fields with
    | some (.list items) => .ok (items.map resourceAddress)
    | some (.map inner) => .ok (inner.map fun field => resourceAddress field.1)
    | some (.text s) => .ok (s.toList.map fun _ => .error .noMember)
    | _ => .error .wrongKind
  | _ => .error .noMember

def downloadResources (description folder : Path) : Job Unit := do
  if <- isFile description then
    let doc <- Job.ofExcept (Yaml.parse (<- Job.readText description))
    (<- Job.ofExcept (resourceAddresses doc)).forM fun address => do
      let address <- Job.ofExcept address
      let page <- fetch address
      makeDirectories folder
      writeText (folder / PathText.base address) page.text

def sampleRunner? (language : String) : Option String :=
  [("nodejs", "node"), ("php", "php"), ("python", "python3"), ("ruby", "bundle exec ruby")].lookup language

def writeManifest (language : String) (root folder : Path) : Job Unit := do
  match sampleRunner? language with
  | none => pure ()
  | some runner =>
    let relative <- need .badValue ((folder / "test" / "samples.manifest.yaml").relativeTo? root)
    let samples <- (<- Glob.list folder "*").filterM fun (sample : Path) => isFile sample
    let names := samples.filterMap fun sample => (sample.relativeTo? root).map Path.toString
    let words := ["gen-manifest", "--env=" ++ language, "--bin=" ++ runner,
      "--output=" ++ relative.toString, "--chdir=\x7b@manifest_dir\x7d/../.."] ++ names
    match <- attempt (runChecked words (some root)) with
    | .ok _ | .error (.commandFailed _ _) | .error (.absent _) => pure ()
    | .error failure => fail failure

def completeSamples (language version : String) (service root resources : Path) : Job Unit := do
  let plain := root / version
  let folder := if <- isDirectory plain then plain else root / capitalize version
  if <- isDirectory folder then
    let tests := folder / "test"
    makeDirectories tests
    Glob.fold (service / version / "samples") "**/*.test.yaml" (fun _ (file : Path) =>
      copyContent file (tests / file.name)) ()
    downloadResources (service / "sample_resources.yaml") resources
    writeManifest language root folder

def Request.sampleFolders (output : Path) : Path × Path :=
  if request.language = "java" then
    let base := output / s!"gapic-google-cloud-{request.service}-{request.version}/samples"
    (base / s!"src/main/java/com/google/cloud/examples/{request.service}", base / "resources")
  else (output / "samples", output / "samples" / "resources")

def Request.protoFolder (output : Path) : Path :=
  if request.language = "python" then
    output / s!"google/cloud/{request.service}_{request.version}/proto"
  else output / "protos"

def generate (generator : Nat) (request : Request) : Job Path := do
  let (artifact, folder) <- Job.ofExcept (artifactOf "java_gapic" request.language)
  let root <- find (if request.unpublished then .unpublished else .published) generator
  let config <- Job.ofExcept (request.configurationPath "google/cloud")
  if !(<- exists? (root / config)) then complain (.noConfiguration (root / config))
  let arguments := request.arguments ++ if request.withSamples then ["--dev_samples"] else []
  let outputRoot <- Container.run root config artifact (<- chosen? "SYNTHTOOL_GENERATOR") arguments
  let output <- request.outputFolder outputRoot folder
  if request.withProtos then
    copyProtos (root / config.parent / request.version) (request.protoFolder output)
  if request.withSamples then
    let (samples, resources) := request.sampleFolders output
    completeSamples request.language request.version (root / config.parent) samples resources
  noteClient
    { source := if request.unpublished then "googleapis-private" else "googleapis"
      apiName := request.service, apiVersion := request.version, language := request.language
      generator := "gapic", config } output

def generateDiscovery (root : Path) (request : Request) : Job Path := do
  let (artifact, folder) <- Job.ofExcept (artifactOf "java_discogapic" request.language)
  let config <- Job.ofExcept (request.configurationPath "gapic/google")
  if !(<- exists? (root / config)) then complain (.noConfiguration config)
  let _ <- Container.prepare
  let output <- request.outputFolder (<- Container.run root config artifact) folder
  Roots.add output
  return output

def cloneDiscovery : Job Path := do
  Repository.clone (<- Repository.cloneAddress Definitions.discovery.repository)

end Refinery.Generation
