import Refinery.Format.Braces
import Refinery.Generation.Copied
import Refinery.Maven.Header
import Refinery.Transfer

namespace Refinery.Maven

open Job

/-!
# Placing generated code

The client, its messages and its services are copied to modules of their own.
-/

def findFormatter (version : String) : Job Path := do
  let jar := (<- Repository.cacheDirectory) / ("google-java-format-" ++ version ++ ".jar")
  if !(<- exists? jar) then
    let page <- fetch ("https://github.com/google/google-java-format/releases/download/" ++
      "google-java-format-" ++ version ++ "/google-java-format-" ++ version ++ "-all-deps.jar")
    if 400 ≤ page.status && page.status < 600 then fail (.webStatus page.status)
    writeText jar page.text
  return jar

def formatCode (folder : String) (version : String := "1.7") (times : Int := 2) : Job Unit := do
  let jar <- findFormatter version
  let files <- ShellGlob.paths (PathText.join folder "**/*.java")
  (List.range times.toNat).forM fun _ => do
    let _ <- runChecked (["java", "-jar", jar.toString, "--replace"] ++ files)

structure Placement where
  service : String
  version : String
  package : String := "com.google.cloud.\x7bservice\x7d.\x7bversion\x7d"
  ending : String := ""
  destination : Option String := none
  cloud : Bool := true
  discovery : Bool := false
  separate : Bool := false

namespace Placement

variable (p : Placement)

def fill (text : String) : Except Failure String :=
  Format.fillTexts [("service", p.service), ("version", p.version)] text

def family : String :=
  "google-" ++ if p.cloud then "cloud-" else ""

def source (part : String) : String :=
  part ++ p.family ++ p.service ++ "-" ++ p.version ++ p.ending

def target (part : String) : String :=
  part ++ p.family ++ p.destination.getD p.service ++ "-" ++ p.version

def clientTarget : String :=
  if p.separate then p.target "gapic-" else p.family ++ p.destination.getD p.service

end Placement

variable (p : Placement)

def place (library : Path) : Job Unit := do
  let _ <- Job.ofExcept (p.fill p.package)
  fixMessageHeaders (library / p.source "proto-")
  fixServiceHeaders (library / p.source "grpc-")
  let parts := [("gapic-", p.clientTarget, true), ("grpc-", p.target "grpc-", !p.discovery), ("proto-", p.target "proto-", true)]
  parts.forM fun (part, target, required) => do
    let _ <- Transfer.move (.ofPaths [library / (p.source part ++ "/src")])
      (some (Path.ofString (target ++ "/src"))) .nothing none required
  parts.forM fun (_, target, _) => formatCode (target ++ "/src")

def placeConfigured (configuration : String) (generate : String -> Job Path) :
    Job Path := do
  let library <- generate (<- Job.ofExcept (p.fill configuration))
  place p library
  return library

def placeByService (configuration : String) (options : List (String × Doc)) (library : Path) : Job Path :=
  placeConfigured p configuration fun configuration => do
    call "java_library" [.fields ([ ("service", .text p.service),
      ("version", .text p.version), ("config_path", .text configuration),
      ("artman_output_name", .text ""), ("include_samples", .bool true), ("diregapic", .bool p.discovery) ] ++ options)]
    return library

def placeBuilt (generate : Job Path) : Job Path := do
  let library <- generate
  place { p with ending := "-java" }
    (library / ("google-cloud-" ++ p.service ++ "-" ++ p.version ++ "-java"))
  return library

def placeCopied (path : String) : Job Path := do
  let library <- Generation.copyGenerated (<- Generation.findGenerated) path
  place { p with ending := "-java", package := "unused" }
    (library / (p.family ++ p.service ++ "-" ++ p.version ++ "-java"))
  return library

end Refinery.Maven
