import Refinery.CommandLine
import Refinery.Component.Copy
import Refinery.Distribution.Shared
import Refinery.Npm.Postprocess

namespace Refinery
namespace Script

open Job

/-!
# Running a script

A script is run with a record of its sources.
-/

def options : CommandLine.Options :=
  { valued := ["--metadata"], flags := ["--version"] }

def run (arguments : List String) : Job Unit := do
  let words <- Job.ofExcept (CommandLine.read options arguments)
  if words.flags.contains "--version" then
    printLine "2020.2.4"
  else
    note fun s =>
      { s with scriptArguments := s.scriptArguments ++ words.positions.drop 1 }
    let script := (<- absolute (Path.ofString (words.positions.headD "synth.py")))
    if (<- exists? script) || (<- isLink script) then
      if !Text.endsWith script.name ".py" then fail .noMember
      Provenance.track ((words.last? "--metadata").getD "synth.metadata") do
        let _ <- readBytes script
    else fail (.exit 1)

def runProgram (arguments : List String) : Job Unit := do
  match <- attempt (run arguments) with
  | .ok _ => fail (.exit 0)
  | .error (.option _) => fail (.exit 2)
  | .error failure => fail failure

def addSampleDocuments : Job Unit := do
  (<- (<- CommonFiles.new).renderSamples []).forM fun path => do
    let _ <- Transfer.move (.one (.path path)) none (.many [.text "noxfile.py"])

end Script

namespace Program

/-!
## Programs

The jobs that can be started by name.
-/

def run (name : String) (words : List String) : Job Unit := do
  match name with
  | "synthtool" => Script.runProgram words
  | "node" => Npm.finishPackage
  | "node_mono_repo" => Npm.finishPackages ((words.head?.map (Text.split ",")).getD [])
  | "php" => Component.copyStaged
  | "python" =>
    let _ <- CommonFiles.new
    let _ <- CommonFiles.new
    Distribution.finish
  | "python_mono_repo" => Distribution.finishAll
  | _ => Job.fail .noMember

end Program
end Refinery
