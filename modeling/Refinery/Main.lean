import Refinery.Program
import Refinery.Workspace.Effects
import Refinery.Workspace.Scenario

/-!
# The command line

The first word names a program.
-/

namespace Refinery
namespace Program

def inScenario (name : String) (words : List String) (scenario : Doc) : Doc × UInt32 :=
  let home := Path.ofString "/w"
  let start := Scenario.workspace home scenario
  let (result, final) := (run name words).execute start
  let effects := Effects.fields id home start final
  match result with
  | .ok _ => (.fields effects, 0)
  | .error (.exit status) => (.fields effects, status.toNat.toUInt32)
  | .error failure => (.fields (("failure", .text failure.describe) :: effects), 1)

end Program
end Refinery

open Refinery in
def main (arguments : List String) : IO UInt32 := do
  let input <- (<- IO.getStdin).readToEnd
  let output <- IO.getStdout
  match arguments, Json.parse? input with
  | name :: words, some scenario =>
    let (effects, status) := Program.inScenario name words scenario
    output.putStrLn ((Json.print? .line effects).getD "")
    return status
  | _, _ =>
    output.putStrLn "usage: refinery PROGRAM [WORD]... < SCENARIO"
    return 2
