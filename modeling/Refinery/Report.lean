import Refinery.Doc.Access
import Refinery.Text.Reference

namespace Refinery.Report

/-!
# Test reports

The results of several runs as one report in XML.
-/

def count (field : String) (results : List Doc) : Except Failure Nat := do
  return ((<- results.mapM (·.entry field)).filter Doc.truthy).length

def shownField (result : Doc) (field : String) : String :=
  match result.entry field with
  | .ok value => value.display
  | .error _ => ""

def isTrue (result : Doc) (field : String) : Bool :=
  match result.entry field with
  | .ok value => value.truthy
  | .error _ => false

def resultLines (result : Doc) : List String :=
  let name := shownField result "name"
  let flag (field : String) : String := if isTrue result field then "1" else "0"
  let tag := if isTrue result "error" then "failure" else "system-out"
  [ "    ",
    "    <testsuite name=\"" ++ name ++ "\" tests=\"1\" errors=\"0\" failures=\"" ++ flag "error" ++
      "\" skipped=\"" ++ flag "skipped" ++ "\">",
    "        <testcase classname=\"" ++ name ++ "\" name=\"synthesize\">", "            ",
    "            <" ++ tag ++ ">" ++ Text.escapeMarkup (shownField result "output") ++ "</" ++ tag ++ ">",
    "            ", "        </testcase>", "    </testsuite>" ]

def text (name : String) (results : List Doc) : Except Failure String := do
  let failures <- count "error" results
  let skips <- count "skipped" results
  return Text.join "\n"
    ([ "<?xml version=\"1.0\" encoding=\"utf-8\"?>",
      "<testsuites name=\"" ++ name ++ "\" tests=\"" ++ toString results.length ++
        "\" failures=\"" ++ toString failures ++ "\" skipped=\"" ++ toString skips ++ "\">" ] ++
      results.flatMap resultLines ++ ["    ", "</testsuites>"])

def write (name : Doc) (results : List Doc) (folder : Path) : Job Unit := do
  let content <- Job.ofExcept (text name.display results)
  Job.makeDirectories folder
  Job.writeText (folder / "sponge_log.xml") content

end Refinery.Report
