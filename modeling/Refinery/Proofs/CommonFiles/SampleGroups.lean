import Mathlib
import Refinery.CommonFiles.Basic

namespace Refinery.CommonFiles

open List PathText
open Template (Value Parameters)

/-!
# Samples by folder

The samples are documented folder by folder, the folders in the order of their first samples, and last those without a folder.
-/

abbrev Placed := Option String × Value

/-- A sample with its folder, and with its file's path if it names one. -/
def place (project : String) (sample : Value) : Job Placed := do
  let folder <- Job.ofExcept (sampleText? sample "override_path")
  return (folder, <- locate ((folder.map (join project)).getD project) sample)

def prepare (files : CommonFiles) (parameters : Parameters) : Job (Parameters × String × List Value) := do
  let parameters <- withMetadata parameters
  files.exclude otherDocuments
  let metadata <- Job.ofExcept (parameters.need "metadata")
  let parameters := parameters.set "metadata" (<- Job.ofExcept (metadata.put "samples" (.bool true)))
  let repo <- Job.ofExcept parameters.repo
  let project <- projectFolder repo
  return (parameters, project, <- Job.ofExcept (listedIn repo))

end Refinery.CommonFiles
