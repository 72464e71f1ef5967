import Refinery.CommandLine
import Refinery.Doc.Access
import Refinery.Template.Render
import Refinery.Workspace.Glob

namespace Refinery.Template.Batch

open Job

/-!
# Rendering templates by a command line

The values come from JSON files, and later files count before earlier ones.
-/

def options : CommandLine.Options :=
  { valued := ["--folder", "--file", "--data", "--output"] }

def valuesOf (files : List String) : Job (List (Doc × Doc)) :=
  files.foldlM (fun values file => do
    match <- readJson file with
    | .map more => return more.foldl (fun all (name, value) => Doc.assign name value all) values
    | _ => fail .wrongKind) []

def sourcesOf (words : CommandLine.Words) : Job (Path × List String) := do
  match words.last? "--folder", words.last? "--file" with
  | some folder, _ =>
    return (Path.ofString folder, <- ShellGlob.paths (folder ++ "/**/*.j2"))
  | none, some file => return ((Path.ofString file).parent, [file ++ ".j2"])
  | none, none => complain .noTemplateSource

def run (arguments : List String) : Job Unit := do
  let words <- Job.ofExcept (CommandLine.read options arguments)
  if (words.all "--data").isEmpty then fail (.option .missingOption)
  if !words.positions.isEmpty then fail (.option .usage)
  let values <- valuesOf (words.all "--data")
  let parameters := values.map fun (name, value) => (name.display, Value.ofDoc value)
  let (folder, files) <- sourcesOf words
  let library := Library.ofLocation folder
  let output := Path.ofString ((words.last? "--output").getD ".")
  files.forM fun file => do
    let name <- need .badValue ((Path.ofString file).relativeTo? folder)
    let _ <- library.renderTo name output parameters

end Refinery.Template.Batch
