import Refinery.Doc.Access

namespace Refinery.Scenario

/-!
# Workspaces from documents

A scenario describes the files, the settings, and how commands, the web and outside services answer.
-/

variable (directory : Path)

def change (path : String) (content : Doc) : Place × Change :=
  let place := (directory / path).names
  if Text.endsWith path "/" then (place, .put .directory)
  else
    match content with
    | .null => (place, .remove)
    | .text s => (place, .put (.file { content := s.toUTF8 }))
    | content =>
      match content.get "link" with
      | .text target => (place, .put (.link target))
      | _ => (place, .put (.file
        { content := match content.get "hex" with
            | .text digits => Text.bytesOfHex digits
            | _ => (content.get "text").str.toUTF8
          mode := Text.ofOctal ((content.get "mode").str "644")
          age := (content.get "age").int'.toNat }))

def changes (files : Doc) : Changes :=
  files.pairs.map fun (path, content) => change directory path content

variable (doc : Doc)

def error? : Option String :=
  (doc.get "error").asText?

def rule (doc : Doc) : CommandRule :=
  { start := (doc.get "match").str
    status := (doc.get "rc").int'
    output := (doc.get "out").str
    changes := changes directory (doc.get "files")
    missing := (doc.get "missing").truthy }

def page : Page :=
  { status := ((doc.get "status").int' 200).toNat, text := (doc.get "text").str }

def cell : Cell :=
  { kind := (doc.get "cell_type").str
    source := (doc.get "source").str
    metadata := doc.get "metadata" }

def notebook : NotebookAnswer :=
  match error? doc with
  | some text => .refused text
  | none => .cells ((doc.get "cells").items.map cell)

def resource : Resource :=
  { name := (doc.get "display_name").str
    age := doc.get "age"
    refusal := (doc.get "fail").asText? }

def build : BuildAnswer :=
  { id := (doc.get "id").str
    logUrl := (doc.get "log_url").str
    logsBucket := (doc.get "logs_bucket").str
    error := error? doc }

def bucket (doc : Doc) : String × String :=
  match doc.items with
  | [bucket, name] => (bucket.str, name.str)
  | _ => ("", "")

def services (doc : Doc) : Services :=
  { executionChanges := changes directory ((doc.get "papermill").get "files")
    executionError := error? (doc.get "papermill")
    buckets := (doc.get "gcs").pairs.map fun (address, d) => (address, bucket d)
    project := (doc.get "project").str "project"
    resources := (doc.get "resources").pairs.map fun (kind, d) => (kind, d.items.map resource)
    notebooks := (doc.get "nbformat").pairs.map fun (path, d) => (path, notebook d)
    builds := (doc.get "builds").items.map build }

def workspace (doc : Doc) : Workspace :=
  let folders := [directory.names, ["h"], ["t"]].foldl (fun tree place => tree.ensure [] place)
    Tree.empty
  let start : Workspace :=
    { tree := Workspace.applyChanges folders (changes directory (doc.get "files"))
      directory := directory.names
      settings := (doc.get "env").pairs.map (fun (name, d) => (name, d.str)) ++ [("HOME", "/h"), ("PATH", "/bin")]
      rules := (doc.get "cmds").items.map (rule directory)
      pages := (doc.get "http").pairs.map fun (url, d) => (url, page d)
      absentPrograms := (doc.get "absent").items.map fun d => d.str
      services := services directory doc }
  { start with session :=
    { start.session with removesObsolete := start.enabled "SYNTHTOOL_TRACK_OBSOLETE_FILES" } }

end Refinery.Scenario
