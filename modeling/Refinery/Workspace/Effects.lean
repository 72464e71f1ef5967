import Refinery.Workspace.Basic

namespace Refinery

open Text

/-!
# What a job did

The effects of a job are what differs between the workspaces before and after it, and what its journal holds.
-/

/-!
## Differences of trees

Two trees are compared by their files, links and empty directories.
-/

namespace Tree

def alike : Node -> Node -> Bool
  | .file a, .file b => a.content = b.content && a.mode = b.mode
  | .link a, .link b => a = b
  | .directory, .directory => true
  | _, _ => false

def leaves (tree : Tree) : List (Place × Node) :=
  tree.entries.filter fun (place, node) =>
    !node.isDirectory || !tree.entries.any fun entry => entry.1.dropLast = place

def difference (before after : Tree) : List (Place × Node × Bool) :=
  let old := before.leaves
  let new := after.leaves
  let changed := new.filter fun (place, node) =>
    !((old.lookup place).map (alike node)).getD false
  let gone := old.filter fun (place, node) =>
    !((new.lookup place).map (·.isDirectory == node.isDirectory)).getD false
  changed.map (fun (place, node) => (place, node, true)) ++ gone.map fun (place, node) => (place, node, false)

end Tree

/-! ## Effects -/

namespace Effects

def isArchive (place : Place) : Bool :=
  startsWith (place.getLast?.getD "") "source_archived_"

def fileDoc (place : Place) (file : FileNode) : Doc :=
  let text := String.fromUTF8? file.content
  if isArchive place then
    .fields [("tar", .list ((brokenLines (text.getD "")).map .text))]
  else
    let mode := if file.mode = 0o644 then [] else [("mode", Doc.text (octal file.mode))]
    match text with
    | some s => if mode.isEmpty then .text s else .fields (("text", .text s) :: mode)
    | none => .fields (("hex", .text (hexOfBytes file.content)) :: mode)

def changeDoc : Place × Node × Bool -> String × Doc
  | (place, node, present) =>
    let name := "/" ++ join "/" place
    match node with
    | .directory => (name ++ "/", if present then .text "dir" else .null)
    | .file file => (name, if present then fileDoc place file else .null)
    | .link target => (name, if present then .fields [("link", .text target)] else .null)

def commandDoc (command : Command) : Doc :=
  .fields ([("args", Doc.list (command.words.map .text))] ++ (command.directory.map fun d => ("cwd", Doc.text d)).toList ++
    (command.stdin.map fun l => ("stdin", Doc.list ((sorted l).map .text))).toList ++
    (if command.shell then [("shell", .bool true)] else []))

def listField (name : String) (items : List Doc) : List (String × Doc) :=
  if items.isEmpty then [] else [(name, .list items)]

/-- The effects of a job, where `shown` writes the arguments of calls and `home` goes without saying. -/
def fields (shown : Doc -> Doc) (home : Path) (before after : Workspace) : List (String × Doc) :=
  let changed := (before.tree.difference after.tree).map changeDoc
  let journal := after.journal
  let directory := Tree.pathOf after.directory
  (if changed.isEmpty then [] else [("fs", .fields changed)]) ++ listField "cmds" (journal.commands.map commandDoc) ++
    listField "http" (journal.urls.map .text) ++ listField "calls" (journal.calls.map fun call =>
      .list (.text call.service :: call.arguments.map shown)) ++
    (if journal.printed = "" then [] else [("out", .text journal.printed)]) ++
    (if directory = home then [] else [("cwd", .text directory.toString)])

end Effects
end Refinery
