import Refinery.Workspace.Basic

namespace Refinery

open Text

/-!
# Files of a workspace

A file is named by the text of its path, which is also the text that a failure shows.
-/

instance : CoeOut Path String :=
  ⟨Path.toString⟩

namespace Job

variable (path : String)

def astray : Tree.Astray -> Failure
  | .absent => .absent path
  | .throughFile => .notDirectory path
  | .tooManyLinks => .linkLoop path

def pathOf (text : String) : Path :=
  let path := Path.ofString text
  if !path.names.isEmpty && (endsWith text "/" || endsWith text "/.") then
    { path with names := path.names ++ ["."] }
  else path

def placeOf (follow : Bool := true) : Job Place := do
  let w <- get
  if path = "" then fail (.absent path)
  match w.tree.locate w.directory (pathOf path) follow with
  | .ok place => return place
  | .error reason => fail (astray path reason)

def nodeAt? : Job (Option Node) := do
  let w <- get
  return if path = "" then none else w.tree.find? w.directory (pathOf path)

def exists? : Job Bool := do
  return (<- nodeAt? path).isSome

def isFile (path : String) : Job Bool := do
  return ((<- nodeAt? path).map Node.isFile).getD false

def isDirectory (path : String) : Job Bool := do
  return ((<- nodeAt? path).map Node.isDirectory).getD false

def isLink (path : String) : Job Bool := do
  let w <- get
  return ((w.tree.findSelf? w.directory (pathOf path)).map Node.isLink).getD false

def fileAt : Job FileNode := do
  let place <- placeOf path
  match (<- get).tree.get? place with
  | some (.file file) => return file
  | some _ => fail (.isDirectory path)
  | none => fail (.absent path)

def readBytes : Job ByteArray := do
  return (<- fileAt path).content

def decode (bytes : ByteArray) : Job String :=
  match String.fromUTF8? bytes with
  | some text => pure (unifyLineEnds text)
  | none => fail .undecodable

def readText : Job String := do
  decode (<- readBytes path)

def writeBytes (content : ByteArray) : Job Unit := do
  let place <- placeOf path
  match (<- get).tree.get? place with
  | some .directory => fail (.isDirectory path)
  | some (.file file) => onTree (·.insert place (.file { file with content, age := 0 }))
  | some (.link _) => fail (.linkLoop path)
  | none => onTree (·.insert place (.file { content }))

def writeText (text : String) : Job Unit := do
  if encodable text then writeBytes path text.toUTF8
  else
    writeBytes path ByteArray.empty
    fail .unencodable

def appendText (text : String) : Job Unit := do
  match <- nodeAt? path with
  | some (.file file) => writeBytes path (file.content ++ text.toUTF8)
  | _ => writeText path text

def touch : Job Unit := do
  match <- nodeAt? path with
  | some (.file file) => writeBytes path file.content
  | some _ => pure ()
  | none => writeBytes path ByteArray.empty

def setMode (mode : Nat) : Job Unit := do
  let place <- placeOf path
  match (<- get).tree.get? place with
  | some (.file file) => onTree (·.insert place (.file { file with mode }))
  | some _ => pure ()
  | none => fail (.absent path)

def modeOf : Job Nat := do
  match <- nodeAt? path with
  | some (.file file) => return file.mode
  | some _ => return 0o755
  | none => do
    let _ <- placeOf path
    fail (.absent path)

def makeDirectory : Job Unit := do
  let place <- placeOf (trimRightBy (· == '/') path) false
  if ((<- get).tree.get? place).isSome then fail (.occupied path)
  onTree (·.insert place .directory)

def makeEach (mayExist : Bool) : List String -> Job Unit
  | [] => pure ()
  | [path] => do
    match <- attempt (makeDirectory path) with
    | .ok _ => pure ()
    | .error failure =>
      if mayExist && (<- isDirectory path) then pure () else fail failure
  | path :: rest => do
    if !(<- exists? path) then
      match <- attempt (makeDirectory path) with
      | .error (.occupied _) | .ok _ => pure ()
      | .error failure => fail failure
    makeEach mayExist rest

def makeDirectories (mayExist : Bool := true) : Job Unit := do
  if path = "" then fail (.absent path)
  let goal := Path.ofString path
  let above := (goal.parents.reverse.filter fun p => p ≠ Path.here && p ≠ Path.top).map Path.toString
  makeEach mayExist (above ++ [path])

def list (path : String) : Job (List String) := do
  let place <- placeOf path
  let tree := (<- get).tree
  match tree.get? place with
  | some .directory => return tree.list place
  | some _ => fail (.notDirectory path)
  | none => fail (.absent path)

def children (path : Path) : Job (List Path) := do
  return (<- list path).map path.child

def unlink : Job Unit := do
  let place <- placeOf path false
  match (<- get).tree.get? place with
  | some .directory => fail (.isDirectory path)
  | some _ => onTree (·.erase place)
  | none => fail (.absent path)

def removeTree : Job Unit := do
  let place <- placeOf path false
  match (<- get).tree.get? place with
  | some .directory => onTree (·.prune place)
  | some (.file _) => fail (.notDirectory path)
  | some (.link _) => fail .systemRefusal
  | none => fail (.absent path)

def sameFile (first second : String) : Job Bool := do
  let w <- get
  match w.tree.locate w.directory (pathOf first), w.tree.locate w.directory (pathOf second) with
  | .ok a, .ok b => return a = b && (w.tree.get? a).isSome
  | _, _ => return false

def copyContent (source destination : String) : Job Unit := do
  if <- sameFile source destination then fail (.sameFile source destination)
  let content <- readBytes source
  writeBytes destination content

def copyStatus (source destination : String) : Job Unit := do
  let file <- fileAt source
  let place <- placeOf destination
  onTree fun tree =>
    match tree.get? place with
    | some (.file copy) =>
      tree.insert place (.file { copy with mode := file.mode, age := file.age })
    | _ => tree

def copyFile (source destination : String) : Job Unit := do
  let destination :=
    if <- isDirectory destination then PathText.join destination (PathText.base source)
    else destination
  copyContent source destination
  copyStatus source destination

def depthLimit : Job Nat := do
  return (<- get).tree.size + 1000

/-- Visit a directory and the directories in it, each with the names of its directories and of its
other nodes.  A directory is listed when it is visited.  Links are not entered. -/
def walk {σ : Type} (visit : σ -> (directory : String) -> (directories files : List String) -> Job σ) :
    (depth : Nat) -> σ -> String -> Job σ
  | 0, state, _ => pure state
  | depth + 1, state, directory => do
    match <- attempt (list directory) with
    | .error _ => return state
    | .ok names =>
      let directories <- names.filterM fun name => isDirectory (PathText.join directory name)
      let files := names.filter fun name => !directories.contains name
      let state <- visit state directory directories files
      directories.foldlM (fun state name => do
        let inner := PathText.join directory name
        if <- isLink inner then return state else walk visit depth state inner) state

def copyInner : (depth : Nat) -> (source destination : String) -> Job Bool
  | 0, _, _ => pure false
  | depth + 1, source, destination => do
    let names <- list source
    makeDirectories destination false
    names.foldlM (fun complete name => do
      let inner := PathText.join source name
      let target := PathText.join destination name
      if <- isDirectory inner then
        match <- attempt (copyInner depth inner target) with
        | .ok innerComplete => return complete && innerComplete
        | .error failure => if failure.ofSystem then return false else fail failure
      else
        match <- attempt (copyFile inner target) with
        | .ok _ => return complete
        | .error failure => if failure.ofSystem then return false else fail failure) true

def copyTree (source destination : String) : Job Unit := do
  if !(<- copyInner (<- depthLimit) source destination) then fail .partialCopy

def resolveNames (tree : Tree) (budget : Nat) : Place -> List String -> Place
  | place, [] => place
  | place, name :: rest =>
    if name = ".." then resolveNames tree budget place.dropLast rest
    else
      match tree.get? (place ++ [name]) with
      | some (.link target) =>
        match tree.route true budget place [name] with
        | .ok goal => resolveNames tree budget goal rest
        | .error _ =>
          let goal := Path.ofString target
          resolveNames tree budget
            ((if goal.isAbsolute then [] else place) ++ goal.names.filter (· ≠ "..")) rest
      | _ => resolveNames tree budget (place ++ [name]) rest

def resolve (path : Path) : Job Path := do
  let w <- get
  return Tree.pathOf (resolveNames w.tree (Tree.linkBudget + 1)
    (if path.isAbsolute then [] else w.directory) path.names)

def absolute (path : Path) : Job Path := do
  return (<- workingDirectory) / path

def enter : Job Unit := do
  let place <- placeOf path
  match (<- get).tree.get? place with
  | some .directory => modify fun w => { w with directory := place }
  | some _ => fail (.notDirectory path)
  | none => fail (.absent path)

def home : Job Path := do
  return Path.ofString ((<- setting? "HOME").getD "/")

def expandHome (path : Path) : Job Path := do
  match path.anchor, path.names with
  | .relative, "~" :: rest => return ⟨(<- home).anchor, (<- home).names ++ rest⟩
  | _, _ => return path

def inDirectory {α : Type} (path : String) (job : Job α) : Job α := do
  let back := (<- get).directory
  enter path
  let outcome <- attempt job
  modify fun w => { w with directory := back }
  ofExcept outcome

def rename (source target : String) : Job Unit := do
  let start <- placeOf source false
  let stop <- placeOf target false
  let tree := (<- get).tree
  match tree.get? start, tree.get? stop with
  | none, _ => fail (.absent source)
  | some .directory, some .directory =>
    if start = stop then return
    if !(tree.list stop).isEmpty then fail (.notEmpty target)
    shift start stop
  | some .directory, some _ => fail (.notDirectory target)
  | some .directory, none =>
    if start.isPrefixOf stop then fail .systemRefusal
    shift start stop
  | some _, some .directory => fail (.isDirectory target)
  | some _, _ => if start ≠ stop then shift start stop
where
  shift (start stop : Place) : Job Unit :=
    onTree fun tree =>
      (tree.below start).foldl (fun tree (place, node) =>
        tree.insert (stop ++ place.drop start.length) node) (tree.prune start)

def move (source target : String) : Job Unit := do
  let target <- if <- isDirectory target then do
      let inside := PathText.join target (PathText.base (trimRightBy (· == '/') source))
      if <- exists? inside then fail .partialCopy
      pure inside
    else pure target
  match <- attempt (rename source target) with
  | .ok _ => pure ()
  | .error .systemRefusal => fail .partialCopy
  | .error (.notDirectory path) =>
    if <- isDirectory source then fail (.occupied target) else fail (.notDirectory path)
  | .error failure => fail failure

def makeLink (target path : String) : Job Unit := do
  let place <- placeOf path false
  if ((<- get).tree.get? place).isSome then fail (.occupied path)
  onTree (·.insert place (.link target))

def discardTree : Job Unit := do
  let _ <- attempt (removeTree path)

def makeTemporary : Job String := do
  let count := (<- session).temporaryCount
  let path := s!"/t/{count}"
  note fun s => { s with temporaryCount := count + 1 }
  onTree (·.ensure [] ["t", toString count])
  return path

def keepTemporary : Job Path := do
  let path <- makeTemporary
  note fun s => { s with temporary := s.temporary ++ [path] }
  return Path.ofString path

def removeTemporary : Job Unit := do
  (<- session).temporary.forM removeTree

end Job

/-!
## Programs and pages outside the workspace

Each request is noted in the journal and answered by the first rule that fits, or as a program that does
nothing and a page that does not exist.
-/

structure Completed where
  status : Int
  output : String
  deriving DecidableEq

namespace Job

def noteCommand (command : Command) : Job Unit :=
  modify fun w =>
    { w with journal := { w.journal with commands := w.journal.commands ++ [command] } }

def ruleFor (words : List String) : Job CommandRule := do
  let line := join " " words
  return ((<- get).rules.find? fun rule => startsWith line rule.start).getD { start := "" }

def run (words : List String) (directory : Option String := none)
    (stdin : Option (List String) := none) : Job Completed := do
  noteCommand { words, directory, stdin }
  let rule <- ruleFor words
  if rule.missing then fail (.absent (words.headD ""))
  onTree (Workspace.applyChanges · rule.changes)
  return ⟨rule.status, rule.output⟩

def runChecked (words : List String) (directory : Option String := none) : Job Completed := do
  let completed <- run words directory
  if completed.status ≠ 0 then fail (.commandFailed words completed.status)
  return completed

def hasProgram (name : String) : Job Bool := do
  return !(<- get).absentPrograms.contains name

def fetch (url : String) : Job Page := do
  modify fun w => { w with journal := { w.journal with urls := w.journal.urls ++ [url] } }
  return ((<- get).pages.lookup url).getD { status := 404 }

end Job

end Refinery
