import Refinery.Template.Parse
import Refinery.Template.Prepare

namespace Refinery.Template

open Job Text

/-!
# Rendering templates

The parts of the engine are put together: each uses an engine of one step less for its smaller tasks.
-/

/-!
## Calling

Methods, macros, blocks, loops, kinds of entities, and functions outside of templates can be called.
-/

namespace Render

def newRange (a : Arguments Entity) : Render Entity := do
  let numbers <- (<- a.positional 1 3).mapM fun value => value.needWhole
  match numbers with
  | [stop] => return .range 0 stop 1
  | [start, stop] => return .range start stop 1
  | [start, stop, step] => if step = 0 then throw .badValue else return .range start stop step
  | _ => throw .wrongKind

def construct (e : Engine) (kind : String) (a : Arguments Entity) : Render Entity := do
  match kind with
  | "range" => newRange a
  | "dict" => newMap (<- extended e [] a)
  | "namespace" => return .cell (<- newCell (.space (<- extended e [] a)))
  | "joiner" =>
    let bound <- a.bind ["sep"]
    return .cell (<- newCell (.joiner (argument bound 0 (.text ", ")) false))
  | "cycler" =>
    if !a.named.isEmpty then throw .wrongKind
    if a.placed.isEmpty then throw .disturbed
    return .cell (<- newCell (.cycler a.placed 0))
  | _ => throw .wrongKind

def callFunction (e : Engine) (name : String) (a : Arguments Entity) : Render Entity := do
  match e.functions.lookup name with
  | some function =>
    let store <- store
    let value (entity : Entity) : Value := entity.toValue store Entity.nesting
    let outside : Arguments Value := {
      placed := a.placed.map value
      named := a.named.map fun (name, entity) => (name, value entity) }
    Entity.ofValue (<- ofJob (function outside))
  | none =>
    let bound <- a.bind ["n", "html", "min", "max"]
    let count <- (argument bound 0 (.int 5)).needWhole
    if 0 < count then throw .unsupported
    return textOf (<- flag bound 1 true) ""

def call (e : Engine) (context : Nat) (function : Entity) (a : Arguments Entity) :
    Render Entity := do
  match function with
  | .undefined => throw missing
  | .method target name => callMethod e context target name a
  | .function name => callFunction e name a
  | .kind name => construct e name a
  | .routine own => invoke e context own a
  | .block name number level =>
    a.nothing
    let text <- collect true (blockAt e name number level)
    return textOf (<- escapes number) text
  | .cell number =>
    match <- cell? number with
    | some (.joiner separator used) =>
      a.nothing
      setCell number (.joiner separator true)
      return if used then separator else .text ""
    | some (.loop state) =>
      let bound <- a.bind ["iterable"] 1
      match state.recursion with
      | some loop => loopAgain e loop (argument bound 0 .null) (state.depth + 1)
      | none => throw .wrongKind
    | _ => throw .wrongKind
  | _ => throw .wrongKind

end Render

/-! ## The whole engine -/

structure Library where
  location : String
  keepLast : Bool := true
  functions : List (String × (Arguments Value -> Job Value)) := []

namespace Library

def nameParts? (name : String) : Option (List String) :=
  let parts := split "/" name
  if parts.contains ".." then none else some (parts.filter fun part => part ≠ "" && part ≠ ".")

def fileOf (library : Library) (name : String) : Job String := do
  if let some parts := nameParts? name then
    let path := parts.foldl PathText.join library.location
    if <- isFile path then return path
  fail (.template .notFound)

def read (library : Library) (name : String) : Job Sheet := do
  let text <- readText (<- library.fileOf name)
  Job.ofExcept (Sheet.parse library.keepLast name text)

end Library

def Engine.refusing (library : Library) : Engine where
  functions := library.functions
  load _ := throw .tooDeep
  next _ := throw .tooDeep
  call _ _ _ := throw .tooDeep
  filter _ _ _ _ := throw .tooDeep
  test _ _ _ _ := throw .tooDeep
  eval _ _ := throw .tooDeep
  exec _ _ := throw .tooDeep
  sheet _ _ := throw .tooDeep

def Render.load (e : Engine) (library : Library) (name : String) : Render Sheet := do
  if let some sheet := (<- get).sheets.lookup name then return sheet
  let sheet <- Render.prepare e (<- Render.ofJob (library.read name))
  modify fun r => { r with sheets := (name, sheet) :: r.sheets }
  return sheet

def engine (library : Library) : (steps : Nat) -> Engine
  | 0 => .refusing library
  | steps + 1 => {
    functions := library.functions
    load := fun name => Render.load (engine library steps) library name
    next := fun number => Render.next (engine library steps) number
    call := fun context function a => Render.call (engine library steps) context function a
    filter := fun context name value a => Render.filter (engine library steps) context name value a
    test := fun context name value a => Render.test (engine library steps) context name value a
    eval := fun frame expr => Render.eval (engine library steps) frame expr
    exec := fun frame pieces => Render.exec (engine library steps) frame pieces
    sheet := fun sheet context => Render.execSheet (engine library steps) sheet context }

def manySteps : Nat := 20000

namespace Library

def run {α : Type} (rendering : Render α) : Job (Except Failure α × String) := do
  let (outcome, r) := StateT.run (ExceptT.run rendering) { workspace := <- get : Rendering }
  set r.workspace
  return (outcome, r.output)

def load (library : Library) (name : String) : Job Sheet := do
  let (outcome, _) <- run ((engine library manySteps).load name)
  Job.ofExcept outcome

def render (library : Library) (sheet : Sheet) (parameters : Parameters) : Job (Except Failure Unit × String) :=
  run do
    let given <- parameters.mapM fun (name, value) => do return (name, <- Entity.ofValue value)
    let context <- Render.contextOf sheet given
    (engine library manySteps).sheet sheet context

end Library

/-!
## Folders of templates

Templates are rendered into files of a folder.
-/

namespace Library

def ofLocation (location : String) : Library :=
  { location }

def names (library : Library) : Job (List String) := do
  let found <- walk (fun found directory _ files =>
    return found ++ files.map fun file =>
      trimBy (· == '/')
        (drop library.location.length (PathText.join directory file)))
    (<- depthLimit) [] library.location
  return sorted (found.map fun name =>
    if startsWith name "./" then drop 2 name else name).eraseDups

def targetName (name : String) : String :=
  if endsWith name ".j2" then dropEnd 3 name else name

def renderTo (library : Library) (name : String) (folder : Path) (parameters : Parameters) :
    Job Path := do
  let source <- library.fileOf name
  let sheet <- library.load name
  let target := folder / targetName name
  makeDirectories target.parent
  writeText target ""
  let (result, text) <- library.render sheet parameters
  writeText target text
  Job.ofExcept result
  setMode target (<- modeOf source)
  return target

/-- Render all templates into a folder and print their names; those in `excludes` are skipped. -/
def renderAll (library : Library) (excludes : List String) (folder : Path)
    (parameters : Parameters) : Job Unit := do
  (<- library.names).forM fun name => do
    if excludes.contains name then printLine ("Skipping: " ++ name)
    else
      printLine name
      let _ <- library.renderTo name folder parameters

end Library

structure Folder where
  library : Library
  source : Path
  output : Path
  excludes : List String := []

namespace Folder

def new (location : String) (excludes : List String := []) : Job Folder := do
  return ⟨.ofLocation location, Path.ofString location, <- keepTemporary, excludes⟩

def render (folder : Folder) (name : String) (inside : Path := .here) (parameters : Parameters := []) : Job Path :=
  folder.library.renderTo name (folder.output / inside) parameters

def renderAll (folder : Folder) (inside : Path := .here) (parameters : Parameters := []) :
    Job Path := do
  folder.library.renderAll folder.excludes (folder.output / inside) parameters
  return folder.output

end Folder

end Refinery.Template
