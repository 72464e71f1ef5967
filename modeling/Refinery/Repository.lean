import Refinery.Provenance.Tracking
import Refinery.Roots

namespace Refinery

open Job Text

/-!
# Repositories

A clone is made once and kept in a cache.
-/

structure RepositoryName where
  owner : String
  name : String
  deriving DecidableEq

namespace RepositoryName

def afterHost? (text : List Char) : Option (List Char) :=
  let rest? :=
    if "https://".toList.isPrefixOf text then some (text.drop 8)
    else if "git@".toList.isPrefixOf text then some (text.drop 4)
    else none
  match rest? with
  | some rest =>
    match rest.drop 6 with
    | dot :: 'c' :: 'o' :: 'm' :: sep :: inner =>
      if "github".toList.isPrefixOf rest && dot != '\n' && (sep == ':' || sep == '/') then
        some inner
      else none
    | _ => none
  | none => none

def pairAt? (text : List Char) : Option RepositoryName :=
  match text.dropWhile (· != '/') with
  | _ :: rest =>
    let owner := text.takeWhile (· != '/')
    let name := rest.takeWhile (· != '/')
    if owner.isEmpty || name.isEmpty then none
    else some ⟨String.ofList owner, String.ofList name⟩
  | [] => none

def here? (text : List Char) : Option RepositoryName :=
  ((afterHost? text).bind pairAt?).or (pairAt? text)

def search? : List Char -> Option RepositoryName
  | [] => none
  | c :: rest => (here? (c :: rest)).or (search? rest)

def parse? (address : String) : Option RepositoryName :=
  (search? address.toList).map fun found =>
    if endsWith found.name ".git" then { found with name := dropEnd 4 found.name }
    else found

def parse (address : String) : Except Failure RepositoryName :=
  match parse? address with
  | some found => .ok found
  | none => .error (.complaint .badRepositoryUrl)

end RepositoryName

structure Commit where
  sha : String
  message : String
  deriving DecidableEq

namespace Commit

def entries (message : String) : List (String × String) :=
  (brokenLines message).foldl (fun found line =>
    match cut? ":" line with
    | some (key, value) =>
      let entry := (key, trim value)
      if found.any (·.1 == key) then found.map fun old => if old.1 == key then entry else old
      else found ++ [entry]
    | none => found) []

end Commit

namespace Repository

def address (withKeys : Bool) (repository : String) : String :=
  if withKeys then "git@github.com:" ++ repository ++ ".git"
  else "https://github.com/" ++ repository ++ ".git"

def cloneAddress (repository : String) : Job String := do
  return address (<- chosen? "AUTOSYNTH_USE_SSH").isSome repository

def cacheDirectory : Job Path := do
  let directory := (<- home) / ".cache" / "synthtool"
  makeDirectories directory
  return directory

def usualBranch? (branches : List String) : Option String :=
  branches.find? fun branch => branch == "master" || branch == "main"

def defaultBranch? (directory : String) : Job (Option String) := do
  let answer <- runChecked
    ["git", "branch", "--sort=-committerdate", "--format=%(refname:short)"] (some directory)
  return usualBranch? (brokenLines answer.output)

def latestCommit (directory : Option String := none) : Job Commit := do
  let answer <- runChecked ["git", "log", "-1", "--pretty=%H%n%B"] directory
  match cut? "\n" answer.output with
  | some (sha, message) => return ⟨sha, message⟩
  | none => fail .badValue

variable (url : String)

def preclone? : Job (Option String) := do
  return (<- Provenance.preclones).repositories.lookup url

def refresh (directory : Path) : Job (Option String) := do
  if <- exists? directory then
    let branch <- defaultBranch? directory
    let _ <- runChecked ["git", "checkout", branch.getD "None"] (some directory)
    let _ <- runChecked ["git", "pull"] (some directory)
    return branch
  else
    let _ <- runChecked
      ["git", "clone", "--recurse-submodules", "--single-branch", url, directory]
    return none

def prepare (parent : Option Path) (commit : Option String) (anew : Bool) :
    Job (Path × Option String) := do
  match (<- preclone? url).filter (· ≠ "") with
  | some preclone => return (Path.ofString preclone, commit)
  | none =>
    let parent <- match parent with
      | some path => pure path
      | none => cacheDirectory
    let directory := parent / (Path.ofString url).stem
    if anew && (<- exists? directory) then removeTree directory
    let branch <- refresh url directory
    return (directory, (commit.filter (· ≠ "")).or branch)

def noteSource (directory : Path) : Job Unit := do
  let latest <- latestCommit (some directory)
  let internalRef := ((Commit.entries latest.message).lookup "PiperOrigin-RevId").getD ""
  record (·.addSource (.git
    { name := directory.name, remote := url, sha := latest.sha, internalRef, localPath := directory }))

def clone (parent : Option Path := none) (commit : Option String := none)
    (anew : Bool := false) : Job Path := do
  let (directory, goal) <- prepare url parent commit anew
  match goal.filter (· ≠ "") with
  | some commit =>
    let _ <- runChecked ["git", "reset", "--hard", commit] (some directory)
  | none => pure ()
  Roots.add directory
  noteSource url directory
  return directory

end Repository
end Refinery
