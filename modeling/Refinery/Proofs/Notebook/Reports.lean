import Refinery.Notebook.Commands
import Refinery.Proofs.Execution

namespace Refinery.Notebook

open List Job

/-!
# Reports on notebooks

However a notebook ends, the next one is run, and the report has one row for each of them.
-/

abbrev Outcome := Except Failure BuildAnswer

/-- A notebook passes if it can be prepared, archived and sent, and its build ends without an error. -/
def passed : Outcome -> Bool
  | .ok build => build.error.isNone
  | .error _ => false

def said (w : Workspace) (line : String) : Workspace :=
  ((printLine line).execute w).2

def startOf (setting : Setting) (notebook : String) : Job BuildAnswer :=
  start setting notebook (setting.artifactsBucket ++ "/" ++ (Path.ofString notebook).name) (tagOf notebook)

def verdict (notebook : String) : Outcome -> String
  | .error err => notebook ++ " FAILED in " ++ durationText 0 ++ ": " ++ err.describe
  | .ok build => match build.error with
    | some text => notebook ++ " FAILED in " ++ durationText 0 ++ ": " ++ text
    | none => notebook ++ " PASSED in " ++ durationText 0 ++ "."

/-- Each notebook is announced, started once and judged, in the workspace that the one before it left. -/
inductive RanAll (setting : Setting) : Workspace -> List String -> List Outcome -> Workspace -> Prop
  | nil (w : Workspace) : RanAll setting w [] [] w
  | cons {w v last : Workspace} {notebook : String} {notebooks : List String} {outcome : Outcome} {outcomes : List Outcome}
      (started : (startOf setting notebook).execute (said w ("Running notebook: " ++ notebook)) = (outcome, v))
      (rest : RanAll setting (said v (verdict notebook outcome)) notebooks outcomes last) :
      RanAll setting w (notebook :: notebooks) (outcome :: outcomes) last

def row (ran : String × Outcome) : List String :=
  [tagOf ran.1, if passed ran.2 then "PASSED" else "FAILED", durationText 0, (ran.2.toOption.map BuildAnswer.logUrl).getD ""]

def opening (notebooks : List String) : String :=
  if notebooks.isEmpty then "No notebooks modified in this pull request."
  else "Found " ++ toString notebooks.length ++ " modified notebooks: " ++ Text.quotedList notebooks

attribute [local irreducible] durationText tagOf start

variable {setting : Setting} {w v last : Workspace} {notebook : String} {notebooks : List String} {outcome : Outcome}
  {outcomes : List Outcome}

namespace RanAll

lemma length_eq (ran : RanAll setting w notebooks outcomes last) : outcomes.length = notebooks.length := by
  induction ran with
  | nil => rfl
  | cons _ _ ih => rw [length_cons, length_cons, ih]

end RanAll

end Refinery.Notebook
