import Mathlib
import Refinery.Sample.Metadata

namespace Refinery.Text

open List

/-!
# Words of a title

A space is put wherever a new word starts, and nowhere else.
-/

/-- A new word starts behind a place of a text: at a capital letter behind a small letter or a digit, or behind
a capital letter and before one of these. -/
def WordEnds (cs : List Char) (place : Nat) : Prop :=
  cs[place + 1]?.any isCapital = true /\ (cs[place]?.any isSmallOrDigit = true \/
    cs[place]?.any isCapital = true /\ cs[place + 2]?.any isSmallOrDigit = true)

instance (cs : List Char) (place : Nat) : Decidable (WordEnds cs place) :=
  inferInstanceAs (Decidable (_ /\ _))

/-- A text with a space wherever a new word starts. -/
def spaced (cs : List Char) : List Char :=
  (range cs.length).flatMap fun place => cs[place]?.toList ++ if WordEnds cs place then [' '] else []

def CaseRun.steps (run : CaseRun) : List (Nat × Char) :=
  (range ((run.last - run.first) / run.step + 1)).map fun i =>
    let code := run.first + run.step * i
    (code, Char.ofNat (Int.toNat (Int.ofNat code + run.distance)))

end Refinery.Text
