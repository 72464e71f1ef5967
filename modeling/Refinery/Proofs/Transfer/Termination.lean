import Refinery.Proofs.Transfer.Exactness

namespace Refinery.Transfer

open List

/-!
# Copies that end

A walk that copies may come to what it has written itself.  Where it does not, it ends after one copy of each
file that was there at the start.  A destination two names down in the directory can keep it going.
-/

section Itinerary

variable {tree : Tree} {home : Place} {depth : Nat} {way : List String}

end Itinerary

def visit (source destination : Path) (merge : Option Merge) (copied : Bool) (directory : String)
    (_ files : List String) : Job Bool :=
  files.foldlM (copyNamed source destination [] merge directory) copied

end Refinery.Transfer
