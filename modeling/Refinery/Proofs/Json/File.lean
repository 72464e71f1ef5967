import Refinery.Proofs.Json.Shape
import Refinery.Proofs.Transfer.Placing
import Refinery.Proofs.Workspace.Writing

namespace Refinery

open List

/-!
# Documents in files

A plain document is written with characters that are read as they are.
-/

lemma Json.decoded?_of_clear {text : String} (clear : text.toList.all isClear = true) :
    Merge.decoded? text.toUTF8 = some text := by
  refine Merge.decoded?_toUTF8 fun carriage => ?_
  exact absurd (all_eq_true.mp clear _ carriage) (by decide)

namespace Workspace

def readAt (w : Workspace) (place : Place) : Option String :=
  (w.textAt place).map Text.unifyLineEnds

lemma readAt_eq_some_iff {w : Workspace} {place : Place} {text : String} : w.readAt place = some text ↔
    ∃ file, w.tree.get? place = some (.file file) /\ Merge.decoded? file.content = some text := by
  rw [readAt, textAt]
  cases w.tree.get? place with
  | none => simp
  | some node => cases node <;> simp [Merge.decoded?]

end Workspace

namespace Job

variable {w : Workspace} {path text : String} {place : Place} {file : FileNode} {doc : Doc}
  (located : w.placeOf path true = .ok place) (found : w.tree.get? place = some (.file file))

include located found

lemma execute_readJson (decoded : Merge.decoded? file.content = some text)
    (read : Json.parse? text = some doc) : (readJson path).execute w = (.ok doc, w) := by
  have reading := execute_readText located found
  rw [decoded] at reading
  rw [readJson, bind_ok reading, read]
  rfl

lemma execute_writeJson {width : Nat} (printed : Json.print? (.indented width) doc = some text)
    (clear : text.toList.all Json.isClear = true) : (writeJson path width doc).execute w =
      (.ok (), w.put (some (place, .file { file with content := text.toUTF8, age := 0 }))) := by
  rw [writeJson, printed, Option.getD_some, execute_writeText (Json.encodable_of_isClear clear)]
  simp only [Workspace.writing, located, found]

end Job
end Refinery
