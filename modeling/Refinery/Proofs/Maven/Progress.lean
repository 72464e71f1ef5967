import Refinery.Proofs.Maven.Completion
import Refinery.Proofs.Maven.Encoding

namespace Refinery.Maven

open List Job Workspace Text PathText

/-!
# Runs that go through

A description can be written where its folder is there and has none, if its text can be encoded.
-/

variable {w v : Workspace} {places : List Place} {place : Place} {path text : String} {now : Library}

structure Vacant (w : Workspace) (path : String) (place : Place) : Prop where
  folder : w.isDirectory (directory path) = true
  located : w.placeOf path true = .ok place
  missing : w.tree.get? place = none

lemma Vacant.notFile (vacant : Vacant w path place) (added : w.AddedAt places v)
    (other : place ∉ places) : ((v.nodeAt? path).map Node.isFile).getD false = false := by
  rcases added.vacant vacant.located vacant.missing other with ⟨loc, missing⟩
  rw [nodeAt?_of_placeOf loc, missing]
  rfl

lemma writeInFolder_runs (added : w.AddedAt places v) (vacant : Vacant w path place)
    (other : place ∉ places) (enc : encodable text = true) :
    ∃ u, (writeInFolder path text).execute v = (.ok (), u) /\ w.AddedAt (place :: places) u /\
      u.fileAt path = .ok { content := text.toUTF8 } := by
  rcases added.vacant vacant.located vacant.missing other with ⟨loc, missing⟩
  refine ⟨v.put (some (place, .file { content := text.toUTF8 })), ?_,
    added.put (added.extended.sound.isOpen loc) missing, fileAt_added added.extended.sound loc missing⟩
  rw [execute_writeInFolder, if_pos (added.isDirectory vacant.folder), execute_writeText enc]
  simp only [writing, loc, missing]

lemma execute_print {α : Type} (line : String) (next : Unit -> Job α) (w : Workspace) :
    (printLine line >>= next).execute w = (next ()).execute ((printLine line).execute w).2 := rfl

lemma print_and_write (added : w.AddedAt places v) (vacant : Vacant w path place)
    (other : place ∉ places) (enc : encodable text = true) (line : String) :
    ∃ u, (writeInFolder path text).execute ((printLine line).execute v).2 = (.ok (), u) /\
      w.AddedAt (place :: places) u /\ u.fileAt path = .ok { content := text.toUTF8 } :=
  writeInFolder_runs (added.print ((Printed.refl v).print rfl)) vacant other enc

lemma addMessages_runs (added : w.AddedAt places v) (vacant : Vacant w (path ++ "/pom.xml") place)
    (other : place ∉ places) {target : Module} (needed : (now.discover path).required.find? path = some target)
    (enc : encodable (Pom.messages target (now.discover path).parent (now.discover path).main) = true) :
    ∃ u, (addMessages now path).execute v = (.ok ((now.discover path).require path), u) /\ w.AddedAt (place :: places) u /\
      u.fileAt (path ++ "/pom.xml") = .ok { content :=
        (Pom.messages target (now.discover path).parent (now.discover path).main).toUTF8 } := by
  rcases print_and_write added vacant other enc ("creating missing proto pom: " ++ path) with ⟨u, wrote, after⟩
  refine ⟨u, ?_, after⟩
  rw [addMessages, bind_ok (execute_isFile _ v), vacant.notFile added other,
    if_neg Bool.false_ne_true, execute_print, execute_take (Modules.need_eq_ok_iff.mpr needed),
    bind_ok wrote]
  rfl

lemma execute_field {α : Type} {repo : Doc} {field : String} (given : HasField repo field text)
    (next : String -> Job α) (w : Workspace) :
    ((Job.ofExcept (repo.entry field) >>= fun value => pure value.display : Job String) >>= next).execute w =
      (next text).execute w := by
  rcases map_eq_ok given with ⟨value, found, shown⟩
  have whole : (Job.ofExcept (repo.entry field) >>= fun value => pure value.display : Job String).execute w = (.ok text, w) := by
    rw [execute_take found, shown]
    rfl
  exact bind_ok whole

lemma execute_describe {skip : Bool} {line : String} {next : Unit -> Job Unit} {create : Job Unit}
    (notFile : ((w.nodeAt? path).map Node.isFile).getD false = false) (wanted : skip = false) :
    (isFile path >>= fun there => if there = true then printLine line >>= fun _ =>
        if (!skip) = true then fail .unsupported >>= fun answer => next answer else next ()
      else if (!skip) = true then create else next ()).execute w = create.execute w := by
  rw [bind_ok (execute_isFile _ w), notFile, wanted]
  rfl

section Library

variable {lib : Library} {repo : Doc} {name address description : String} {excluded : List String}
  {first second third : Place}

lemma describeLibrary_runs (added : w.AddedAt places v) (client : Vacant w (lib.main.artifact ++ "/pom.xml") first)
    (bill : Vacant w (lib.main.artifact ++ "-bom/pom.xml") second) (whole : Vacant w "./pom.xml" third)
    (apart : (third :: second :: first :: places).Nodup) (wanted : excluded.contains lib.main.artifact = false)
    (wantedBill : excluded.contains (lib.main.artifact ++ "-bom") = false)
    (addressed : HasField repo "repo" address) (desc : HasField repo "api_description" description)
    (texts : encodable (Pom.client lib.main lib.parent address name description
        (lib.requiredWith "proto-") (lib.requiredWith "grpc-")) = true /\
      encodable (Pom.bill lib.main address name lib.modules) = true /\
      encodable (Pom.library lib.main address name lib.modules) = true) :
    ∃ u, (describeLibrary lib repo name excluded).execute v = (.ok (), u) /\ w.AddedAt (third :: second :: first :: places) u := by
  rcases nodup_cons.mp apart with ⟨newThird, rest⟩
  rcases nodup_cons.mp rest with ⟨newSecond, rest⟩
  have newFirst := (nodup_cons.mp rest).1
  rcases print_and_write added client newFirst texts.1 "creating missing cloud pom.xml" with ⟨early, wroteClient, withClient, -⟩
  rcases print_and_write withClient bill newSecond texts.2.1 "creating missing bom pom.xml" with ⟨middle, wroteBill, withBill, -⟩
  rcases print_and_write withBill whole newThird texts.2.2 "creating missing parent pom.xml" with ⟨last, wroteWhole, withWhole, -⟩
  refine ⟨last, ?_, withWhole⟩
  have absent : ((middle.nodeAt? "pom.xml").map Node.isFile).getD false = false := by
    rw [<- nodeAt?_here_pom]
    exact whole.notFile withBill newThird
  rw [describeLibrary]
  refine (execute_describe (client.notFile added newFirst) wanted).trans ?_
  rw [execute_print, execute_field addressed, execute_field desc, bind_ok wroteClient]
  refine (execute_describe (bill.notFile withClient newSecond) wantedBill).trans ?_
  rw [execute_print, execute_field addressed, bind_ok wroteBill, bind_ok (execute_isFile _ _), absent]
  dsimp only
  rw [if_neg Bool.false_ne_true, execute_print, execute_field addressed, wroteWhole]

end Library

lemma versions_run (added : w.AddedAt places v) {file : FileNode} (there : w.fileAt path = .ok file)
    (folder : w.isDirectory (directory path) = true) (enc : encodable text = true) :
    ∃ u, (writeInFolder path text).execute v = (.ok (), u) := by
  rcases fileAt_eq_ok_iff.mp (added.extended.fileAt there) with ⟨place, loc, found⟩
  rw [execute_writeInFolder, if_pos (added.isDirectory folder), execute_writeText enc]
  simp only [writing, loc, found]
  exact ⟨_, rfl⟩

end Refinery.Maven
