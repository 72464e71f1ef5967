import Refinery.Proofs.Maven.Filling

namespace Refinery.Maven

open Workspace PathText

/-!
# Descriptions of a whole library

The client, the list of modules and the library are described, or left out.
-/

variable {w v u : Workspace} {path text s line : String} {library : Library} {repo : Doc} {name : String}
  {excluded : List String} {shared : Bool}

/-! ## Client, list of modules and library -/

/-- The text of a field in the description of a repository. -/
def HasField (repo : Doc) (field text : String) : Prop :=
  (repo.entry field).map Doc.display = .ok text

lemma hasField_of_run {field : String}
    (ran : (Job.ofExcept (repo.entry field) >>= fun value => pure value.display : Job String).execute w =
      (.ok text, v)) : HasField repo field text /\ v = w := by
  rcases Job.of_bind_ok ran with ⟨value, after, reading, ended⟩
  rw [Job.execute_ofExcept, Prod.mk.injEq] at reading
  rcases reading with ⟨found, rfl⟩
  cases ended
  refine ⟨?_, rfl⟩
  rw [HasField, found]
  rfl

lemma describe_or_skip {skip : Bool} {next : Unit -> Job Unit} {create : Job Unit} (Made : Workspace -> Prop) (sound : w.Sound)
    (creates : ((w.nodeAt? path).map Node.isFile).getD false = false -> create.execute w = (.ok (), u) ->
      ∃ v, w.Extended v /\ Made v /\ (next ()).execute v = (.ok (), u))
    (ran : (Job.isFile path >>= fun there => if there = true then Job.printLine line >>= fun _ =>
        if (!skip) = true then Job.fail .unsupported >>= fun answer => next answer else next ()
      else if (!skip) = true then create else next ()).execute w = (.ok (), u)) :
    ∃ v, w.Extended v /\ (skip = false -> Made v) /\ (next ()).execute v = (.ok (), u) := by
  rw [Job.bind_ok (Job.execute_isFile _ w)] at ran
  cases isFile : ((w.nodeAt? path).map Node.isFile).getD false <;> rw [isFile] at ran
  · rw [if_neg Bool.false_ne_true] at ran
    cases skip with
    | true => exact ⟨w, .refl sound, nofun, ran⟩
    | false =>
      rcases creates isFile ran with ⟨v, extended, made, onward⟩
      exact ⟨v, extended, fun _ => made, onward⟩
  · rw [if_pos rfl] at ran
    rcases Job.of_bind_ok ran with ⟨_, after, printing, onward⟩
    have extended := Job.Extends.printLine line w sound
    rw [printing] at extended
    cases skip with
    | true => exact ⟨after, extended, nofun, onward⟩
    | false =>
      rcases Job.of_bind_ok onward with ⟨_, _, failed, _⟩
      cases failed

lemma created (sound : w.Sound) (printing : (Job.printLine line).execute w = (.ok (), v))
    (notFile : ((w.nodeAt? (s ++ "/pom.xml")).map Node.isFile).getD false = false)
    (wrote : (writeInFolder (s ++ "/pom.xml") text).execute v = (.ok (), u)) :
    w.Extended u /\ u.fileAt (s ++ "/pom.xml") = .ok { content := text.toUTF8 } := by
  have printed := Job.Extends.printLine line w sound
  cases printing
  rw [pom_path] at notFile wrote ⊢
  rcases writeInFolder_new printed.sound (by decide) notFile wrote with ⟨extended, there⟩
  exact ⟨printed.trans extended, there⟩

section Library

variable (library : Library) (repo : Doc) (name : String) (v : Workspace)

def ClientDescribed : Prop :=
  ∃ address description, HasField repo "repo" address /\ HasField repo "api_description" description /\
    v.fileAt (library.main.artifact ++ "/pom.xml") =
      .ok { content := (Pom.client library.main library.parent address name description
        (library.requiredWith "proto-") (library.requiredWith "grpc-")).toUTF8 }

def BillDescribed : Prop :=
  ∃ address, HasField repo "repo" address /\ v.fileAt (library.main.artifact ++ "-bom/pom.xml") =
      .ok { content := (Pom.bill library.main address name library.modules).toUTF8 }

def WholeDescribed : Prop :=
  ∃ address, HasField repo "repo" address /\ v.fileAt "./pom.xml" =
      .ok { content := (Pom.library library.main address name library.modules).toUTF8 }

end Library

lemma bill_path (s : String) : s ++ "-bom/pom.xml" = s ++ "-bom" ++ "/pom.xml" := by
  rw [String.append_assoc]
  rfl

section Kept

variable (stays : ∀ {s : String} {file : FileNode}, w.fileAt (s ++ "/pom.xml") = .ok file ->
  v.fileAt (s ++ "/pom.xml") = .ok file)

include stays

lemma ClientDescribed.kept (made : ClientDescribed library repo name w) : ClientDescribed library repo name v := by
  rcases made with ⟨address, description, addressed, desc, there⟩
  exact ⟨address, description, addressed, desc, stays there⟩

lemma BillDescribed.kept (made : BillDescribed library repo name w) : BillDescribed library repo name v := by
  rcases made with ⟨address, addressed, there⟩
  rw [bill_path] at there
  refine ⟨address, addressed, ?_⟩
  rw [bill_path]
  exact stays there

lemma WholeDescribed.kept (made : WholeDescribed library repo name w) : WholeDescribed library repo name v := by
  rcases made with ⟨address, addressed, there⟩
  exact ⟨address, addressed, @stays "." _ there⟩

end Kept

lemma nodeAt?_here_pom (w : Workspace) : w.nodeAt? ("." ++ "/pom.xml") = w.nodeAt? "pom.xml" := by
  have same : Job.pathOf ("." ++ "/pom.xml") = Job.pathOf "pom.xml" := by decide +kernel
  rw [nodeAt?, nodeAt?, same]
  rfl

lemma describeLibrary_ok (sound : w.Sound) (ran : (describeLibrary library repo name excluded).execute w = (.ok (), u)) :
    w.Extended u /\ (excluded.contains library.main.artifact = false -> ClientDescribed library repo name u) /\
      (excluded.contains (library.main.artifact ++ "-bom") = false -> BillDescribed library repo name u) /\
      WholeDescribed library repo name u := by
  rw [describeLibrary] at ran
  obtain ⟨first, start, client, ran⟩ := describe_or_skip (ClientDescribed library repo name) sound (by
    intro notFile creating
    rcases Job.of_bind_ok creating with ⟨_, printed, printing, texts⟩
    rcases Job.of_bind_ok texts with ⟨address, between, reading, other⟩
    rcases hasField_of_run reading with ⟨addressed, rfl⟩
    rcases Job.of_bind_ok other with ⟨description, later, reading, writing⟩
    rcases hasField_of_run reading with ⟨desc, rfl⟩
    rcases Job.of_bind_ok writing with ⟨_, after, wrote, onward⟩
    rcases created sound printing notFile wrote with ⟨extended, there⟩
    exact ⟨after, extended, ⟨address, description, addressed, desc, there⟩, onward⟩) ran
  obtain ⟨second, middle, bill, ran⟩ := describe_or_skip (BillDescribed library repo name) start.sound (by
    intro notFile creating
    rcases Job.of_bind_ok creating with ⟨_, printed, printing, texts⟩
    rcases Job.of_bind_ok texts with ⟨address, between, reading, writing⟩
    rcases hasField_of_run reading with ⟨addressed, rfl⟩
    rcases Job.of_bind_ok writing with ⟨_, after, wrote, onward⟩
    rw [bill_path] at notFile wrote
    rcases created start.sound printing notFile wrote with ⟨extended, there⟩
    rw [<- bill_path] at there
    exact ⟨after, extended, ⟨address, addressed, there⟩, onward⟩) ran
  rw [Job.bind_ok (Job.execute_isFile _ second)] at ran
  cases isFile : ((second.nodeAt? "pom.xml").map Node.isFile).getD false <;> rw [isFile] at ran
  · rcases Job.of_bind_ok ran with ⟨_, printed, printing, onward⟩
    rcases Job.of_bind_ok onward with ⟨address, after, reading, wrote⟩
    rcases hasField_of_run reading with ⟨addressed, rfl⟩
    rw [<- nodeAt?_here_pom] at isFile
    rcases created middle.sound printing isFile wrote with ⟨last, there⟩
    refine ⟨start.trans (middle.trans last), ?_, ?_, address, addressed, there⟩
    · intro wanted
      exact (client wanted).kept (middle.trans last).fileAt
    · intro wanted
      exact (bill wanted).kept last.fileAt
  · rcases Job.of_bind_ok ran with ⟨_, printed, -, onward⟩
    rcases Job.of_bind_ok onward with ⟨_, _, failed, _⟩
    cases failed

/-! ## The list of versions -/

/-- The file with the versions of modules: in the working directory, or above it. -/
def versionsPath (shared : Bool) : String :=
  if shared then "../versions.txt" else "./versions.txt"

lemma isDirectory_versions (sound : w.Sound) (shared : Bool) :
    w.isDirectory (directory (versionsPath shared)) = true := by
  rw [isDirectory_eq_true_iff]
  cases shared with
  | true =>
    have folder : directory (versionsPath true) = ".." := by decide +kernel
    have up : Job.pathOf ".." = ⟨.relative, [".."]⟩ := by decide +kernel
    rw [folder, nodeAt?, if_neg (by decide), up]
    exact sound.tree.up sound.standing
  | false =>
    have folder : directory (versionsPath false) = "." := by decide +kernel
    have here : Job.pathOf "." = ⟨.relative, []⟩ := by decide +kernel
    rw [folder, nodeAt?, if_neg (by decide), here]
    exact sound.standing

def Firm (w : Workspace) (shared : Bool) : Prop :=
  (∃ file, w.fileAt (versionsPath shared) = .ok file) \/
    shared = false /\ ∀ target, w.tree.get? (w.directory ++ ["versions.txt"]) ≠ some (.link target)

lemma versions_apart {place spot : Place} (undescribed : Undescribed w) (firm : Firm w shared) (extended : w.Extended v)
    (loc : v.placeOf (versionsPath shared) true = .ok place)
    (reached : v.placeOf (s ++ "/pom.xml") true = .ok spot) : spot ≠ place := by
  rcases placeOf_pom undescribed extended reached with ⟨above, rfl⟩
  rcases firm with ⟨file, there⟩ | ⟨rfl, noLink⟩
  · rcases fileAt_eq_ok_iff.mp there with ⟨before, leads, found⟩
    rw [extended.placeOf leads found] at loc
    cases loc
    rintro rfl
    cases undescribed above _ found
  · have straight : ∀ target, v.tree.get? (v.directory ++ ["versions.txt"]) ≠ some (.link target) := by
      intro target found
      rw [extended.directory] at found
      exact noLink target (extended.links _ target found)
    have here : v.tree.locate v.directory Path.here = .ok v.directory := rfl
    have below := Tree.locate_below extended.sound.tree extended.sound.standing here
      extended.sound.standing (List.cons_ne_nil "versions.txt" [])
      (extended.sound.tree.open_child extended.sound.standing (by decide)) (fun (_ : true = true) => straight)
    have walked := locate_of_placeOf loc
    have path : Job.pathOf (versionsPath false) = ⟨Path.here.anchor, Path.here.names ++ ["versions.txt"]⟩ := by
      decide +kernel
    rw [path, below] at walked
    cases walked
    intro same
    have last := congrArg List.getLast? same
    simp at last

lemma fileAt_of_stays {file : FileNode} (stays : ∀ s place file, w.placeOf (s ++ "/pom.xml") true = .ok place ->
      w.tree.get? place = some (.file file) ->
      v.placeOf (s ++ "/pom.xml") true = .ok place /\ v.tree.get? place = some (.file file))
    (there : w.fileAt (s ++ "/pom.xml") = .ok file) : v.fileAt (s ++ "/pom.xml") = .ok file := by
  rcases fileAt_eq_ok_iff.mp there with ⟨place, loc, present⟩
  exact fileAt_eq_ok_iff.mpr ⟨place, stays s place file loc present⟩

lemma versions_written (undescribed : Undescribed w) (firm : Firm w shared) (extended : w.Extended v)
    (wrote : (writeInFolder (versionsPath shared) text).execute v = (.ok (), u)) :
    (∃ file, u.fileAt (versionsPath shared) = .ok file /\ file.content = text.toUTF8) /\
      ∀ s place file, v.placeOf (s ++ "/pom.xml") true = .ok place -> v.tree.get? place = some (.file file) ->
        u.placeOf (s ++ "/pom.xml") true = .ok place /\ u.tree.get? place = some (.file file) := by
  rw [execute_writeInFolder, if_pos (isDirectory_versions extended.sound shared)] at wrote
  rcases Job.writeText_ok extended.sound wrote with ⟨place, file, loc, ⟨content, -⟩, receives, rfl⟩
  refine ⟨⟨file, fileAt_put receives loc, content⟩, ?_⟩
  intro s spot other reached found
  exact placeOf_put_other receives reached found (versions_apart undescribed firm extended loc reached)

end Refinery.Maven
