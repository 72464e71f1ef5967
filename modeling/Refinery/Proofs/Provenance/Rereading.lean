import Refinery.Proofs.Json.RoundTrip
import Refinery.Proofs.Provenance.Excluded
import Refinery.Proofs.Workspace.Writing

namespace Refinery

open List Job Text

/-!
# Records are read as they were written

A record leaves out what has its default, and is written in ASCII.
-/

abbrev AllEncodable (texts : List String) : Prop :=
  ∀ text ∈ texts, encodable text = true

namespace Record

variable {α : Type}

/-! ## Reading fields -/

lemma fieldsOf?_fields (pairs : List (String × Doc)) : fieldsOf? (.fields pairs) = some pairs := by
  rw [Doc.fields, fieldsOf?]
  induction pairs with
  | nil => rfl
  | cons pair rest ih =>
    rw [map_cons, mapM_cons, ih]
    rfl

lemma readFields_fields (start : α) (set : α -> String -> Doc -> Option α) (pairs : List (String × Doc)) :
    readFields start set (.fields pairs) = pairs.foldlM (fun entry field => set entry field.1 field.2) start := by
  rw [readFields, fieldsOf?_fields]
  rfl

lemma text?_text {s : String} (enc : encodable s = true) : text? (.text s) = some s := by
  rw [text?, if_pos enc]

inductive Filled (put : α -> String -> String -> Option α) : α -> List (String × String) -> α -> Prop
  | nil (entry : α) : Filled put entry [] entry
  | cons {start entry : α} {name text : String} {rest : List (String × String)} (fill : String -> α)
      (fills : ∀ value, put start name value = some (fill value)) (default : fill "" = start)
      (later : Filled put (fill text) rest entry) : Filled put start ((name, text) :: rest) entry

variable {pairs : List (String × String)}

lemma readFields_textFields {put : α -> String -> String -> Option α} {start entry : α}
    (filled : Filled put start pairs entry) (enc : AllEncodable (pairs.map Prod.snd)) :
    readFields start (fun entry name value => do put entry name (<- textOr? value)) (textFields pairs) =
      some entry := by
  rw [textFields, readFields_fields]
  induction filled with
  | nil entry => rfl
  | @cons start entry name text rest fill fills default later ih =>
    have remaining := ih fun other mem => enc other (mem_cons_of_mem _ mem)
    by_cases empty : text = ""
    · rw [filter_cons_of_neg (by simp [empty]), <- default, <- remaining, empty]
    · have reads : textOr? (.text text) = some text := text?_text (enc text mem_cons_self)
      rw [filter_cons_of_pos (by simp [empty]), map_cons, foldlM_cons]
      simp only [reads, Option.bind_eq_bind, Option.bind_some, fills]
      exact remaining

abbrev Tidy (names : List String) : Prop :=
  names.Nodup /\ AllEncodable names

lemma fields_plain {pairs : List (String × Doc)} (names : List String) (tidy : Tidy names)
    (among : (pairs.map Prod.fst).Sublist names) (each : ∀ pair ∈ pairs, Json.Plain pair.2) : Json.Plain (.fields pairs) :=
  .fields (tidy.1.sublist among) (fun _ mem => tidy.2 _ (among.subset (mem_map_of_mem mem))) each

lemma textFields_plain {names : List String} (tidy : Tidy names)
    (named : pairs.map Prod.fst = names) (enc : AllEncodable (pairs.map Prod.snd)) : Json.Plain (textFields pairs) := by
  refine fields_plain names tidy ?_ ?_
  · rw [map_map, <- named]
    exact filter_sublist.map _
  · intro pair mem
    obtain ⟨field, kept, rfl⟩ := mem_map.mp mem
    exact .text (enc _ (mem_map_of_mem (mem_of_mem_filter kept)))

end Record

/-! ## Entries of each kind -/

def Source.texts : Source -> List String
  | .unset => []
  | .git s => [s.name, s.remote, s.sha, s.internalRef, s.localPath, s.log]
  | .generator s => [s.name, s.version, s.dockerImage]
  | .template s => [s.name, s.origin, s.version]

def ClientDestination.texts (d : ClientDestination) : List String :=
  [d.source, d.apiName, d.apiVersion, d.language, d.generator, d.config]

namespace Record

variable {kind : String}

lemma oneOf?_fields {unset : α} {kinds : List (String × (Doc -> Option α))}
    {read : Doc -> Option α} (known : kinds.lookup kind = some read) (fields : List (String × Doc)) :
    oneOf? unset kinds (.fields [(kind, .fields fields)]) = read (.fields fields) := by
  rw [oneOf?, fieldsOf?_fields]
  simp only [Option.bind_eq_bind, Option.bind_some, foldlM_cons, foldlM_nil, known, Doc.fields]
  cases read (.map _) <;> rfl

variable {s : Source}

lemma source?_sourceDoc (enc : AllEncodable s.texts) : source? (sourceDoc s) = some s := by
  cases s with
  | unset => rfl
  | git s =>
    have reads : git? (gitDoc s) = some s := by
      refine readFields_textFields ?_ enc
      refine .cons (fun text => { name := text }) (fun _ => rfl) rfl ?_
      refine .cons (fun text => { name := s.name, remote := text }) (fun _ => rfl) rfl ?_
      refine .cons (fun text => { name := s.name, remote := s.remote, sha := text }) (fun _ => rfl) rfl ?_
      refine .cons (fun text => { s with internalRef := text, localPath := "", log := "" }) (fun _ => rfl) rfl ?_
      refine .cons (fun text => { s with localPath := text, log := "" }) (fun _ => rfl) rfl ?_
      exact .cons (fun text => { s with log := text }) (fun _ => rfl) rfl (.nil _)
    exact (oneOf?_fields rfl _).trans (congrArg (Option.map Source.git) reads)
  | generator s =>
    refine (oneOf?_fields rfl _).trans (Option.map_eq_some_iff.mpr ⟨_, ?_, rfl⟩)
    refine readFields_textFields ?_ enc
    refine .cons (fun text => { name := text }) (fun _ => rfl) rfl ?_
    refine .cons (fun text => { s with version := text, dockerImage := "" }) (fun _ => rfl) rfl ?_
    exact .cons (fun text => { s with dockerImage := text }) (fun _ => rfl) rfl (.nil _)
  | template s =>
    refine (oneOf?_fields rfl _).trans (Option.map_eq_some_iff.mpr ⟨_, ?_, rfl⟩)
    refine readFields_textFields ?_ enc
    refine .cons (fun text => { name := text }) (fun _ => rfl) rfl ?_
    refine .cons (fun text => { s with origin := text, version := "" }) (fun _ => rfl) rfl ?_
    exact .cons (fun text => { s with version := text }) (fun _ => rfl) rfl (.nil _)

variable {d : ClientDestination}

lemma destination?_client (enc : AllEncodable d.texts) : destination? (destinationDoc (.client d)) = some (.client d) := by
  refine (oneOf?_fields rfl _).trans (Option.map_eq_some_iff.mpr ⟨_, ?_, rfl⟩)
  refine readFields_textFields ?_ enc
  refine .cons (fun text => { source := text }) (fun _ => rfl) rfl ?_
  refine .cons (fun text => { source := d.source, apiName := text }) (fun _ => rfl) rfl ?_
  refine .cons (fun text => { source := d.source, apiName := d.apiName, apiVersion := text }) (fun _ => rfl) rfl ?_
  refine .cons (fun text => { d with language := text, generator := "", config := "" }) (fun _ => rfl) rfl ?_
  refine .cons (fun text => { d with generator := text, config := "" }) (fun _ => rfl) rfl ?_
  exact .cons (fun text => { d with config := text }) (fun _ => rfl) rfl (.nil _)

lemma entry_plain (names : List String) (tidy : Tidy [kind] /\ Tidy names) (named : pairs.map Prod.fst = names)
    (enc : AllEncodable (pairs.map Prod.snd)) : Json.Plain (.fields [(kind, textFields pairs)]) :=
  fields_plain [kind] tidy.1 (List.Sublist.refl _) (forall_mem_singleton.mpr (textFields_plain tidy.2 named enc))

lemma sourceDoc_plain (enc : AllEncodable s.texts) : Json.Plain (sourceDoc s) := by
  cases s with
  | unset =>
    have empty : Json.Plain (.fields []) := fields_plain [] (by decide) (List.Sublist.refl _) (by simp)
    exact empty
  | git s =>
    exact entry_plain ["name", "remote", "sha", "internalRef", "localPath", "log"] (by decide) rfl enc
  | generator s => exact entry_plain ["name", "version", "dockerImage"] (by decide) rfl enc
  | template s => exact entry_plain ["name", "origin", "version"] (by decide) rfl enc

lemma destinationDoc_plain (enc : AllEncodable d.texts) : Json.Plain (destinationDoc (.client d)) :=
  entry_plain ["source", "apiName", "apiVersion", "language", "generator", "config"] (by decide) rfl enc

/-! ## Whole records -/

structure Collected (r : Record) : Prop where
  untimed : r.updateTime = none
  unlisted : r.newFiles = []
  sources : ∀ s ∈ r.sources, AllEncodable s.texts
  destinations : ∀ d ∈ r.destinations, ∃ client : ClientDestination, d = .client client /\ AllEncodable client.texts
  files : AllEncodable r.generatedFiles

lemma mapM_map {read : Doc -> Option α} {doc : α -> Doc} {items : List α}
    (reads : ∀ item ∈ items, read (doc item) = some item) : (items.map doc).mapM read = some items := by
  induction items with
  | nil => rfl
  | cons item rest ih =>
    rw [map_cons, mapM_cons, reads item mem_cons_self, ih fun other mem => reads other (mem_cons_of_mem item mem)]
    rfl

lemma entries?_map {read : Doc -> Option α} {doc : α -> Doc} {items : List α}
    (present : ∀ item, doc item ≠ .null) (reads : ∀ item ∈ items, read (doc item) = some item) :
    entries? read (.list (items.map doc)) = some items := by
  refine mapM_map fun item mem => ?_
  rw [<- reads item mem]
  cases shape : doc item with
  | null => exact absurd shape (present item)
  | _ => rfl

lemma foldlM_listField {step : α -> String × Doc -> Option α} {start : α} {name : String}
    {items : List Doc} {rest : List (String × Doc)} (next : α)
    (reads : step start (name, .list items) = some next) (default : items = [] -> start = next) :
    (listField name items ++ rest).foldlM step start = rest.foldlM step next := by
  unfold listField
  by_cases none : items = []
  · rw [default none, none]
    rfl
  · rw [if_neg (by simpa using none), singleton_append, foldlM_cons, reads]
    rfl

variable {r : Record}

lemma ofDoc?_doc (collected : Collected r) : ofDoc? r.doc = some r := by
  obtain ⟨time, sources, destinations, newFiles, generatedFiles⟩ := r
  obtain ⟨untimed, unlisted, each, clients, files⟩ := collected
  cases untimed
  cases unlisted
  have sourced : entries? source? (.list (sources.map sourceDoc)) = some sources := by
    refine entries?_map (fun s => ?_) fun s mem => source?_sourceDoc (each s mem)
    cases s <;> exact Doc.noConfusion
  have reached : entries? destination? (.list (destinations.map destinationDoc)) = some destinations := by
    refine entries?_map (fun d => ?_) fun d mem => ?_
    · cases d <;> exact Doc.noConfusion
    · rcases clients d mem with ⟨client, rfl, enc⟩
      exact destination?_client enc
  have listed : texts? (.list (generatedFiles.map .text)) = some generatedFiles :=
    mapM_map fun path mem => text?_text (files path mem)
  have noneNew : listField "newFiles" [] = [] := rfl
  rw [ofDoc?, doc, readFields_fields]
  simp only [append_assoc, nil_append]
  rw [foldlM_listField { sources := sources },
    foldlM_listField { sources := sources, destinations := destinations }, map_nil, noneNew, nil_append, <- append_nil (listField "generatedFiles" _)]
  · refine foldlM_listField (Record.mk none sources destinations [] generatedFiles) ?_ ?_
    · simp only [listed, Option.map_some]
    · intro none
      rw [map_eq_nil_iff.mp none]
  · simp only [reached, Option.map_some]
  · intro none
    rw [map_eq_nil_iff.mp none]
  · simp only [sourced, Option.map_some]
  · intro none
    rw [map_eq_nil_iff.mp none]

lemma doc_plain (collected : Collected r) : Json.Plain r.doc := by
  obtain ⟨time, sources, destinations, newFiles, generatedFiles⟩ := r
  obtain ⟨untimed, unlisted, each, clients, files⟩ := collected
  cases untimed
  cases unlisted
  have optional : ∀ name items, ((listField name items).map Prod.fst).Sublist [name] := by
    intro name items
    unfold listField
    split_ifs <;> simp
  have lists : ∀ name items, (∀ item ∈ items, Json.Plain item) -> ∀ pair ∈ listField name items, Json.Plain pair.2 := by
    intro name items plain pair mem
    unfold listField at mem
    split_ifs at mem
    · cases mem
    · rw [mem_singleton.mp mem]
      exact .list plain
  refine fields_plain ["sources", "destinations", "newFiles", "generatedFiles"] (by decide) ?_ ?_
  · simp only [nil_append, map_append]
    exact (((optional _ _).append (optional _ _)).append (optional _ _)).append (optional _ _)
  · simp only [nil_append, forall_mem_append]
    refine ⟨⟨⟨lists _ _ ?_, lists _ _ ?_⟩, lists _ _ ?_⟩, lists _ _ ?_⟩
    · exact forall_mem_map.mpr fun s mem => sourceDoc_plain (each s mem)
    · refine forall_mem_map.mpr fun d mem => ?_
      obtain ⟨client, rfl, enc⟩ := clients d mem
      exact destinationDoc_plain enc
    · exact forall_mem_nil _
    · exact forall_mem_map.mpr fun path mem => .text (files path mem)

lemma parse_print (collected : Collected r) :
    parse r.print = .ok r /\ encodable r.print = true /\ '\r' ∉ r.print.toList := by
  have unsorted : (Json.Layout.indented 2).sorted = false := rfl
  obtain ⟨text, printed, clear, parsed⟩ := Json.parse?_print? unsorted true (doc_plain collected)
  have same : r.print = text := by rw [print, printed, Option.getD_some]
  rw [same]
  refine ⟨?_, ?_, fun mem => ?_⟩
  · simp only [parse, readText, parsed, ofDoc?_doc collected]
  · exact Json.encodable_of_isClear clear
  · exact absurd (all_eq_true.mp clear _ mem) (by decide)

/-! ## What is read can be written -/

lemma encodable_of_textOr? {value : Doc} {text : String} (reads : textOr? value = some text) : encodable text = true := by
  cases value with
  | null =>
    cases reads
    decide
  | text s =>
    change (if encodable s = true then some s else none) = some text at reads
    split_ifs at reads with enc
    cases reads
    exact enc
  | _ => cases reads

lemma readFields_texts {put : α -> String -> String -> Option α} {start entry : α} {doc : Doc}
    (texts : α -> List String)
    (read : readFields start (fun entry name value => do put entry name (<- textOr? value)) doc = some entry)
    (empty : AllEncodable (texts start))
    (step : ∀ entry name text next, put entry name text = some next ->
      texts next ⊆ text :: texts entry) : AllEncodable (texts entry) := by
  obtain ⟨fields, -, folded⟩ := Option.bind_eq_some_iff.mp read
  clear read
  induction fields generalizing start with
  | nil =>
    cases folded
    exact empty
  | cons field rest ih =>
    obtain ⟨next, puts, later⟩ := Option.bind_eq_some_iff.mp folded
    obtain ⟨text, reads, sets⟩ := Option.bind_eq_some_iff.mp puts
    refine ih ?_ later
    intro other mem
    rcases mem_cons.mp (step _ _ _ _ sets mem) with rfl | old
    · exact encodable_of_textOr? reads
    · exact empty other old

end Record

namespace Provenance

/-! ## Records that are put together -/

inductive SourceKind where
  | git
  | generator
  | template

def SourceKind.name : SourceKind -> String
  | git => "git"
  | generator => "generator"
  | template => "template"

/-- A call that adds to the record of a session. -/
inductive Addition where
  | source (kind : SourceKind) (fields : List (String × Doc))
  | client (fields : List (String × Doc))
  | file (path : String) (encodable : encodable path = true)

def Addition.job : Addition -> Job Unit
  | source kind fields => addEntry "sources" kind.name fields
  | client fields => addEntry "destinations" "client" fields
  | file path _ => record (·.addGeneratedFile path)

/-- The source that a call adds, or how the call fails. -/
def SourceKind.entry (kind : SourceKind) (fields : List (String × Doc)) : Except Failure Source := do
  checkFields "sources" kind.name fields
  (Record.source? (.fields [(kind.name, .fields fields)])).elim (.error .badValue) .ok

lemma recordOf?_sources (kind : String) (fields : List (String × Doc)) : recordOf? "sources" kind fields =
      (Record.source? (.fields [(kind, .fields fields)])).map fun s => { sources := [s] } := by
  change (((Record.source? _).bind fun s => some [s]).map _).bind _ = _
  cases Record.source? (.fields [(kind, .fields fields)]) <;> rfl

lemma recordOf?_destinations (kind : String) (fields : List (String × Doc)) : recordOf? "destinations" kind fields =
      (Record.destination? (.fields [(kind, .fields fields)])).map fun d => { destinations := [d] } := by
  change (((Record.destination? _).bind fun d => some [d]).map _).bind _ = _
  cases Record.destination? (.fields [(kind, .fields fields)]) <;> rfl

lemma execute_source (kind : SourceKind) (fields : List (String × Doc)) (w : Workspace) :
    (Addition.source kind fields).job.execute w =
      (ofExcept (kind.entry fields) >>= fun s => record (·.addSource s)).execute w := by
  rw [Addition.job, addEntry, SourceKind.entry, recordOf?_sources]
  cases checkFields "sources" kind.name fields with
  | error err => rfl
  | ok checked => cases Record.source? (.fields [(kind.name, .fields fields)]) <;> rfl

variable {fields : List (String × Doc)}

lemma entry_texts {kind : SourceKind} (entered : kind.entry fields = .ok s) : AllEncodable s.texts := by
  obtain ⟨-, -, found⟩ := bind_eq_ok.mp entered
  have read : Record.source? (.fields [(kind.name, .fields fields)]) = some s := by
    cases given : Record.source? (.fields [(kind.name, .fields fields)]) <;> rw [given] at found
    · cases found
    · cases found
      rfl
  cases kind <;> rcases Option.map_eq_some_iff.mp ((Record.oneOf?_fields rfl fields).symm.trans read) with
    ⟨entry, filled, rfl⟩
  on_goal 1 => refine Record.readFields_texts (fun entry => (Source.git entry).texts) filled (by decide) ?_
  on_goal 2 => refine Record.readFields_texts (fun entry => (Source.generator entry).texts) filled (by decide) ?_
  on_goal 3 => refine Record.readFields_texts (fun entry => (Source.template entry).texts) filled (by decide) ?_
  all_goals
    intro entry name text next sets
    split at sets <;> cases sets <;> simp only [Source.texts, cons_subset,
      mem_cons, true_or, or_true, nil_subset, and_self]

lemma client_texts {d : Destination} (read : Record.destination? (.fields [("client", .fields fields)]) = some d) :
    ∃ client : ClientDestination, d = .client client /\ AllEncodable client.texts := by
  rw [Record.destination?, Record.oneOf?_fields rfl] at read
  obtain ⟨client, filled, rfl⟩ := Option.map_eq_some_iff.mp read
  refine ⟨client, rfl, Record.readFields_texts ClientDestination.texts filled (by decide) ?_⟩
  intro entry name text next sets
  split at sets <;> cases sets <;> simp only [ClientDestination.texts, cons_subset, mem_cons, true_or,
    or_true, nil_subset, and_self]

variable {w v u : Workspace}

lemma execute_addition (addition : Addition) (collected : w.session.record.Collected) :
    ∃ outcome record, record.Collected /\ addition.job.execute w = (outcome, withRecord w record) := by
  cases addition with
  | source kind fields =>
    rw [execute_source]
    cases entered : kind.entry fields with
    | error err => exact ⟨.error err, _, collected, rfl⟩
    | ok s =>
      refine ⟨.ok (), w.session.record.addSource s, { collected with sources := ?_ }, rfl⟩
      exact forall_mem_append.mpr ⟨collected.sources, forall_mem_singleton.mpr (entry_texts entered)⟩
  | client fields =>
    rw [Addition.job, addEntry, recordOf?_destinations]
    cases checkFields "destinations" "client" fields with
    | error err => exact ⟨.error err, _, collected, rfl⟩
    | ok checked =>
      cases read : Record.destination? (.fields [("client", .fields fields)]) with
      | none => exact ⟨.error .badValue, _, collected, rfl⟩
      | some d =>
        refine ⟨.ok (), w.session.record.addDestination d, { collected with destinations := ?_ }, rfl⟩
        exact forall_mem_append.mpr ⟨collected.destinations, forall_mem_singleton.mpr (client_texts read)⟩
  | file path enc =>
    refine ⟨.ok (), w.session.record.addGeneratedFile path, { collected with files := ?_ }, rfl⟩
    exact forall_mem_append.mpr ⟨collected.files, forall_mem_singleton.mpr enc⟩

lemma execute_additions (additions : List Addition) (collected : w.session.record.Collected) :
    ∃ outcome record, record.Collected /\ (additions.forM Addition.job).execute w = (outcome, withRecord w record) := by
  induction additions generalizing w with
  | nil => exact ⟨.ok (), w.session.record, collected, rfl⟩
  | cons first rest ih =>
    obtain ⟨outcome, record, kept, ran⟩ := execute_addition first collected
    cases outcome with
    | error err => exact ⟨.error err, record, kept, bind_error ran⟩
    | ok value =>
      rcases ih (w := withRecord w record) kept with ⟨last, final, kept, later⟩
      exact ⟨last, final, kept, (bind_ok ran).trans later⟩

lemma execute_write (path : String) (w : Workspace) :
    (write path).execute w = (writeText path w.session.record.print).execute w := by
  rw [write, bind_ok (execute_session w)]

lemma readOrEmpty_write {path : String} (sound : w.Sound) (collected : w.session.record.Collected)
    (wrote : (write path).execute w = (.ok (), u)) : (readOrEmpty path).execute u = (.ok w.session.record, u) := by
  obtain ⟨parsed, -, free⟩ := Record.parse_print collected
  rw [execute_write] at wrote
  have read := readText_written sound wrote free
  rw [readOrEmpty, bind_ok (execute_attempt _ u), read]
  exact (execute_ofExcept _ u).trans (congrArg (·, u) parsed)

/-- Whatever calls put a record together, and whether or not the last of them failed, it can be written
wherever any text can, and is then read as it was. -/
theorem readOrEmpty_written {additions : List Addition} {outcome : Except Failure Unit} (path : String)
    (sound : w.Sound) (empty : w.session.record = {})
    (writable : ((writeText path "").execute w).1 = .ok ())
    (ran : (additions.forM Addition.job).execute w = (outcome, v)) :
    ∃ u, (write path).execute v = (.ok (), u) /\
      (readOrEmpty path).execute u = (.ok v.session.record, u) := by
  have start : w.session.record.Collected := by
    rw [empty]
    exact ⟨rfl, rfl, List.forall_mem_nil _, List.forall_mem_nil _, List.forall_mem_nil _⟩
  rcases execute_additions additions start with ⟨last, record, collected, added⟩
  cases ran.symm.trans added
  have same : ((write path).execute (withRecord w record)).1 = .ok () := by
    have encodable : encodable (withRecord w record).session.record.print = true :=
      (Record.parse_print collected).2.1
    rw [execute_write, <- writable, <- writeText_outcome encodable path w,
      execute_writeText encodable, execute_writeText encodable]
    rfl
  have wrote : (write path).execute (withRecord w record) = (.ok (), _) := Prod.ext same rfl
  have kept : (withRecord w record).Sound := ⟨sound.1, sound.2⟩
  exact ⟨_, wrote, readOrEmpty_write kept collected wrote⟩

def unusualAdditions : List Addition :=
  [.source .template [], .source .git [("name", .text ""), ("sha", .null), ("log", .text "a\r\n\"b\"")],
    .file "docs/😀\u0001.md" (by decide), .client [],
    .source .generator [("docker_image", .text "\\\u00e9😀")]]

def unusualRecord : Record :=
  { sources := [.template {}, .git { log := "a\r\n\"b\"" }, .generator { dockerImage := "\\\u00e9😀" }]
    destinations := [.client {}]
    generatedFiles := ["docs/😀\u0001.md"] }

theorem unusualRecord_written :
    let w : Workspace := { tree := .empty, directory := [] }
    w.Sound /\ w.session.record = {} /\ ((writeText "synth.metadata" "").execute w).1 = .ok () /\
      ∃ v, (unusualAdditions.forM Addition.job).execute w = (.ok (), v) /\
        v.session.record = unusualRecord /\ ∃ u, (write "synth.metadata").execute v = (.ok (), u) /\
          (readOrEmpty "synth.metadata").execute u = (.ok v.session.record, u) := by
  intro w
  have sound : w.Sound := by decide
  have writable : ((writeText "synth.metadata" "").execute w).1 = .ok () := by rfl
  have ran : (unusualAdditions.forM Addition.job).execute w = (.ok (), _) :=
    run_eq_of_toOption (by decide +kernel)
  have reached : ((unusualAdditions.forM Addition.job).execute w).2.session.record = unusualRecord := by
    decide +kernel
  exact ⟨sound, rfl, writable, _, ran, reached, readOrEmpty_written "synth.metadata" sound rfl writable ran⟩

end Provenance
end Refinery
