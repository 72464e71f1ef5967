import Refinery.Doc.Access
import Refinery.Proofs.Json.RoundTrip

namespace Refinery.Json

open List Text

/-!
# Documents that were read

A document that was read can be written and read again, if its texts can be encoded and its fractional numbers
are read as they are written.
-/

inductive Occurs (part : Doc) : Doc -> Prop
  | self : Occurs part part
  | item {items : List Doc} {item : Doc} (mem : item ∈ items) (inside : Occurs part item) :
    Occurs part (.list items)
  | name {fields : List (Doc × Doc)} {field : Doc × Doc} (mem : field ∈ fields) (inside : Occurs part field.1) :
    Occurs part (.map fields)
  | value {fields : List (Doc × Doc)} {field : Doc × Doc} (mem : field ∈ fields) (inside : Occurs part field.2) :
    Occurs part (.map fields)

lemma occurs_fields_iff {part : Doc} {pairs : List (String × Doc)} : Occurs part (.fields pairs) ↔
    part = .fields pairs \/ ∃ pair ∈ pairs, part = .text pair.1 \/ Occurs part pair.2 := by
  constructor
  · intro occurs
    generalize whole : Doc.fields pairs = doc at occurs
    cases occurs with
    | self => exact .inl rfl
    | item mem inside => cases whole
    | name mem inside =>
      cases whole
      obtain ⟨pair, member, rfl⟩ := mem_map.mp mem
      cases inside
      exact .inr ⟨pair, member, .inl rfl⟩
    | value mem inside =>
      cases whole
      obtain ⟨pair, member, rfl⟩ := mem_map.mp mem
      exact .inr ⟨pair, member, .inr inside⟩
  · rintro (rfl | ⟨pair, member, rfl | inside⟩)
    · exact .self
    · exact .name (mem_map_of_mem member) .self
    · exact .value (mem_map_of_mem (f := fun pair : String × Doc => (Doc.text pair.1, pair.2)) member) inside

def Sturdy : Doc -> Prop
  | .text s => encodable s = true
  | .real x => ∀ strict, Reads strict (.real x) (real x).toList
  | _ => True

def Lasting (doc : Doc) : Prop :=
  ∀ part, Occurs part doc -> Sturdy part

variable {doc : Doc} {strict : Bool}

lemma Plain.lasting (plain : Plain doc) : Lasting doc := by
  intro part occurs
  induction plain with
  | null | bool | int =>
    cases occurs
    trivial
  | real reads =>
    cases occurs
    exact reads
  | text enc =>
    cases occurs
    exact enc
  | list _ each =>
    cases occurs with
    | self => trivial
    | item mem inside => exact each _ mem inside
  | fields _ names _ each =>
    rcases occurs_fields_iff.mp occurs with rfl | ⟨pair, mem, rfl | inside⟩
    · trivial
    · exact names pair mem
    · exact each pair mem inside

def Kept (doc : Doc) : Prop :=
  Lasting doc -> Plain doc

lemma kept_real (x : Decimal.Double) : Kept (.real x) :=
  fun lasting => .real (lasting _ .self)

lemma kept_list {items : List Doc} (each : ∀ item ∈ items, Kept item) : Kept (.list items) :=
  fun lasting => .list fun item mem => each item mem fun part inside => lasting part (.item mem inside)

lemma kept_fields {pairs : List (String × Doc)} (distinct : (pairs.map Prod.fst).Nodup)
    (each : ∀ pair ∈ pairs, Kept pair.2) : Kept (.fields pairs) := by
  intro lasting
  have within {part : Doc} {pair : String × Doc} (mem : pair ∈ pairs) (here : part = .text pair.1 \/ Occurs part pair.2) :
      Sturdy part := lasting part (occurs_fields_iff.mpr (.inr ⟨pair, mem, here⟩))
  exact .fields distinct (fun pair mem => within mem (.inl rfl)) fun pair mem =>
    each pair mem fun part inside => within mem (.inr inside)

lemma number?_kept {cs rest : List Char} (read : number? cs = some (doc, rest)) : Kept doc := by
  unfold number? at read
  extract_lets negative body whole after fraction behind power mantissa value at read
  split at read
  · cases read
  · clear_value power behind
    cases power with
    | some found =>
      cases read
      exact kept_real _
    | none =>
      dsimp only at read
      split at read
      · cases read
        exact fun _ => .int _
      · cases read
        exact kept_real _

/-! ## Fields that are set -/

section Fields

variable {name : String} {value : Doc} {pairs : List (String × Doc)}

lemma mem_of_mem_setField {pair : String × Doc} (mem : pair ∈ setField name value pairs) :
    pair = (name, value) \/ pair ∈ pairs := by
  induction pairs with
  | nil => exact .inl (mem_singleton.mp mem)
  | cons field rest ih =>
    rw [setField] at mem
    split at mem
    · exact (mem_cons.mp mem).imp_right (mem_cons_of_mem field)
    · rcases mem_cons.mp mem with rfl | later
      · exact .inr mem_cons_self
      · exact (ih later).imp_right (mem_cons_of_mem field)

lemma nodup_setField (distinct : (pairs.map Prod.fst).Nodup) : ((setField name value pairs).map Prod.fst).Nodup := by
  induction pairs with
  | nil => simp [setField]
  | cons field rest ih =>
    rw [map_cons, nodup_cons] at distinct
    rw [setField]
    split
    next same => rwa [map_cons, nodup_cons, <- same]
    next other =>
      rw [map_cons, nodup_cons]
      refine ⟨fun again => ?_, ih distinct.2⟩
      obtain ⟨pair, mem, same⟩ := mem_map.mp again
      rcases mem_of_mem_setField mem with rfl | later
      · exact other same.symm
      · exact distinct.1 (same ▸ mem_map_of_mem later)

lemma Plain.of_fields (plain : Plain (.fields pairs)) : (pairs.map Prod.fst).Nodup /\
    (∀ pair ∈ pairs, encodable pair.1 = true) /\ ∀ pair ∈ pairs, Plain pair.2 := by
  generalize same : Doc.fields pairs = doc at plain
  cases plain with
  | @fields others distinct names each =>
    have unique : Function.Injective fun pair : String × Doc => (Doc.text pair.1, pair.2) := by
      rintro ⟨a, b⟩ ⟨c, d⟩ equal
      cases equal
      rfl
    cases map_injective_iff.mpr unique (Doc.map.inj same)
    exact ⟨distinct, names, each⟩
  | _ => cases same

lemma Plain.of_lookup (plain : Plain (.fields pairs)) (found : pairs.lookup name = some value) : Plain value := by
  obtain ⟨before, after, rfl, -⟩ := lookup_eq_some_iff.mp found
  exact plain.of_fields.2.2 (name, value) (by simp)

lemma Plain.setField (plain : Plain (.fields pairs)) (enc : encodable name = true)
    (new : Plain value) : Plain (.fields (setField name value pairs)) := by
  obtain ⟨distinct, names, each⟩ := plain.of_fields
  refine .fields (nodup_setField distinct) (fun pair mem => ?_) (fun pair mem => ?_)
  · rcases mem_of_mem_setField mem with rfl | inside
    · exact enc
    · exact names pair inside
  · rcases mem_of_mem_setField mem with rfl | inside
    · exact new
    · exact each pair inside

lemma lookup_fields (name : String) (pairs : List (String × Doc)) :
    Doc.lookup (.text name) (pairs.map fun pair => (.text pair.1, pair.2)) = pairs.lookup name := by
  induction pairs with
  | nil => rfl
  | cons pair rest ih =>
    obtain ⟨key, item⟩ := pair
    rw [Doc.lookup] at ih
    rw [map_cons, Doc.lookup, find?_cons, lookup_cons, <- ih]
    by_cases same : key = name
    · simp [Doc.same, same]
    · simp [Doc.same, beq_false_of_ne same, beq_false_of_ne (Ne.symm same)]

lemma lookup_setField (name key : String) (value : Doc) (pairs : List (String × Doc)) :
    (setField name value pairs).lookup key = if key = name then some value else pairs.lookup key := by
  have head (item : Doc) (rest : List (String × Doc)) :
      ((name, item) :: rest).lookup key = if key = name then some item else rest.lookup key := by
    by_cases same : key = name <;> simp [lookup_cons, same, beq_false_of_ne]
  induction pairs with
  | nil => exact head value []
  | cons field rest ih =>
    obtain ⟨other, item⟩ := field
    rw [setField]
    by_cases same : other = name
    · subst same
      rw [if_pos rfl, head, head]
      split <;> rfl
    · rw [if_neg same, lookup_cons, lookup_cons, ih]
      by_cases here : key = other
      · simp [here, same]
      · rw [beq_false_of_ne here]

lemma setField_of_lookup (found : pairs.lookup name = some value) : setField name value pairs = pairs := by
  induction pairs with
  | nil => cases found
  | cons field rest ih =>
    obtain ⟨other, item⟩ := field
    rw [lookup_cons] at found
    rw [setField]
    by_cases same : other = name
    · subst same
      simpa using found.symm
    · rw [beq_false_of_ne (Ne.symm same)] at found
      rw [if_neg same, ih found]

lemma lookup_setField_self (name : String) (value : Doc) (pairs : List (String × Doc)) :
    (setField name value pairs).lookup name = some value := by
  rw [lookup_setField, if_pos rfl]

lemma putIn_fields {outer : String} {inner : List (String × Doc)}
    (found : pairs.lookup outer = some (.fields inner)) : (Doc.fields pairs).putIn outer name value =
      .ok (.fields (setField outer (.fields (setField name value inner)) pairs)) := by
  have entry : (Doc.fields pairs).entry outer = .ok (.fields inner) := by
    simp only [Doc.fields, Doc.entry, lookup_fields, found]
  have put (name : String) (value : Doc) (pairs : List (String × Doc)) :
      (Doc.fields pairs).put name value = .ok (.fields (setField name value pairs)) := by
    simp only [Doc.fields, Doc.put, assign_fields]
  rw [Doc.putIn, entry]
  change ((Doc.fields inner).put name value >>= fun value => (Doc.fields pairs).put outer value) = _
  rw [put]
  exact put _ _ _

end Fields

def KeptField (pair : Doc × Doc) : Prop :=
  ∃ name, pair.1 = .text name /\ Kept pair.2

lemma foldl_assign_kept {pairs : List (Doc × Doc)} (each : ∀ pair ∈ pairs, KeptField pair)
    (done : List (String × Doc)) (distinct : (done.map Prod.fst).Nodup) (kept : ∀ pair ∈ done, Kept pair.2) :
    ∃ named : List (String × Doc), pairs.foldl (fun fields pair => Doc.assign pair.1 pair.2 fields)
        (done.map fun pair => (.text pair.1, pair.2)) = named.map (fun pair => (.text pair.1, pair.2)) /\
      (named.map Prod.fst).Nodup /\ ∀ pair ∈ named, Kept pair.2 := by
  induction pairs generalizing done with
  | nil => exact ⟨done, rfl, distinct, kept⟩
  | cons pair rest ih =>
    obtain ⟨name, named, here⟩ := each pair mem_cons_self
    rw [foldl_cons, named, assign_fields]
    refine ih (fun other mem => each other (mem_cons_of_mem pair mem)) _ (nodup_setField distinct) ?_
    intro other mem
    rcases mem_of_mem_setField mem with rfl | inside
    · exact here
    · exact kept other inside

lemma mapOf?_kept {pairs : List (Doc × Doc)} (each : ∀ pair ∈ pairs, KeptField pair)
    (read : mapOf? strict pairs = some doc) : Kept doc := by
  obtain ⟨named, folded, distinct, kept⟩ := foldl_assign_kept each [] nodup_nil (by simp)
  have whole : Doc.ofPairs pairs = .fields named := congrArg Doc.map folded
  rw [mapOf?, whole] at read
  dsimp only [Doc.fields] at read
  split at read
  · cases read
  · cases read
    exact kept_fields distinct kept

/-! ## Reading -/

lemma value?_kept (fuel : Nat) : (∀ cs doc rest, value? strict fuel cs = some (doc, rest) -> Kept doc) /\
    (∀ done cs items rest, items? strict fuel done cs = some (items, rest) ->
      (∀ item ∈ done, Kept item) -> ∀ item ∈ items, Kept item) /\
    (∀ done cs pairs rest, fields? strict fuel done cs = some (pairs, rest) ->
      (∀ pair ∈ done, KeptField pair) -> ∀ pair ∈ pairs, KeptField pair) := by
  induction fuel with
  | zero =>
    refine ⟨?_, ?_, ?_⟩
    · intro cs doc rest read
      cases read
    · intro done cs items rest read
      cases read
    · intro done cs pairs rest read
      cases read
  | succ fuel ih =>
    obtain ⟨value, items, fields⟩ := ih
    refine ⟨?_, ?_, ?_⟩
    · intro cs doc rest read
      cases cs with
      | nil => cases read
      | cons c more =>
        rw [value?.eq_def] at read
        dsimp only at read
        by_cases quote : c = '"'
        · rw [if_pos quote] at read
          obtain ⟨⟨s, after⟩, -, same⟩ := Option.map_eq_some_iff.mp read
          cases same
          exact fun lasting => .text (lasting _ .self)
        rw [if_neg quote] at read
        by_cases bracket : c = '['
        · rw [if_pos bracket] at read
          split at read
          · cases read
            exact kept_list (by simp)
          · rcases Option.map_eq_some_iff.mp read with ⟨⟨all, after⟩, within, same⟩
            cases same
            exact kept_list (items _ _ _ _ within (by simp))
        rw [if_neg bracket] at read
        by_cases brace : c = '\x7b'
        · rw [if_pos brace] at read
          split at read
          · cases read
            exact @kept_fields [] nodup_nil (by simp)
          · rcases Option.bind_eq_some_iff.mp read with ⟨⟨pairs, after⟩, within, made⟩
            obtain ⟨doc, formed, same⟩ := Option.map_eq_some_iff.mp made
            cases same
            exact mapOf?_kept (fields _ _ _ _ within (by simp)) formed
        rw [if_neg brace] at read
        split at read
        · next word doc found =>
          cases read
          have listed : doc ∈ words.map Prod.snd := mem_map_of_mem (mem_of_find?_eq_some found)
          simp only [words, map_cons, map_nil, mem_cons, not_mem_nil, or_false] at listed
          rcases listed with rfl | rfl | rfl | rfl | rfl | rfl
          · exact fun _ => .null
          · exact fun _ => .bool true
          · exact fun _ => .bool false
          all_goals exact kept_real _
        · exact number?_kept read
    · intro done cs all rest read known
      rw [items?.eq_def] at read
      dsimp only at read
      split at read
      · next item after first =>
        have more : ∀ other ∈ item :: done, Kept other :=
          forall_mem_cons.mpr ⟨value _ _ _ first, known⟩
        split at read
        · exact items _ _ _ _ read more
        · cases read
          exact fun other mem => more other (mem_reverse.mp mem)
        · cases read
      · cases read
    · intro done cs pairs rest read known
      rw [fields?.eq_def] at read
      dsimp only at read
      split at read
      · split at read
        · next key after named =>
          split at read
          · split at read
            · next item after first =>
              have more : ∀ other ∈ (Doc.text key, item) :: done, KeptField other :=
                forall_mem_cons.mpr ⟨⟨key, rfl, value _ _ _ first⟩, known⟩
              split at read
              · exact fields _ _ _ _ read more
              · cases read
                exact fun other mem => more other (mem_reverse.mp mem)
              · cases read
            · cases read
          · cases read
        · cases read
      · cases read

lemma Lasting.plain {s : String} (lasting : Lasting doc) (read : parse? s strict = some doc) : Plain doc := by
  rw [parse?] at read
  split at read
  · next doc after found =>
    split at read
    · cases read
      exact (value?_kept _).1 _ _ _ found lasting
    · cases read
  · cases read

end Refinery.Json
