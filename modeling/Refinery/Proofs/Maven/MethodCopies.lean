import Refinery.Proofs.Maven.MethodBlocks

namespace Refinery.Maven

open List Text Job

/-!
# Methods that are copied

Behind each method come the copies of all methods so far, since a collection is never started anew.
-/

/-- A method, from its signature to the line that closes it, and the lines above it. -/
structure Block where
  above : List String
  opening : String
  body : List String
  last : String

namespace Block

def lines (block : Block) : List String :=
  block.above ++ block.opening :: (block.body ++ [block.last])

def copy (before after : String) (block : Block) : List String :=
  replace before after block.opening :: (block.body ++ [block.last])

/-- Only the first line of the method has the signature, and only the last one closes it. -/
structure Fits (signature indentation : String) (block : Block) : Prop where
  above : ∀ line ∈ block.above, indentation? signature line = none
  opening : indentation? signature block.opening = some indentation
  body : ∀ line ∈ block.body, indentation? signature line = none /\ startsWith line (closing indentation) = false
  last : indentation? signature block.last = none /\ startsWith block.last (closing indentation) = true

end Block

/-- Each method is followed by a blank line and its copy. -/
def doubled (before after : String) (blocks : List Block) : List String :=
  blocks.flatMap fun block => block.lines ++ "\n" :: block.copy before after

/-- Each method is followed by a blank line and the copies of all methods so far. -/
def followed (before after : String) : (copies : List String) -> List Block -> List String
  | _, [] => []
  | copies, block :: rest =>
    let copies := copies ++ block.copy before after
    block.lines ++ "\n" :: copies ++ followed before after copies rest

variable {signature before after mark last : String} {copies body above tail rest : List String}
  {blocks : List Block}

lemma withCopies_unsigned (unsigned : ∀ line ∈ above, indentation? signature line = none) :
    withCopies signature before after copies none (above ++ rest) =
      above ++ withCopies signature before after copies none rest := by
  induction above with
  | nil => rfl
  | cons line above ih =>
    have onward := ih fun other mem => unsigned other (mem_cons_of_mem line mem)
    simp [withCopies, unsigned line mem_cons_self, onward]

lemma withCopies_body (inner : ∀ line ∈ body, indentation? signature line = none /\ startsWith line mark = false)
    (closes : indentation? signature last = none /\ startsWith last mark = true) :
    withCopies signature before after copies (some mark) (body ++ last :: rest) =
      body ++ last :: "\n" :: (copies ++ (body ++ [last])) ++
        withCopies signature before after (copies ++ (body ++ [last])) none rest := by
  induction body generalizing copies with
  | nil => simp [withCopies, closes]
  | cons line body ih =>
    have onward := @ih (copies ++ [line]) fun other mem => inner other (mem_cons_of_mem line mem)
    simp [withCopies, inner line mem_cons_self, onward]

lemma withCopies_followed (fits : ∀ block ∈ blocks, ∃ indentation, block.Fits signature indentation)
    (unsigned : ∀ line ∈ tail, indentation? signature line = none) :
    withCopies signature before after copies none (blocks.flatMap Block.lines ++ tail) =
      followed before after copies blocks ++ tail := by
  induction blocks generalizing copies with
  | nil =>
    have plain : withCopies signature before after copies none (tail ++ []) = _ := withCopies_unsigned unsigned
    simpa [followed, withCopies] using plain
  | cons block blocks ih =>
    rcases fits block mem_cons_self with ⟨indentation, fit⟩
    have onward := @ih (copies ++ block.copy before after) fun other mem =>
      fits other (mem_cons_of_mem block mem)
    rw [flatMap_cons, Block.lines, append_assoc, append_assoc, withCopies_unsigned fit.above, cons_append,
      append_assoc, withCopies, fit.opening]
    simp only [singleton_append, withCopies_body fit.body fit.last, followed, Block.lines]
    rw [append_assoc copies, singleton_append, <- Block.copy, onward]
    simp

lemma length_doubled_le (before after : String) (copies : List String) (blocks : List Block) :
    (doubled before after blocks).length <= (followed before after copies blocks).length := by
  induction blocks generalizing copies with
  | nil => exact le_rfl
  | cons block blocks ih =>
    have onward := ih (copies ++ block.copy before after)
    simp only [doubled, followed, flatMap_cons, length_append, length_cons] at onward ⊢
    omega

lemma followed_eq_doubled_iff : followed before after [] blocks = doubled before after blocks ↔ blocks.length <= 1 := by
  constructor
  · intro same
    rcases blocks with _ | ⟨first, _ | ⟨second, rest⟩⟩
    · exact Nat.zero_le 1
    · exact le_rfl
    -- The copy of the first method is there twice, so there are too many lines.
    have long := length_doubled_le before after (first.copy before after ++ second.copy before after) rest
    have lengths := congrArg List.length same
    simp [followed, doubled, Block.copy] at lengths long
    omega
  · intro few
    rcases blocks with _ | ⟨first, _ | ⟨second, rest⟩⟩
    · rfl
    · simp [followed, doubled]
    · simp at few

/-! ## Files whose lines are edited -/

section Files

variable {w : Workspace} {path text : String} {place : Place} {file : FileNode}
  {edit : List String -> Except Failure (List String)} {lines : List String}
  (located : w.placeOf path true = .ok place) (there : w.tree.get? place = some (.file file))
  (decoded : Merge.decoded? file.content = some text)

include located there decoded

lemma execute_editLines (edited : edit (Text.lines text) = .ok lines)
    (enc : encodable (String.join lines) = true) : (editLines path edit).execute w =
      (.ok (), w.put (some (place, .file { file with content := (String.join lines).toUTF8, age := 0 }))) := by
  have read := execute_readText located there
  rw [decoded] at read
  rw [editLines, bind_ok read, edited]
  refine (execute_writeText enc path w).trans ?_
  simp only [Workspace.writing, located, there]

/-- **Each method is followed by the copies of all methods so far.**  That is its own copy if there is no
other method. -/
theorem copyMethod_followed (parts : Text.lines text = blocks.flatMap Block.lines ++ tail)
    (fits : ∀ block ∈ blocks, ∃ indentation, block.Fits signature indentation)
    (unsigned : ∀ line ∈ tail, indentation? signature line = none)
    (encodable : encodable (String.join (followed before after [] blocks ++ tail)) = true) :
    (copyMethod path signature before after).execute w = (.ok (), w.put (some (place, .file { file with
        content := (String.join (followed before after [] blocks ++ tail)).toUTF8, age := 0 }))) /\
    (followed before after [] blocks = doubled before after blocks ↔ blocks.length <= 1) := by
  refine ⟨execute_editLines located there decoded ?_ encodable, followed_eq_doubled_iff⟩
  rw [parts, withCopies_followed fits unsigned]

end Files

def overloaded : Workspace where
  tree := ⟨[(["w"], .directory), (["w", "A"], .file { content := "m(1\n\x7d\nm(2\n\x7d\n".toUTF8 })]⟩
  directory := ["w"]

def overloads : List Block :=
  [⟨[], "m(1\n", [], "\x7d\n"⟩, ⟨[], "m(2\n", [], "\x7d\n"⟩]

/-- Two methods are one too many. -/
theorem overloaded_followed : ((copyMethod "A" "m(" "m" "n").execute overloaded).1.toOption = some () /\
    followed "m" "n" [] overloads ≠ doubled "m" "n" overloads := by
  have fits : ∀ block ∈ overloads, ∃ indentation, block.Fits "m(" indentation := by
    rw [overloads, forall_mem_cons, forall_mem_singleton]
    exact ⟨⟨"", nofun, by decide +kernel, nofun, by decide +kernel⟩, ⟨"", nofun, by decide +kernel, nofun, by decide +kernel⟩⟩
  have located : overloaded.placeOf "A" true = .ok ["w", "A"] := rfl
  have parts : lines "m(1\n\x7d\nm(2\n\x7d\n" = overloads.flatMap Block.lines ++ [] := by decide +kernel
  have encodable : encodable (String.join (followed "m" "n" [] overloads ++ [])) = true := by
    decide +kernel
  rcases copyMethod_followed located rfl rfl parts fits nofun encodable with ⟨ran, few⟩
  exact ⟨by rw [ran]; rfl, fun same => absurd (few.mp same) (by decide)⟩

/-- Behind the second method, the copy of the first one is repeated. -/
theorem overloaded_repeated : ((Job.readText "A").execute ((copyMethod "A" "m(" "m" "n").execute overloaded).2).1.toOption =
      some "m(1\n\x7d\n\nn(1\n\x7d\nm(2\n\x7d\n\nn(1\n\x7d\nn(2\n\x7d\n" := by
  decide +kernel

end Refinery.Maven
