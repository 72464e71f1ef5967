import Refinery.Proofs.Execution
import Refinery.Repository

namespace Refinery.Repository

open List

/-!
# Addresses of repositories

An address names the host, the owner and the repository, and reading it gives the last two back.
-/

open RepositoryName

lemma takeWhile_append_slash {front : List Char} (free : '/' ∉ front) (rest : List Char) :
    (front ++ '/' :: rest).takeWhile (· != '/') = front /\ (front ++ '/' :: rest).dropWhile (· != '/') = '/' :: rest := by
  have passes : ∀ c ∈ front, (c != '/') = true := fun c mem => bne_iff_ne.mpr fun same => free (same ▸ mem)
  rw [takeWhile_append_of_pos passes, dropWhile_append_of_pos passes]
  simp

lemma pairAt?_address {front back : List Char} (free : '/' ∉ front) (owned : front ≠ []) (plain : '/' ∉ back)
    (named : back ≠ []) : pairAt? (front ++ '/' :: back) = some ⟨String.ofList front, String.ofList back⟩ := by
  rcases takeWhile_append_slash free back with ⟨before, behind⟩
  have whole : back.takeWhile (· != '/') = back :=
    takeWhile_eq_self_iff.mpr fun c mem => bne_iff_ne.mpr fun same => plain (same ▸ mem)
  rw [pairAt?, behind]
  simp [before, whole, owned, named]

lemma search?_address (withKeys : Bool) (repository : String) {found : RepositoryName}
    (here : pairAt? (repository.toList ++ ".git".toList) = some found) :
    search? (address withKeys repository).toList = some found := by
  have beginning : afterHost? (address withKeys repository).toList = some (repository.toList ++ ".git".toList) := by
    cases withKeys <;> simp [address, afterHost?]
  have begins : here? (address withKeys repository).toList = some found := by
    rw [here?, beginning, Option.bind_some, here, Option.some_or]
  cases chars : (address withKeys repository).toList with
  | nil => rw [chars] at beginning; cases beginning
  | cons c rest => rw [chars] at begins; rw [search?, begins, Option.some_or]

/-- The address of a repository is read as its owner and its name, with and without keys, and so is the one
that the settings choose. -/
theorem parse_address (owner name : String) (owned : owner ≠ "") (free : '/' ∉ owner.toList) (plain : '/' ∉ name.toList) :
    (∀ withKeys, parse (address withKeys (owner ++ "/" ++ name)) = .ok ⟨owner, name⟩) /\
      ∀ w, ∃ url, (cloneAddress (owner ++ "/" ++ name)).execute w = (.ok url, w) /\ parse url = .ok ⟨owner, name⟩ := by
  have both (withKeys : Bool) : parse (address withKeys (owner ++ "/" ++ name)) = .ok ⟨owner, name⟩ := by
    have pair := pairAt?_address free (by simpa using owned) (show '/' ∉ name.toList ++ ".git".toList by simpa using plain) (by simp)
    have found := search?_address withKeys (owner ++ "/" ++ name) (by simpa using pair)
    rw [parse, parse?, found]
    simp [Text.endsWith, Text.dropEnd, <- String.length_toList]
  exact ⟨both, fun w => ⟨_, rfl, both _⟩⟩

/-- The name has the ending of addresses itself. -/
theorem doubled_ending_parsed : (∀ withKeys, parse (address withKeys "a.b/c.git") = .ok ⟨"a.b", "c.git"⟩) /\
    ∀ w, ∃ url, (cloneAddress "a.b/c.git").execute w = (.ok url, w) /\ parse url = .ok ⟨"a.b", "c.git"⟩ :=
  parse_address "a.b" "c.git" (by decide) (by decide) (by decide)

end Refinery.Repository
