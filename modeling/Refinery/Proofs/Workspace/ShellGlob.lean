import Refinery.Proofs.Workspace.Removal

namespace Refinery

open List Job Workspace Text PathText

/-!
# Patterns that end in a star

A start of a name and a star find, in the working directory, the names that begin that way.
-/

namespace NamePattern

variable {start name : String}

lemma parts_star {chars : List Char} (plain : ∀ c ∈ chars, c ≠ '*' /\ c ≠ '?' /\ c ≠ '[')
    {fuel : Nat} (enough : chars.length < fuel) : parts fuel (chars ++ ['*']) = chars.map .char ++ [.star] := by
  induction chars generalizing fuel with
  | nil =>
    cases fuel with
    | zero => cases enough
    | succ fuel => cases fuel <;> rfl
  | cons c rest ih =>
    cases fuel with
    | zero => cases enough
    | succ fuel =>
      have here := plain c mem_cons_self
      have later := ih (fun other mem => plain other (mem_cons_of_mem c mem)) (Nat.lt_of_succ_lt_succ enough)
      rw [cons_append, parts, later]
      · rfl
      · exact here.1
      · exact here.2.1
      · exact here.2.2

lemma anyEnd_accepts_nil (cs : List Char) : anyEnd (accepts []) cs = true := by
  induction cs with
  | nil => rfl
  | cons c rest ih =>
    rw [anyEnd, ih]
    simp

lemma accepts_star (chars cs : List Char) : accepts (chars.map .char ++ [.star]) cs = chars.isPrefixOf cs := by
  induction chars generalizing cs with
  | nil => exact anyEnd_accepts_nil cs
  | cons d rest ih =>
    cases cs with
    | nil => rfl
    | cons c others =>
      change (d == c && accepts (rest.map .char ++ [.star]) others) = _
      rw [ih]
      rfl

lemma accepts_all (cs : List Char) : accepts [.star] cs = true :=
  accepts_star [] cs

lemma matchesName_star (plain : isWild start = false) (name : String) :
    matchesName (start ++ "*") name = startsWith name start := by
  have chars : ∀ c ∈ start.toList, c ≠ '*' /\ c ≠ '?' /\ c ≠ '[' := by
    intro c mem
    have tame := any_eq_false.mp plain c mem
    simpa [and_assoc] using tame
  rw [matchesName, ofString, String.toList_append, startsWith, <- accepts_star]
  rw [show "*".toList = ['*'] from rfl, parts_star chars (by simp)]

end NamePattern

namespace ShellGlob

variable {w : Workspace} {start : String}

structure Begins (start : String) : Prop where
  plain : NamePattern.isWild start = false
  visible : ∃ c rest, start.toList = c :: rest /\ c ≠ '.'
  single : '/' ∉ start.toList

lemma splitLast_of_free {text : String} (free : '/' ∉ text.toList) : splitLast text = ("", text) := by
  have whole : ∀ c ∈ text.toList.reverse, (c != '/') = true := by
    intro c mem
    have ne : c ≠ '/' := by
      rintro rfl
      exact free (mem_reverse.mp mem)
    simpa using ne
  have taken : text.toList.reverse.takeWhile (· != '/') = text.toList.reverse :=
    takeWhile_eq_self_iff.mpr whole
  have dropped : text.toList.reverse.dropWhile (· != '/') = [] := dropWhile_eq_nil_iff.mpr whole
  simp [splitLast, taken, dropped]

namespace Begins

lemma isMagic (start : String) : isMagic (start ++ "*") = true := by
  simp [ShellGlob.isMagic]

lemma not_hidden (begins : Begins start) {name : String} (starts : startsWith name start = true) :
    isHidden name = false := by
  rcases begins.visible with ⟨c, rest, chars, ne⟩
  rcases startsWith_iff.mp starts with ⟨more, whole⟩
  rw [chars] at whole
  rw [isHidden, startsWith, <- whole]
  simp [List.isPrefixOf, Ne.symm ne]

lemma ne_stars (begins : Begins start) : start ++ "*" ≠ "**" := by
  intro same
  have chars := congrArg String.toList same
  rw [String.toList_append] at chars
  have star : start.toList = ['*'] := by
    apply append_cancel_right
    exact chars
  have plain := begins.plain
  rw [NamePattern.isWild, star] at plain
  exact absurd plain (by decide)

lemma named (begins : Begins start) {name : String} (starts : startsWith name start = true) : name ≠ "" := by
  rintro rfl
  rcases begins.visible with ⟨c, rest, chars, _⟩
  rw [startsWith_iff, chars] at starts
  exact absurd starts.length_le (by simp)

end Begins

lemma execute_namesIn_here (sound : w.Sound) : (namesIn "" false).execute w = (.ok (w.tree.list w.directory), w) := by
  have listed : w.list Path.here.toString = .ok (w.tree.list w.directory) :=
    list_of_locate (by decide) rfl sound.standing
  change w.list "." = _ at listed
  rw [namesIn, if_pos rfl, execute_bind, execute_attempt, execute_list, listed]
  rfl

lemma execute_component_star (sound : w.Sound) (begins : Begins start) : (component "" (start ++ "*") false).execute w =
      (.ok ((w.tree.list w.directory).filter fun name => startsWith name start), w) := by
  have visible : isHidden (start ++ "*") = false := begins.not_hidden (by
    rw [startsWith_iff, String.toList_append]
    exact prefix_append _ _)
  rw [component, if_neg begins.ne_stars, if_pos (Begins.isMagic start),
    bind_ok (execute_namesIn_here sound), visible, if_neg Bool.false_ne_true]
  change (pure ((List.filter _ _).filter _) : Job (List String)).execute w = _
  rw [filter_filter, execute_pure]
  congr 2
  apply filter_congr
  intro name _
  rw [NamePattern.matchesName_star begins.plain]
  cases starts : startsWith name start with
  | false => rfl
  | true => rw [begins.not_hidden starts]; rfl

lemma execute_paths_star (sound : w.Sound) (begins : Begins start) : (paths (start ++ "*")).execute w =
      (.ok ((w.tree.list w.directory).filter fun name => startsWith name start), w) := by
  have free : '/' ∉ (start ++ "*").toList := by
    rw [String.toList_append, mem_append]
    rintro (inside | last)
    · exact begins.single inside
    · exact absurd last (by decide)
  have expanded : (expand ((start ++ "*").length + 1) (start ++ "*") false).execute w =
      (.ok ((w.tree.list w.directory).filter fun name => startsWith name start), w) := by
    rw [expand, splitLast_of_free free]
    simp only [Begins.isMagic, Bool.not_true, Bool.false_eq_true, if_false, if_true]
    exact execute_component_star sound begins
  rw [paths, bind_ok expanded]
  cases found : (w.tree.list w.directory).filter fun name => startsWith name start with
  | nil => rfl
  | cons first rest =>
    have starts : startsWith first start = true := by
      have mem : first ∈ (w.tree.list w.directory).filter fun name => startsWith name start := by
        rw [found]
        exact mem_cons_self
      exact (mem_filter.mp mem).2
    have named := begins.named starts
    simp [named]

end ShellGlob
end Refinery
