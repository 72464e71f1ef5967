import Refinery.Proofs.Text.Laws
import Refinery.Workspace.Glob

namespace Refinery

open List Text PathText Job Glob

/-!
# Paths and their texts

For a path of proper names nothing is lost when it is written and read, and without special characters its
text is a pattern that stands for the path alone.
-/

def IsName (name : String) : Prop :=
  name ≠ "" /\ name ≠ "." /\ '/' ∉ name.toList

instance (name : String) : Decidable (IsName name) :=
  inferInstanceAs (Decidable (name ≠ "" /\ name ≠ "." /\ '/' ∉ name.toList))

/-- A name that a directory can hold: double dots lead out of it. -/
def IsPlain (name : String) : Prop :=
  IsName name /\ name ≠ ".."

instance (name : String) : Decidable (IsPlain name) :=
  inferInstanceAs (Decidable (IsName name /\ name ≠ ".."))

variable {name s : String} {names : List String}

lemma IsName.toList_ne_nil (proper : IsName name) : name.toList ≠ [] := by
  intro empty
  exact proper.1 (String.toList_eq_nil_iff.mp empty)

namespace Text

/-! ## Splitting at slashes -/

private lemma splitFrom_pieces (piece cs : List Char) (free : '/' ∉ piece) : ∀ part ∈ splitFrom ['/'] 0 piece cs, '/' ∉ part := by
  induction cs generalizing piece with
  | nil => simpa [splitFrom] using free
  | cons c rest ih =>
    intro part mem
    rw [splitFrom] at mem
    by_cases slash : '/' = c
    · rw [if_pos (by simpa using slash)] at mem
      rcases mem_cons.mp mem with rfl | later
      · simpa using free
      · exact ih [] (by simp) part later
    · rw [if_neg (by simpa using slash)] at mem
      exact ih (c :: piece) (by simpa using ⟨slash, free⟩) part mem

private lemma split_slash (s : String) : split "/" s = (splitFrom ['/'] 0 [] s.toList).map String.ofList := rfl

lemma not_mem_of_mem_split {part : String} (mem : part ∈ split "/" s) : '/' ∉ part.toList := by
  obtain ⟨chars, inside, rfl⟩ := mem_map.mp mem
  rw [String.toList_ofList]
  exact splitFrom_pieces [] s.toList (by simp) chars inside

lemma split_of_free (free : '/' ∉ s.toList) : split "/" s = [s] := by
  rw [split_slash, splitFrom_free [] free]
  simp

lemma split_append (rest : String) (free : '/' ∉ s.toList) : split "/" (s ++ "/" ++ rest) = s :: split "/" rest := by
  have chars : (s ++ "/" ++ rest).toList = s.toList ++ '/' :: rest.toList := by simp
  rw [split_slash, split_slash, chars, splitFrom_append [] rest.toList free]
  simp

lemma split_join (named : names ≠ []) (free : ∀ name ∈ names, '/' ∉ name.toList) : split "/" (join "/" names) = names := by
  induction names with
  | nil => exact absurd rfl named
  | cons name rest ih =>
    have here : '/' ∉ name.toList := free name mem_cons_self
    cases rest with
    | nil => exact split_of_free here
    | cons next others =>
      rw [join, split_append _ here, ih (cons_ne_nil next others) fun other mem => free other (mem_cons_of_mem name mem)]
      simp

lemma join_concat (named : names ≠ []) (name : String) : join "/" (names ++ [name]) = join "/" names ++ "/" ++ name := by
  induction names with
  | nil => exact absurd rfl named
  | cons first rest ih =>
    cases rest with
    | nil => rfl
    | cons next others =>
      have later := ih (cons_ne_nil next others)
      simp only [cons_append, join] at later ⊢
      rw [later]
      simp only [String.append_assoc]

lemma contains_stars_of_free (free : '*' ∉ s.toList) : contains s "**" = false := by
  have whole : ∀ (piece cs : List Char), '*' ∉ cs -> splitFrom ['*', '*'] 0 piece cs = [piece.reverse ++ cs] := by
    intro piece cs
    induction cs generalizing piece with
    | nil => simp [splitFrom]
    | cons c rest ih =>
      intro free
      have ne : ¬ '*' = c := fun same => free (same ▸ mem_cons_self)
      rw [splitFrom, if_neg (by simp [ne]), ih _ fun mem => free (mem_cons_of_mem c mem)]
      simp
  have pieces : split "**" s = [s] := by
    change (splitFrom ['*', '*'] 0 [] s.toList).map String.ofList = [s]
    rw [whole [] s.toList free]
    simp
  simp [contains, pieces]

end Text

namespace Path

/-! ## Reading what was written -/

def Proper (path : Path) : Prop :=
  ∀ name ∈ path.names, IsName name

instance (path : Path) : Decidable path.Proper :=
  inferInstanceAs (Decidable (∀ name ∈ path.names, IsName name))

lemma proper_ofString (s : String) : (ofString s).Proper := by
  intro name mem
  obtain ⟨inside, kept⟩ := mem_filter.mp mem
  have parts : name ≠ "" /\ name ≠ "." := by simpa using kept
  exact ⟨parts.1, parts.2, not_mem_of_mem_split inside⟩

def Walkable (path : Path) : Prop :=
  ∀ name ∈ path.names, name = "." \/ IsName name

lemma walkable_pathOf (s : String) : (pathOf s).Walkable := by
  intro name mem
  rw [pathOf] at mem
  split at mem
  · rcases mem_append.mp mem with inside | last
    · exact .inr (proper_ofString s name inside)
    · exact .inl (mem_singleton.mp last)
  · exact .inr (proper_ofString s name mem)

variable {path : Path}

lemma Proper.append (proper : path.Proper) (all : ∀ name ∈ names, IsName name) :
    (Path.mk path.anchor (path.names ++ names)).Proper :=
  fun name mem => (mem_append.mp mem).elim (proper name) (all name)

lemma Proper.child (proper : path.Proper) (named : IsName name) : (path.child name).Proper :=
  proper.append (forall_mem_singleton.mpr named)

private lemma join_first (named : names ≠ []) (proper : ∀ name ∈ names, IsName name) :
    ∃ first rest, (join "/" names).toList = first :: rest /\ first ≠ '/' := by
  cases names with
  | nil => exact absurd rfl named
  | cons name others =>
    have here : IsName name := proper name mem_cons_self
    obtain ⟨first, rest, chars⟩ := exists_cons_of_ne_nil here.toList_ne_nil
    have ne : first ≠ '/' := by
      rintro rfl
      exact here.2.2 (by rw [chars]; exact mem_cons_self)
    cases others with
    | nil => exact ⟨first, rest, chars, ne⟩
    | cons next more =>
      refine ⟨first, rest ++ '/' :: (join "/" (next :: more)).toList, ?_, ne⟩
      simp [Text.join, chars]

private lemma join_last (names : List String) (name : String) :
    ∃ front, (join "/" (names ++ [name])).toList = front ++ name.toList := by
  cases names with
  | nil => exact ⟨[], rfl⟩
  | cons first rest =>
    refine ⟨(join "/" (first :: rest)).toList ++ ['/'], ?_⟩
    rw [join_concat (cons_ne_nil first rest)]
    simp

lemma toString_of_ne_nil (named : path.names ≠ []) : path.toString = path.anchor.text ++ join "/" path.names := by
  rw [toString, if_neg]
  simp [named]

private lemma namesOf_join (named : names ≠ [])
    (proper : ∀ name ∈ names, IsName name) : namesOf (join "/" names) = names := by
  rw [namesOf, split_join named fun name mem => (proper name mem).2.2]
  apply filter_eq_self.mpr
  intro name mem
  simp [(proper name mem).1, (proper name mem).2.1]

private lemma namesOf_slash (s : String) : namesOf ("/" ++ s) = namesOf s := by
  have start : "/" ++ s = "" ++ "/" ++ s := by rw [String.empty_append]
  rw [namesOf, start, split_append s (by simp), filter_cons_of_neg (by simp), namesOf]

lemma ofString_toString (proper : path.Proper) : ofString path.toString = path := by
  obtain ⟨anchor, names⟩ := path
  by_cases named : names = []
  · subst named
    cases anchor <;> decide
  · rcases join_first named proper with ⟨first, rest, chars, ne⟩
    have kept : namesOf (join "/" names) = names := namesOf_join named proper
    rw [toString_of_ne_nil named, ofString]
    cases anchor with
    | relative => simp [Anchor.text, anchorOf, chars, ne, kept]
    | slash => simp [Anchor.text, anchorOf, chars, ne, namesOf_slash, kept]
    | doubleSlash =>
      have twice : "//" ++ join "/" names = "/" ++ ("/" ++ join "/" names) := by
        rfl
      simp [Anchor.text, twice, anchorOf, chars, ne, namesOf_slash, kept]

lemma isAbsolute_ofString (absolute : path.isAbsolute = true) : (ofString path.toString).isAbsolute = true := by
  have slashes : ∀ s : String, (ofString ("/" ++ s)).isAbsolute = true := by
    intro s
    have start : (("/" ++ s).toList.takeWhile (· == '/')).length = (s.toList.takeWhile (· == '/')).length + 1 := by simp
    simp only [isAbsolute, ofString, anchorOf, start]
    split <;> simp_all
  obtain ⟨anchor, names⟩ := path
  cases anchor with
  | relative => cases absolute
  | slash => exact slashes _
  | doubleSlash =>
    have twice : Path.toString ⟨.doubleSlash, names⟩ = "/" ++ ("/" ++ join "/" names) := by
      rfl
    rw [twice]
    exact slashes _

private lemma toString_last (proper : path.Proper) (named : path.names ≠ []) :
    ∃ front name, path.toString.toList = front ++ name.toList /\ IsName name := by
  rcases eq_nil_or_concat path.names with empty | ⟨names, name, parts⟩
  · exact absurd empty named
  · rcases join_last names name with ⟨front, chars⟩
    refine ⟨path.anchor.text.toList ++ front, name, ?_, proper name (by rw [parts]; simp)⟩
    rw [toString_of_ne_nil named, parts]
    simp [chars]

lemma endsWith_name {front : List Char} (chars : s.toList = front ++ name.toList) (isName : IsName name) :
    endsWith s "/" = false /\ endsWith s "/." = false := by
  rcases eq_nil_or_concat name.toList with empty | ⟨others, last, parts⟩
  · exact absurd empty isName.toList_ne_nil
  · rw [concat_eq_append] at parts
    have free : ∀ c ∈ others ++ [last], c ≠ '/' := by
      rintro c mem rfl
      exact isName.2.2 (parts ▸ mem)
    have notSlash : last ≠ '/' := free last (by simp)
    have back : s.toList.reverse = last :: (others.reverse ++ front.reverse) := by
      rw [chars, parts]
      simp
    refine ⟨by simp [endsWith, List.isPrefixOf, back, notSlash.symm], ?_⟩
    rcases eq_nil_or_concat others with alone | ⟨before, next, otherParts⟩
    · have notDot : last ≠ '.' := by
        rintro rfl
        apply isName.2.1
        rw [<- String.toList_inj, parts, alone]
        rfl
      simp [endsWith, List.isPrefixOf, back, notDot.symm]
    · have nextNotSlash : next ≠ '/' := free next (by simp [otherParts])
      simp [endsWith, List.isPrefixOf, back, otherParts, nextNotSlash.symm]

lemma endsWith_toString (proper : path.Proper) (named : path.names ≠ []) :
    endsWith path.toString "/" = false /\ endsWith path.toString "/." = false := by
  obtain ⟨front, name, chars, isName⟩ := toString_last proper named
  exact endsWith_name chars isName

lemma trimRightBy_toString (proper : path.Proper) (named : path.names ≠ []) :
    trimRightBy (· == '/') path.toString = path.toString := by
  have last := (endsWith_toString proper named).1
  have kept : path.toString.toList.reverse.dropWhile (· == '/') = path.toString.toList.reverse := by
    rw [endsWith] at last
    cases back : path.toString.toList.reverse with
    | nil => rfl
    | cons c rest =>
      rw [back] at last
      have ne : c ≠ '/' := by
        rintro rfl
        simp [List.isPrefixOf] at last
      simp [ne]
  rw [trimRightBy, kept, reverse_reverse, String.ofList_toList]

lemma toString_ne_empty (proper : path.Proper) : path.toString ≠ "" := by
  intro empty
  have back := ofString_toString proper
  rw [empty] at back
  rw [<- back] at empty
  exact absurd empty (by decide)

lemma pathOf_toString (proper : path.Proper) : pathOf path.toString = path := by
  rw [pathOf, ofString_toString proper]
  by_cases named : path.names = []
  · simp [named]
  · simp [endsWith_toString proper named]

private lemma startsWith_name (isName : IsName name) : startsWith name "/" = false := by
  obtain ⟨first, rest, chars⟩ := exists_cons_of_ne_nil isName.toList_ne_nil
  have ne : '/' ≠ first := by
    rintro rfl
    exact isName.2.2 (by rw [chars]; exact mem_cons_self)
  simp [startsWith, List.isPrefixOf, chars, ne]

lemma join_toString (proper : path.Proper) (named : path.names ≠ [])
    (isName : IsName name) : PathText.join path.toString name = (path.child name).toString := by
  have notEmpty : path.toString.isEmpty = false := by
    simpa [String.isEmpty_iff] using toString_ne_empty proper
  rw [PathText.join, startsWith_name isName, notEmpty, (endsWith_toString proper named).1,
    toString_of_ne_nil named, toString_of_ne_nil (by simp [child])]
  simp [child, join_concat named, String.append_assoc]

lemma pathOf_join (proper : path.Proper) (isName : IsName name) :
    pathOf (PathText.join path.toString name) = path.child name := by
  by_cases named : path.names = []
  · rcases path with ⟨anchor, names⟩
    cases named
    cases anchor with
    | relative =>
      have joined : PathText.join (Path.mk .relative []).toString name = "." ++ "/" ++ name := by
        rw [PathText.join, startsWith_name isName]
        rfl
      have names : namesOf ("." ++ "/" ++ name) = [name] := by
        rw [namesOf, split_append name (by decide), split_of_free isName.2.2]
        simp [isName.1, isName.2.1]
      have chars : ("." ++ "/" ++ name).toList = ['.', '/'] ++ name.toList := by simp
      have anchored : anchorOf ("." ++ "/" ++ name) = .relative := by
        rw [anchorOf, chars]
        rfl
      have ends := endsWith_name chars isName
      rw [joined, pathOf, ofString, names, anchored, ends.1, ends.2]
      rfl
    | slash | doubleSlash =>
      refine Eq.trans (congrArg pathOf ?_) (pathOf_toString (proper.child isName))
      rw [PathText.join, startsWith_name isName]
      rfl
  · rw [join_toString proper named isName, pathOf_toString (proper.child isName)]

lemma base_toString (path : Path) (isName : IsName name) : base (path.child name).toString = name := by
  have slashed : ∃ front : List Char, (path.child name).toString.toList = front ++ name.toList /\
      (front = [] \/ ∃ before, front = before ++ ['/']) := by
    rw [toString_of_ne_nil (by simp [child]), String.toList_append]
    by_cases named : path.names = []
    · refine ⟨path.anchor.text.toList, by simp [child, named, Text.join], ?_⟩
      cases path.anchor with
      | relative => exact .inl rfl
      | slash => exact .inr ⟨[], rfl⟩
      | doubleSlash => exact .inr ⟨['/'], rfl⟩
    · refine ⟨path.anchor.text.toList ++ (join "/" path.names).toList ++ ['/'], ?_, .inr ⟨_, rfl⟩⟩
      rw [child, join_concat named]
      simp
  obtain ⟨front, chars, ends⟩ := slashed
  have free : ∀ c ∈ name.toList.reverse, (c != '/') = true := by
    intro c mem
    have ne : c ≠ '/' := by
      rintro rfl
      exact isName.2.2 (mem_reverse.mp mem)
    simpa using ne
  have taken : (front ++ name.toList).reverse.takeWhile (· != '/') = name.toList.reverse := by
    rw [reverse_append, takeWhile_append_of_pos free]
    rcases ends with rfl | ⟨before, rfl⟩ <;> simp
  rw [base, splitLast, chars, taken, reverse_reverse, String.ofList_toList]

/-! ## Paths that are patterns for themselves -/

/-- A path with names, none of which has a special character. -/
structure Literal (path : Path) : Prop where
  proper : path.Proper
  named : path.names ≠ []
  tame : ∀ name ∈ path.names, NamePattern.isWild name = false

instance (path : Path) : Decidable path.Literal :=
  decidable_of_iff (path.Proper /\ path.names ≠ [] /\ ∀ name ∈ path.names, NamePattern.isWild name = false)
    ⟨fun facts => ⟨facts.1, facts.2.1, facts.2.2⟩, fun literal => ⟨literal.proper, literal.named, literal.tame⟩⟩

private lemma stepOf_tame (tame : NamePattern.isWild name = false) : stepOf name = .ok (.exact name) := by
  have free : '*' ∉ name.toList := by
    intro mem
    rw [NamePattern.isWild, any_eq_false] at tame
    exact tame '*' mem (by decide)
  have notStars : name ≠ "**" := by
    rintro rfl
    exact free (by decide)
  rw [stepOf, if_neg notStars, contains_stars_of_free free, tame]
  rfl

private lemma mapM_stepOf (tame : ∀ name ∈ names, NamePattern.isWild name = false) :
    names.mapM stepOf = .ok (names.map .exact) := by
  induction names with
  | nil => rfl
  | cons name rest ih =>
    rw [mapM_cons, stepOf_tame (tame name mem_cons_self), ih fun other mem => tame other (mem_cons_of_mem name mem)]
    rfl

lemma Literal.parse (literal : path.Literal) :
    parse (Path.mk .relative path.names).toString = .ok ⟨path.names.map .exact, false⟩ := by
  have proper : (Path.mk .relative path.names).Proper := literal.proper
  have named : (Path.mk .relative path.names).names ≠ [] := literal.named
  rw [Glob.parse, if_neg (toString_ne_empty proper)]
  simp [ofString_toString proper, (endsWith_toString proper named).1, isAbsolute, literal.named, mapM_stepOf literal.tame]

end Path
end Refinery
