import Refinery.Proofs.Path.Text

namespace Refinery

open List Text

/-!
# The folder of a path

The text before the last slash names the folder, also with repeated slashes and dots.
-/

variable {name : String}

namespace Text

lemma splitFrom_slash (piece cs rest : List Char) : splitFrom ['/'] 0 piece (cs ++ '/' :: rest) =
      splitFrom ['/'] 0 piece cs ++ splitFrom ['/'] 0 [] rest := by
  induction cs generalizing piece with
  | nil => simp [splitFrom]
  | cons c others ih =>
    rw [cons_append, splitFrom, splitFrom]
    by_cases slash : '/' = c
    · subst slash
      simp [ih]
    · simp [slash, ih]

end Text

namespace Path

lemma namesOf_slash_append (s t : String) : namesOf (s ++ "/" ++ t) = namesOf s ++ namesOf t := by
  have chars : (s ++ "/" ++ t).toList = s.toList ++ '/' :: t.toList := by simp
  have parts : split "/" (s ++ "/" ++ t) = split "/" s ++ split "/" t := by
    change (Text.splitFrom ['/'] 0 [] (s ++ "/" ++ t).toList).map String.ofList = _
    rw [chars, Text.splitFrom_slash, map_append]
    rfl
  rw [namesOf, parts, filter_append, namesOf, namesOf]

lemma namesOf_name (isName : IsName name) : namesOf name = [name] := by
  rw [namesOf, split_of_free isName.2.2]
  simp [isName.1, isName.2.1]

lemma proper_single (isName : IsName name) : (Path.mk .relative [name]).Proper :=
  forall_mem_singleton.mpr isName

lemma toString_single (name : String) : (Path.mk .relative [name]).toString = name :=
  (toString_of_ne_nil (cons_ne_nil name [])).trans String.empty_append

lemma namesOf_slashes (s : String) (count : Nat) : namesOf (s ++ String.ofList (List.replicate count '/')) = namesOf s := by
  induction count with
  | zero => simp
  | succ count ih =>
    have parts : s ++ String.ofList (List.replicate (count + 1) '/') =
        s ++ String.ofList (List.replicate count '/') ++ "/" ++ "" := by
      apply String.toList_inj.mp
      simp [replicate_succ']
    rw [parts, namesOf_slash_append, ih, show namesOf "" = [] from rfl, append_nil]

lemma isAbsolute_ofString_eq (s : String) : (ofString s).isAbsolute = (s.toList.head? == some '/') := by
  rw [isAbsolute, ofString, anchorOf]
  cases chars : s.toList with
  | nil => rfl
  | cons c rest =>
    by_cases slash : c = '/'
    · subst slash
      rw [takeWhile_cons_of_pos rfl, length_cons]
      cases (List.takeWhile (· == '/') rest).length with
      | zero => rfl
      | succ more => cases more <;> rfl
    · rw [takeWhile_cons_of_neg (by simpa using slash)]
      simp [slash]

end Path

lemma PathText.trimRightBy_directory (s : String) : trimRightBy (· == '/') (directory s) = directory s \/
      trimRightBy (· == '/') (directory s) = "" := by
  let head := s.toList.reverse.dropWhile (· != '/')
  let kept := head.dropWhile (· == '/')
  have chars : (directory s).toList.reverse = if kept.isEmpty then head else kept := by
    rw [directory, splitLast, String.toList_ofList, reverse_reverse]
  rw [trimRightBy, chars]
  by_cases empty : kept.isEmpty = true
  · have nothing : head.dropWhile (· == '/') = [] := List.isEmpty_iff.mp empty
    rw [if_pos empty, nothing]
    exact .inr rfl
  · have same : (directory s).toList.reverse = head.dropWhile (· == '/') := chars.trans (if_neg empty)
    rw [if_neg empty, dropWhile_idempotent, <- same, reverse_reverse, String.ofList_toList]
    exact .inl rfl

namespace Path

lemma directory_cases (s : String) (free : '/' ∉ name.toList) : (∃ count, s = String.ofList (List.replicate count '/') /\
      PathText.directory (s ++ "/" ++ name) = s ++ "/") \/
    ∃ count, s = PathText.directory (s ++ "/" ++ name) ++ String.ofList (List.replicate count '/') /\
      PathText.directory (s ++ "/" ++ name) ≠ "" /\ trimRightBy (· == '/') (PathText.directory (s ++ "/" ++ name)) =
        PathText.directory (s ++ "/" ++ name) := by
  let slashes := s.toList.reverse.takeWhile (· == '/')
  let kept := s.toList.reverse.dropWhile (· == '/')
  have parts : s.toList = kept.reverse ++ List.replicate slashes.length '/' := by
    have alike : slashes = List.replicate slashes.length '/' :=
      eq_replicate_of_mem fun c mem => by simpa using mem_takeWhile_imp mem
    rw [<- reverse_inj, reverse_append, reverse_reverse, reverse_replicate, <- alike]
    exact takeWhile_append_dropWhile.symm
  have dropped : (s ++ "/" ++ name).toList.reverse.dropWhile (· != '/') = '/' :: s.toList.reverse := by
    have whole : ∀ c ∈ name.toList.reverse, (c != '/') = true := by
      intro c mem
      rw [bne_iff_ne]
      rintro rfl
      exact free (mem_reverse.mp mem)
    have back : (s ++ "/" ++ name).toList.reverse = name.toList.reverse ++ '/' :: s.toList.reverse := by
      simp
    rw [back, dropWhile_append_of_pos whole]
    rfl
  have folder : PathText.directory (s ++ "/" ++ name) =
      String.ofList (if kept.isEmpty then '/' :: s.toList.reverse else kept).reverse := by
    simp only [PathText.directory, PathText.splitLast, dropped]
    rfl
  by_cases empty : kept = []
  · refine .inl ⟨slashes.length, String.toList_inj.mp ?_, String.toList_inj.mp ?_⟩
    · rw [parts, empty]
      simp
    · rw [folder, empty]
      simp
  · rw [if_neg (by simpa using empty)] at folder
    refine .inr ⟨slashes.length, String.toList_inj.mp ?_, ?_, ?_⟩
    · rw [folder, String.toList_append, String.toList_ofList, String.toList_ofList]
      exact parts
    · rw [folder]
      intro nothing
      have chars := congrArg String.toList nothing
      rw [String.toList_ofList] at chars
      exact empty (reverse_eq_nil_iff.mp chars)
    · rw [folder, trimRightBy, String.toList_ofList, reverse_reverse, dropWhile_idempotent]

lemma directory_name (folder : IsName s) (free : '/' ∉ name.toList) : PathText.directory (s ++ "/" ++ name) = s := by
  have single (count : Nat) (front : String) (whole : s = front ++ String.ofList (List.replicate count '/')) : count = 0 := by
    by_contra more
    apply folder.2.2
    rw [whole]
    simp [more]
  rcases directory_cases s free with ⟨count, slashes, -⟩ | ⟨count, whole, -, -⟩
  · cases single count "" (by simpa using slashes)
    exact absurd slashes folder.1
  · cases single count _ whole
    simpa using whole.symm

lemma names_folder (s : String) (isName : IsName name) :
    (ofString (PathText.directory (s ++ "/" ++ name))).names = namesOf s := by
  simp only [ofString]
  rcases directory_cases s isName.2.2 with ⟨count, -, folder⟩ | ⟨count, whole, -, -⟩
  · have slashed : s ++ "/" = s ++ "/" ++ "" := String.append_empty.symm
    rw [folder, slashed, namesOf_slash_append, show namesOf "" = [] from rfl, append_nil]
  · conv_rhs => rw [whole]
    rw [namesOf_slashes]

lemma isAbsolute_folder (s : String) (isName : IsName name) : (ofString (PathText.directory (s ++ "/" ++ name))).isAbsolute =
      (ofString (s ++ "/" ++ name)).isAbsolute := by
  rw [isAbsolute_ofString_eq, isAbsolute_ofString_eq]
  rcases directory_cases s isName.2.2 with ⟨count, slashes, folder⟩ | ⟨count, whole, named, -⟩
  · rw [folder]
    cases chars : s.toList <;> simp [chars]
  · rcases exists_cons_of_ne_nil (mt String.toList_eq_nil_iff.mp named) with ⟨c, rest, chars⟩
    have start : s.toList.head? = some c := by
      rw [whole, String.toList_append, chars]
      rfl
    rw [chars]
    cases text : s.toList <;> rw [text] at start
    · cases start
    · cases start
      simp [text]

lemma pathOf_child (s : String) (isName : IsName name) :
    Job.pathOf (s ++ "/" ++ name) = ⟨(ofString (s ++ "/" ++ name)).anchor, namesOf s ++ [name]⟩ := by
  have chars : (s ++ "/" ++ name).toList = (s ++ "/").toList ++ name.toList := String.toList_append
  have ends := endsWith_name chars isName
  have names : (ofString (s ++ "/" ++ name)).names = namesOf s ++ [name] := by
    simp only [ofString]
    rw [namesOf_slash_append, namesOf_name isName]
  rw [Job.pathOf, ends.1, ends.2, <- names]
  simp

end Path
end Refinery
