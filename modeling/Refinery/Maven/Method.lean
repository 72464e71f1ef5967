import Refinery.Workspace.Files

namespace Refinery.Maven

open Text

/-!
# Editing methods in a source file

A method starts on a line with blanks and its signature, and ends on the first later line that starts with the
same blanks and a closing brace.
-/

def indentationFrom? (signature : List Char) : List Char -> Option (List Char)
  | [] => if signature.isEmpty then some [] else none
  | c :: rest =>
    let longer := if isBlank c then (indentationFrom? signature rest).map (c :: ·) else none
    longer.or (if signature.isPrefixOf (c :: rest) then some [] else none)

def indentation? (signature line : String) : Option String :=
  (indentationFrom? signature.toList line.toList).map String.ofList

def closing (indentation : String) : String :=
  indentation ++ "\x7d"

/-- The lines without the methods of a signature; `close` is how the current method ends. -/
def withoutMethods (signature : String) : (close : Option String) -> List String -> List String
  | _, [] => []
  | close, line :: rest =>
    match indentation? signature line with
    | some indentation => withoutMethods signature (some (closing indentation)) rest
    | none =>
      match close with
      | none => line :: withoutMethods signature none rest
      | some mark =>
        withoutMethods signature (if startsWith line mark then none else some mark) rest

/-- The lines with a renamed copy after each method.  The copies of all methods so far are in `copy`. -/
def withCopies (signature before after : String) : (copy : List String) -> (close : Option String) -> List String -> List String
  | _, _, [] => []
  | copy, close, line :: rest =>
    match indentation? signature line with
    | some indentation =>
      line :: withCopies signature before after (copy ++ [replace before after line])
        (some (closing indentation)) rest
    | none =>
      match close with
      | none => line :: withCopies signature before after copy none rest
      | some mark =>
        let copy := copy ++ [line]
        if startsWith line mark then
          line :: "\n" :: copy ++ withCopies signature before after copy none rest
        else line :: withCopies signature before after copy (some mark) rest

def spaces (line : String) : String :=
  repeated (line.length - (trimLeft line).length) " "

def commentLines (indentation kind : String) : List String -> List String
  | [] => []
  | first :: more =>
    (indentation ++ " * @" ++ kind ++ " " ++ first ++ "\n") ::
      more.map fun line => indentation ++ " *   " ++ line ++ "\n"

def isAnnotation (line : String) : Bool :=
  startsWith (trimLeft line) "@"

def annotationsAbove : List String -> List String × List String
  | [] => ([], [])
  | line :: rest =>
    if isAnnotation line then
      let (annotations, others) := annotationsAbove rest
      (line :: annotations, others)
    else ([], line :: rest)

/-- The lines with an annotation above each method.  The lines `above` and the annotations so far are kept in
reverse. -/
def withComments (signature kind : String) (content : List String) :
    (above annotations : List String) -> List String -> Except Failure (List String)
  | above, _, [] => .ok above.reverse
  | above, annotations, line :: rest =>
    match indentation? signature line with
    | none => withComments signature kind content (line :: above) annotations rest
    | some _ =>
      let (found, others) := annotationsAbove above
      let annotations := annotations ++ found
      match others with
      | [] => .error .noIndex
      | last :: others =>
        let indentation := spaces line
        let inner := (commentLines indentation kind content).reverse
        let commented :=
          if trim last = "*/" then last :: inner ++ others
          else (indentation ++ " */\n") :: inner ++ (indentation ++ "/**\n") :: last :: others
        withComments signature kind content (line :: annotations ++ commented) annotations rest

def withAnnotations (signature annotation : String) (lines : List String) : List String :=
  lines.flatMap fun line =>
    match indentation? signature line with
    | some _ => [spaces line ++ annotation ++ "\n", line]
    | none => [line]

def editLines (path : String) (edit : List String -> Except Failure (List String)) : Job Unit := do
  let lines <- Job.ofExcept (edit (lines (<- Job.readText path)))
  Job.writeText path (String.join lines)

def removeMethod (path signature : String) : Job Unit :=
  editLines path fun lines => .ok (withoutMethods signature none lines)

def copyMethod (path signature before after : String) : Job Unit :=
  editLines path fun lines => .ok (withCopies signature before after [] none lines)

def documentMethod (path signature kind : String) (content : List String) : Job Unit :=
  editLines path (withComments signature kind content [] [])

def annotateMethod (path signature annotation : String) : Job Unit :=
  editLines path fun lines => .ok (withAnnotations signature annotation lines)

def deprecateMethod (path signature warning : String) : Job Unit := do
  documentMethod path signature "deprecated" (brokenLines warning)
  annotateMethod path signature "@Deprecated"

end Refinery.Maven
