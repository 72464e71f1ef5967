import Refinery.Pattern.Replace
import Refinery.Workspace.Glob

namespace Refinery

/-!
# Replacing text in files

A file that is not a text is searched byte by byte.
-/

structure Substitution where
  expression : Expression
  source : String
  flags : Pattern.Flags
  replacement : String

namespace Substitution

def parse (before after : String) (flags : Pattern.Flags := Pattern.Flags.lines) :
    Except Failure Substitution := do
  return ⟨<- Expression.ofText flags before, before, flags, after⟩

def charsOfBytes (bytes : ByteArray) : List Char :=
  bytes.toList.map fun byte => Char.ofNat byte.toNat

def bytesOfChars (chars : List Char) : ByteArray :=
  ⟨(chars.map fun c => c.toNat.toUInt8).toArray⟩

def inBytes (s : Substitution) (bytes : ByteArray) : Except Failure (ByteArray × Nat) := do
  let e <- Expression.ofBytes s.flags (charsOfBytes s.source.toUTF8)
  let (chars, count) <- e.substitute (charsOfBytes s.replacement.toUTF8) (charsOfBytes bytes)
  return (bytesOfChars chars, count)

def inText (s : Substitution) (text : String) : Except Failure (String × Nat) := do
  let (chars, count) <- s.expression.substitute s.replacement.toList text.toList
  return (String.ofList chars, count)

def inFile (s : Substitution) (path : Path) : Job Nat := do
  let bytes <- Job.readBytes path
  match String.fromUTF8? bytes with
  | some text =>
    let (changed, count) <- Job.ofExcept (s.inText (Text.unifyLineEnds text))
    if count ≠ 0 then Job.writeText path changed
    return count
  | none =>
    let (changed, count) <- Job.ofExcept (s.inBytes bytes)
    if count ≠ 0 then Job.writeBytes path changed
    return count

end Substitution

namespace Replacement

def replaceIn (sources : Selection) (before after : String)
    (flags : Pattern.Flags := Pattern.Flags.lines) : Job Nat := do
  let substitution <- Job.ofExcept (Substitution.parse before after flags)
  sources.fold Path.here (fun count path => do
    if <- Job.isFile path then return count + (<- substitution.inFile path)
    return count) 0

end Replacement

end Refinery
