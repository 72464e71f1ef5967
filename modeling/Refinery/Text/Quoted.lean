import Refinery.Text.CharacterClass

namespace Refinery.Text

/-!
# Halves of surrogate pairs

Escapes can name one half of a surrogate pair, which is no character by itself.
-/

def isSurrogateCode (code : Nat) : Bool :=
  0xD800 ≤ code && code < 0xE000

def firstHalf : Nat := 0xF1800

def isHalf (c : Char) : Bool :=
  firstHalf ≤ c.toNat && c.toNat < firstHalf + 0x800

def ofCode (code : Nat) : Char :=
  if isSurrogateCode code then Char.ofNat (firstHalf + (code - 0xD800)) else Char.ofNat code

def codeOf (c : Char) : Nat :=
  if isHalf c then 0xD800 + (c.toNat - firstHalf) else c.toNat

def encodable (s : String) : Bool :=
  !s.toList.any isHalf

/-!
## Quoted texts

The quoted form of a text names it in messages and inside printed lists.
-/

def hex (width : Nat) (n : Nat) : String :=
  let digits := Nat.toDigits 16 n
  String.ofList (List.replicate (width - digits.length) '0' ++ digits)

def quotedChar (quote c : Char) : List Char :=
  if c = quote || c = '\\' then ['\\', c]
  else if c = '\n' then ['\\', 'n']
  else if c = '\r' then ['\\', 'r']
  else if c = '\t' then ['\\', 't']
  else if isPrintable c then [c]
  else if c.toNat < 0x100 then '\\' :: 'x' :: (hex 2 c.toNat).toList
  else if codeOf c < 0x10000 then '\\' :: 'u' :: (hex 4 (codeOf c)).toList
  else '\\' :: 'U' :: (hex 8 c.toNat).toList

def quoteOf (s : String) : Char :=
  if s.toList.contains '\'' && !s.toList.contains '"' then '"' else '\''

def quoted (s : String) : String :=
  let quote := quoteOf s
  String.ofList (quote :: (s.toList.flatMap (quotedChar quote) ++ [quote]))

def escapedWide (s : String) : String :=
  String.join (s.toList.map fun c =>
    let n := codeOf c
    if n < 0x80 then String.singleton c
    else if n < 0x100 then "\\x" ++ hex 2 n
    else if n < 0x10000 then "\\u" ++ hex 4 n
    else "\\U" ++ hex 8 n)

def quotedAscii (s : String) : String :=
  escapedWide (quoted s)

def bracketed (items : List String) : String :=
  "[" ++ String.intercalate ", " items ++ "]"

def quotedList (texts : List String) : String :=
  bracketed (texts.map quoted)

/-! ## Bytes and permissions as digits -/

def hexValue (c : Char) : Nat :=
  if c.isDigit then c.toNat - 48
  else if 'a' ≤ c then c.toNat - 87
  else c.toNat - 55

def bytesFrom : List Char -> List UInt8
  | high :: low :: rest => (hexValue high * 16 + hexValue low).toUInt8 :: bytesFrom rest
  | _ => []

def bytesOfHex (digits : String) : ByteArray :=
  ⟨(bytesFrom digits.toList).toArray⟩

def hexOfBytes (bytes : ByteArray) : String :=
  String.join (bytes.toList.map fun byte => hex 2 byte.toNat)

def ofOctal (digits : String) : Nat :=
  digits.toList.foldl (fun n c => n * 8 + (c.toNat - 48)) 0

def octal (n : Nat) : String :=
  String.ofList (Nat.toDigits 8 n)

end Refinery.Text
