import Refinery.Failure
import Refinery.Text.Case

namespace Refinery
namespace Text

/-!
# Encodings

Texts as bytes in an encoding that is known by name.
-/

inductive Encoding where
  | utf8
  | utf8Marked
  | utf16 (big marked : Bool)
  | utf32 (big marked : Bool)
  | narrow (limit : Nat)
  deriving DecidableEq

namespace Encoding

def ofName? (name : String) : Option Encoding :=
  let name := String.ofList ((Text.lower name).toList.map fun c =>
    if c == '-' || c == ' ' then '_' else c)
  match name with
  | "utf_8" | "utf8" | "u8" | "utf" | "utf8_ucs2" | "utf8_ucs4" | "cp65001" => some .utf8
  | "utf_8_sig" => some .utf8Marked
  | "utf_16" | "utf16" | "u16" => some (.utf16 false true)
  | "utf_16_le" | "utf_16le" | "utf16le" => some (.utf16 false false)
  | "utf_16_be" | "utf_16be" | "utf16be" => some (.utf16 true false)
  | "utf_32" | "utf32" | "u32" => some (.utf32 false true)
  | "utf_32_le" | "utf_32le" => some (.utf32 false false)
  | "utf_32_be" | "utf_32be" => some (.utf32 true false)
  | "ascii" | "us_ascii" | "646" | "us" | "ansi_x3.4_1968" | "iso646_us" | "iso_ir_6" | "cp367" |
      "ibm367" => some (.narrow 128)
  | "latin_1" | "latin1" | "iso8859_1" | "iso_8859_1" | "8859" | "cp819" | "latin" | "l1" |
      "iso8859" | "ibm819" => some (.narrow 256)
  | _ => none

def bytesOf (big : Bool) (count n : Nat) : List UInt8 :=
  let bytes := (List.range count).map fun i => (n / Nat.pow 256 i % 256).toUInt8
  if big then bytes.reverse else bytes

def bytes? (encoding : Encoding) (c : Char) : Option (List UInt8) :=
  let code := codeOf c
  match encoding with
  | .narrow limit => if code < limit then some [code.toUInt8] else none
  | .utf8 | .utf8Marked => if isHalf c then none else some (String.singleton c).toUTF8.toList
  | .utf16 big _ =>
    if isHalf c then none
    else if code < 0x10000 then some (bytesOf big 2 code)
    else some (bytesOf big 2 (0xD800 + (code - 0x10000) / 0x400) ++ bytesOf big 2 (0xDC00 + (code - 0x10000) % 0x400))
  | .utf32 big _ => if isHalf c then none else some (bytesOf big 4 code)

def mark : Encoding -> List UInt8
  | .utf8Marked => [0xEF, 0xBB, 0xBF]
  | .utf16 big true => bytesOf big 2 0xFEFF
  | .utf32 big true => bytesOf big 4 0xFEFF
  | _ => []

def substitute (handling : String) (c : Char) : Except Failure (List Char) :=
  match handling with
  | "strict" => .error .unencodable
  | "ignore" => .ok []
  | "replace" => .ok ['?']
  | "xmlcharrefreplace" => .ok ("&#" ++ toString (codeOf c) ++ ";").toList
  | "backslashreplace" =>
    let code := codeOf c
    .ok (if code < 0x100 then "\\x" ++ hex 2 code
      else if code < 0x10000 then "\\u" ++ hex 4 code
      else "\\U" ++ hex 8 code).toList
  | _ => .error .unknownEncoding

def encode (encoding : Encoding) (handling : String) (s : String) : Except Failure ByteArray := do
  let bytes <- s.toList.mapM fun c =>
    match encoding.bytes? c with
    | some bytes => .ok bytes
    | none => do
      return (<- substitute handling c).flatMap fun c => (encoding.bytes? c).getD []
  return ⟨(encoding.mark ++ bytes.flatten).toArray⟩

def decode? (encoding : Encoding) (bytes : ByteArray) : Option String :=
  match encoding with
  | .narrow limit =>
    if bytes.toList.all fun b => b.toNat < limit then
      some (String.ofList (bytes.toList.map fun b => Char.ofNat b.toNat))
    else none
  | .utf8 => String.fromUTF8? bytes
  | .utf8Marked =>
    if [0xEF, 0xBB, 0xBF].isPrefixOf bytes.toList then
      String.fromUTF8? ⟨(bytes.toList.drop 3).toArray⟩
    else String.fromUTF8? bytes
  | .utf16 _ _ | .utf32 _ _ => none

end Encoding

end Text

namespace Base64

/-!
## Bytes as digits of base sixty-four

Three bytes are four digits.
-/

def alphabet : List Char :=
  "ABCDEFGHIJKLMNOPQRSTUVWXYZabcdefghijklmnopqrstuvwxyz0123456789+/".toList

def digit (value : Nat) : Char :=
  alphabet[value]?.getD '='

def value? (c : Char) : Option Nat :=
  alphabet.findIdx? (· == c)

def digits : List UInt8 -> List Char
  | a :: b :: c :: rest =>
    let n := (a.toNat * 256 + b.toNat) * 256 + c.toNat
    digit (n / 262144) :: digit (n / 4096 % 64) :: digit (n / 64 % 64) :: digit (n % 64) ::
      digits rest
  | [a, b] =>
    let n := (a.toNat * 256 + b.toNat) * 4
    [digit (n / 4096), digit (n / 64 % 64), digit (n % 64), '=']
  | [a] =>
    let n := a.toNat * 16
    [digit (n / 64), digit (n % 64), '=', '=']
  | [] => []

def lines : (fuel : Nat) -> List Char -> List Char
  | 0, cs => cs
  | fuel + 1, cs =>
    if cs.isEmpty then [] else cs.take 76 ++ '\n' :: lines fuel (cs.drop 76)

def encode (bytes : ByteArray) : String :=
  let cs := digits bytes.toList
  String.ofList (lines (cs.length + 1) cs)

/-- Read digits from a place within a group of four.  `left` are the bits that wait, and `fills` counts the
signs that fill up the group. -/
def decodeFrom : (place left fills : Nat) -> List Char -> Option (List UInt8)
  | place, _, _, [] => if place = 0 then some [] else none
  | place, left, fills, c :: rest =>
    if c == '=' then
      if 2 ≤ place && 4 ≤ place + fills + 1 then some []
      else decodeFrom place left (if 2 ≤ place then fills + 1 else fills) rest
    else
      match value? c with
      | none => decodeFrom place left fills rest
      | some value =>
        match place with
        | 0 => decodeFrom 1 value 0 rest
        | 1 => (decodeFrom 2 (value % 16) 0 rest).map ((left * 4 + value / 16).toUInt8 :: ·)
        | 2 => (decodeFrom 3 (value % 4) 0 rest).map ((left * 16 + value / 4).toUInt8 :: ·)
        | _ => (decodeFrom 0 0 0 rest).map ((left * 64 + value).toUInt8 :: ·)

def decode? (text : String) : Option ByteArray :=
  (decodeFrom 0 0 0 text.toList).map fun bytes => ⟨bytes.toArray⟩

end Base64
end Refinery
