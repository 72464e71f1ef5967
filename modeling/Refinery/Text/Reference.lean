import Refinery.Text.Quoted
import Refinery.Text.Search

namespace Refinery.Text

/-!
# Names of character references

The names by which markup refers to characters, each with its code.
-/

def referenceTable : String :=
  "AElig! C6,AMP! 26,Aacute! C1,Acirc! C2,Agrave! C0,Alpha 391,Aring! C5,Atilde! C3,Auml! C" ++
    "4,Beta 392,COPY! A9,Ccedil! C7,Chi 3A7,Dagger 2021,Delta 394,ETH! D0,Eacute! C9,Ecirc! CA,E" ++
    "grave! C8,Epsilon 395,Eta 397,Euml! CB,GT! 3E,Gamma 393,Iacute! CD,Icirc! CE,Igrave! CC,Iot" ++
    "a 399,Iuml! CF,Kappa 39A,LT! 3C,Lambda 39B,Mu 39C,Ntilde! D1,Nu 39D,OElig 152,Oacute! D3,Oc" ++
    "irc! D4,Ograve! D2,Omega 3A9,Omicron 39F,Oslash! D8,Otilde! D5,Ouml! D6,Phi 3A6,Pi 3A0,Prim" ++
    "e 2033,Psi 3A8,QUOT! 22,REG! AE,Rho 3A1,Scaron 160,Sigma 3A3,THORN! DE,Tau 3A4,Theta 398,Ua" ++
    "cute! DA,Ucirc! DB,Ugrave! D9,Upsilon 3A5,Uuml! DC,Xi 39E,Yacute! DD,Yuml 178,Zeta 396,aacu" ++
    "te! E1,acirc! E2,acute! B4,aelig! E6,agrave! E0,alefsym 2135,alpha 3B1,amp! 26,and 2227,ang" ++
    " 2220,apos 27,aring! E5,asymp 2248,atilde! E3,auml! E4,bdquo 201E,beta 3B2,brvbar! A6,bull " ++
    "2022,cap 2229,ccedil! E7,cedil! B8,cent! A2,chi 3C7,circ 2C6,clubs 2663,cong 2245,copy! A9," ++
    "crarr 21B5,cup 222A,curren! A4,dArr 21D3,dagger 2020,darr 2193,deg! B0,delta 3B4,diams 2666" ++
    ",divide! F7,eacute! E9,ecirc! EA,egrave! E8,empty 2205,emsp 2003,ensp 2002,epsilon 3B5,equi" ++
    "v 2261,eta 3B7,eth! F0,euml! EB,euro 20AC,exist 2203,fnof 192,forall 2200,frac12! BD,frac14" ++
    "! BC,frac34! BE,frasl 2044,gamma 3B3,ge 2265,gt! 3E,hArr 21D4,harr 2194,hearts 2665,hellip " ++
    "2026,iacute! ED,icirc! EE,iexcl! A1,igrave! EC,image 2111,infin 221E,int 222B,iota 3B9,ique" ++
    "st! BF,isin 2208,iuml! EF,kappa 3BA,lArr 21D0,lambda 3BB,lang 27E8,laquo! AB,larr 2190,lcei" ++
    "l 2308,ldquo 201C,le 2264,lfloor 230A,lowast 2217,loz 25CA,lrm 200E,lsaquo 2039,lsquo 2018," ++
    "lt! 3C,macr! AF,mdash 2014,micro! B5,middot! B7,minus 2212,mu 3BC,nabla 2207,nbsp! A0,ndash" ++
    " 2013,ne 2260,ni 220B,not! AC,notin 2209,nsub 2284,ntilde! F1,nu 3BD,oacute! F3,ocirc! F4,o" ++
    "elig 153,ograve! F2,oline 203E,omega 3C9,omicron 3BF,oplus 2295,or 2228,ordf! AA,ordm! BA,o" ++
    "slash! F8,otilde! F5,otimes 2297,ouml! F6,para! B6,part 2202,permil 2030,perp 22A5,phi 3C6," ++
    "pi 3C0,piv 3D6,plusmn! B1,pound! A3,prime 2032,prod 220F,prop 221D,psi 3C8,quot! 22,rArr 21" ++
    "D2,radic 221A,rang 27E9,raquo! BB,rarr 2192,rceil 2309,rdquo 201D,real 211C,reg! AE,rfloor " ++
    "230B,rho 3C1,rlm 200F,rsaquo 203A,rsquo 2019,sbquo 201A,scaron 161,sdot 22C5,sect! A7,shy! " ++
    "AD,sigma 3C3,sigmaf 3C2,sim 223C,spades 2660,sub 2282,sube 2286,sum 2211,sup 2283,sup1! B9," ++
    "sup2! B2,sup3! B3,supe 2287,szlig! DF,tau 3C4,there4 2234,theta 3B8,thetasym 3D1,thinsp 200" ++
    "9,thorn! FE,tilde 2DC,times! D7,trade 2122,uArr 21D1,uacute! FA,uarr 2191,ucirc! FB,ugrave!" ++
    " F9,uml! A8,upsih 3D2,upsilon 3C5,uuml! FC,weierp 2118,xi 3BE,yacute! FD,yen! A5,yuml! FF,z" ++ "eta 3B6,zwj 200D,zwnj 200C"

/-!
## Character references

In markup some characters are written as references: by name, or by their codes.
-/

def escapeMarkup (s : String) : String :=
  String.join (s.toList.map fun c =>
    match c with
    | '&' => "&amp;"
    | '<' => "&lt;"
    | '>' => "&gt;"
    | '\'' => "&#39;"
    | '"' => "&#34;"
    | c => String.singleton c)

def referenceDigit? (c : Char) : Option Nat :=
  if c.isDigit then some (c.toNat - 48)
  else if 'a' ≤ c && c ≤ 'f' then some (c.toNat - 87)
  else if 'A' ≤ c && c ≤ 'F' then some (c.toNat - 55)
  else none

def references : List (String × List Char) :=
  (referenceTable.splitOn ",").flatMap fun entry =>
    match entry.splitOn " " with
    | [name, codes] =>
      let characters := (codes.splitOn "+").map fun code =>
        Char.ofNat (code.toList.foldl (fun n c => 16 * n + (referenceDigit? c).getD 0) 0)
      match cut? "!" name with
      | some (bare, _) => [(bare, characters), (bare ++ ";", characters)]
      | none => [(name ++ ";", characters)]
    | _ => []

def oldCodes : List Nat :=
  [0x20AC, 0x81, 0x201A, 0x192, 0x201E, 0x2026, 0x2020, 0x2021, 0x2C6, 0x2030, 0x160, 0x2039, 0x152,
    0x8D, 0x17D, 0x8F, 0x90, 0x2018, 0x2019, 0x201C, 0x201D, 0x2022, 0x2013, 0x2014, 0x2DC, 0x2122,
    0x161, 0x203A, 0x153, 0x9D, 0x17E, 0x178]

def isVoidCode (n : Nat) : Bool :=
  (1 ≤ n && n ≤ 8) || n == 0xB || (0xE ≤ n && n ≤ 0x1F) || n == 0x7F ||
    (0xFDD0 ≤ n && n ≤ 0xFDEF) || n % 0x10000 == 0xFFFE || n % 0x10000 == 0xFFFF

def ofReferenceCode (n : Nat) : List Char :=
  if n = 0 || isSurrogateCode n || 0x10FFFF < n then ['�']
  else if 0x80 ≤ n && n ≤ 0x9F then [Char.ofNat (oldCodes[n - 0x80]?.getD n)]
  else if isVoidCode n then []
  else [Char.ofNat n]

def afterSemicolon : List Char -> List Char
  | ';' :: rest => rest
  | cs => cs

def longestName? (name : List Char) : (length : Nat) -> Option (List Char × List Char)
  | 0 | 1 => none
  | length + 2 =>
    match references.lookup (String.ofList (name.take (length + 2))) with
    | some found => some (found, name.drop (length + 2))
    | none => longestName? name (length + 1)

def ofReferenceName (name : List Char) : List Char :=
  match references.lookup (String.ofList name) with
  | some found => found
  | none =>
    match longestName? name (name.length - 1) with
    | some (found, rest) => found ++ rest
    | none => '&' :: name

def reference? (cs : List Char) : Option (List Char × List Char) :=
  let coded (base : Nat) (digits rest : List Char) : Option (List Char × List Char) :=
    if digits.isEmpty then none
    else
      let code := digits.foldl (fun n c => base * n + (referenceDigit? c).getD 0) 0
      some (ofReferenceCode code, afterSemicolon rest)
  match cs with
  | '#' :: x :: rest =>
    if x == 'x' || x == 'X' then
      let digits := rest.takeWhile fun c => (referenceDigit? c).isSome
      coded 16 digits (rest.drop digits.length)
    else
      let digits := (x :: rest).takeWhile Char.isDigit
      coded 10 digits ((x :: rest).drop digits.length)
  | _ =>
    let isNamed (c : Char) : Bool := !"\t\n\x0c <&#;".toList.contains c
    let name := (cs.take 32).takeWhile isNamed
    if name.isEmpty then none
    else
      match cs.drop name.length with
      | ';' :: rest => some (ofReferenceName (name ++ [';']), rest)
      | rest => some (ofReferenceName name, rest)

def unescapeMarkupFrom : (fuel : Nat) -> List Char -> List Char
  | 0, cs => cs
  | _, [] => []
  | fuel + 1, '&' :: rest =>
    match reference? rest with
    | some (found, rest) => found ++ unescapeMarkupFrom fuel rest
    | none => '&' :: unescapeMarkupFrom fuel rest
  | fuel + 1, c :: rest => c :: unescapeMarkupFrom fuel rest

def unescapeMarkup (s : String) : String :=
  if s.contains '&' then String.ofList (unescapeMarkupFrom s.length s.toList) else s

def removeBetween (opening closing : String) : (fuel : Nat) -> String -> String
  | 0, s => s
  | fuel + 1, s =>
    match cut? opening s with
    | some (before, after) =>
      match cut? closing (opening ++ after) with
      | some (_, rest) => removeBetween opening closing fuel (before ++ rest)
      | none => s
    | none => s

def stripTags (s : String) : String :=
  let s := removeBetween "<!--" "-->" s.length s
  let s := removeBetween "<" ">" s.length s
  unescapeMarkup (join " " (words s))

end Refinery.Text
