namespace Refinery.Text

/-!
# Sets of code points by their boundaries

Membership changes at the boundaries, the first of which is a member.  The gaps between them are written as
letters that count from 0 to 51, with the multiple of 52 in front.
-/

structure Flip where
  gaps : List Nat

namespace Flip

def gapsFrom : (high : Nat) -> List Char -> List Nat
  | _, [] => []
  | high, c :: rest =>
    if c.isDigit then gapsFrom (10 * high + (c.toNat - '0'.toNat)) rest
    else if c.isUpper then (52 * high + (c.toNat - 'A'.toNat)) :: gapsFrom 0 rest
    else if c.isLower then (52 * high + (c.toNat - 'a'.toNat) + 26) :: gapsFrom 0 rest
    else gapsFrom high rest

def ofText (text : String) : Flip :=
  ⟨gapsFrom 0 text.toList⟩

/-- Whether the point that is `code` behind a boundary is a member, if those just behind that boundary are as
`inside` says. -/
def containsFrom : (gaps : List Nat) -> (inside : Bool) -> (code : Nat) -> Bool
  | [], inside, _ => inside
  | gap :: rest, inside, code => if code < gap then inside else containsFrom rest (!inside) (code - gap)

def contains (set : Flip) (code : Nat) : Bool :=
  containsFrom set.gaps false code

end Flip

/-!
## Blank characters

White space in the sense of Unicode, together with the four information separators of ASCII.
-/

def isBlank (c : Char) : Bool :=
  let code := c.toNat
  (9 ≤ code && code ≤ 13) || (28 ≤ code && code ≤ 32) || code == 0x85 || code == 0xA0 ||
    code == 0x1680 || (0x2000 ≤ code && code ≤ 0x200A) || code == 0x2028 || code == 0x2029 ||
    code == 0x202F || code == 0x205F || code == 0x3000

def trimLeftBy (drop : Char -> Bool) (s : String) : String :=
  String.ofList (s.toList.dropWhile drop)

def trimRightBy (drop : Char -> Bool) (s : String) : String :=
  String.ofList (s.toList.reverse.dropWhile drop).reverse

def trimBy (drop : Char -> Bool) (s : String) : String :=
  trimRightBy drop (trimLeftBy drop s)

def trim (s : String) : String :=
  trimBy isBlank s

def trimLeft (s : String) : String :=
  trimLeftBy isBlank s

def allBlank (s : String) : Bool :=
  s.toList.all isBlank

def wordsFrom : (word : List Char) -> List Char -> List String
  | [], [] => []
  | word@(_ :: _), [] => [String.ofList word.reverse]
  | word, c :: rest =>
    if isBlank c then
      if word.isEmpty then wordsFrom [] rest
      else String.ofList word.reverse :: wordsFrom [] rest
    else
      wordsFrom (c :: word) rest

def words (s : String) : List String :=
  wordsFrom [] s.toList

/-!
## Letters, digits and numbers

The letters and numbers of Unicode 14.
-/

def letterFlips : Flip :=
  .ofText "1NaGavBKBEBFXBfB8qEMOFHBBB2ZFBCCEBBGBBDBBBUB1fB2jI3KBmCBGp1TbEEtrjCB1vBBPCHCKDCBQBBed1lLB
    YhJCEBFWEBJBDBXZHLFYBGRq1G1CDBSBHKPQEICCCWBHBBDEDBQBNCBDOCKBIGECCWBHBCBCBCfEBBTDQJBDBWBHBCBFDBSB
    PCXBLICCCWBHBCBFDBeCBDPBRBBGDDBEDCBBBCDCDDDMWB1AIBDBXBQDBaDCBCCeBEIBDBXBKBFDBfCBCPCRJBDBpCBQBFDI
    DYGFSDYBJBBCH1GwBCMH1GCBBBFBYBBBKBCJBCFBBVEgB1LIBkbF2LrUBQGEEDBDCHDENMBRmBBFBCrB6VBECHBBBECpBECh
    BECHBBBECPB1FBEC1PlQQ1iCGD11wCRBaF1XGIHSNTOSONBDP1AjBEB1P1lHFCiBBF1SKfxeCFLsEa1CXJ1B1eB1pvRI1CeN
    CKsakpDKkCJHrCDpEBGBCDBF3k1M5SCGCmCGCIBBBBBBBfC1BBHBBDDBHDECGENFDBH2MBNBQN1xBEBCKBBDFGBBBBBBEBLC
    EFFEB1AC51f4VGEDCMmBBFBC1EHBQXJHBHBHBHBHBHBHBH1cB9BCqFFCE1iGDB1mBEFrB1qRgwQ9s126o1M426F1PuC5JDQK
    CUvQfC1SxJC1zC1MFCBBBFYQBDBEBXd1AOy1KGDBBCLcKXZdHvcBQFBKKFBpXDBIUXDBDyBBDCCFCBBBYDCLHDMGCGCGJHBH
    BrBOG2Ld214sMXEx162c7CC2CmHMFFBBKBNBFBBBCBCB2Eh6zS1MC1CoM2MFB2fkaGaL1lDGCGCGCDjMBaBTBCBPCOi2T7Zd
    DxvgNUBIGmKeCkEIw3CSkEkEoI1AMLBPBHBCBLBPBHBC1P5zJWKIYGBqBJ1RGCBBsBCDBCXKXJf1NTBCKWKa1S1EGC1MBPEB
    DBdqdDdjIBcb1CKWKTNS2G1V1DzNzNk6kqGC1adKBIWqSuVbXM1B1FCCBNtgZakdBCBIjDBMwOEVBBBjSBZ1gHBBBEBPBKHv
    mICCCWBHBCBFDBSBMF3C1BSEUDewUCBB3cvpEkwUB1HrNB1TblH3ds2M1MfICBCIBCBYPBBB1qICnQBBBcBKoHBVBLuTBS1V
    5DJBlRBxe2IHBCBmVBZGBCBgOB6PT3hB1b17m4W3o50k1tP20f77t11L166B10xHfR1bReSwQEfVFT13M1M2Y1XFB1ON1MCB
    Bc118AI23qqJ171rEBHBCB5ftDREI7g44U2DFNDJHK115K1hB1TBCCBCCCEBMBBBHB1NBECIBHBcBEBFBBDHB6cCZBZBfBZB
    fBZBfBZBfBZBI35Yf9NtKHQB6JeSs24UHBEBCBPB3p1H1QHB23IEBbBCBBCBBKBEBBBBGBEBBBBBBDBCBBCBBBBBBBBBBCBB
    CEBHBEBEBBBKBRFDBFBR85A821cg79tH4OC110qO143l59j10W28y94z"

def isLetter (c : Char) : Bool :=
  letterFlips.contains c.toNat

def digitZeros : List Nat :=
  [ 48,1632,1776,1984,2406,2534,2662,2790,2918,3046,3174,3302,3430,3558,3664,3792,3872,4160,4240,
    6112,6160,6470,6608,6784,6800,6992,7088,7232,7248,42528,43216,43264,43472,43504,43600,44016,
    65296,66720,68912,69734,69872,69942,70096,70384,70736,70864,71248,71360,71472,71904,72016,72784,
    73040,73120,92768,92864,93008,120782,120792,120802,120812,120822,123200,123632,125264,130032]

def digitValue? (c : Char) : Option Nat :=
  (digitZeros.find? fun start => start ≤ c.toNat && c.toNat < start + 10).map (c.toNat - ·)

def isDigit (c : Char) : Bool :=
  (digitValue? c).isSome

def otherDigitFlips : Flip :=
  .ofText "3WCFB91zJ31cB32VBDGGK18uJLJLJ1lBKJBB12GJBJBJ1115xE20MJ9VJ1105xL"

def numericFlips : Flip :=
  .ofText "wK2QCFBCD27lK2eK3qK7wK2OKEG2EK2OK2OKCG2GN2LKIH1zK2AHHT2FK1sK2OK1SU5IK1SK13rU16xD4fKGKWK5o
    K2YL3JKGK3aK1iK2eKGK20GBDGGK3qzCF13y1I1aW12Ge26hB14xBZJOD6fE2iKeIBPgKnP6NB2VB17yB15WB92CBCBDBBB1
    fBuBHBBBoCeBIBkB1uB7nB1NBiBBBBB8zBBDGB2ME15KB10NBHB27EB2bCMDBB19RB1ZB22NB35XB22XB14PB49TB17xB41t
    BEB2UB44ABkBFBrB2VB74hK3gK6IG2yKmK3qKWK1iK7qK381NBHBEB1FBeBBBpB24yK9ZtM1FRC6dbkEdBIB2eF3uK18GIZH
    nJ1XFWG3ECCQCu1MJ1ACeD1XF2AIYIpH6SGwK5if3CKqE2IH2ee2YK1IK2oKHU4rK6eK2OK7KK1yK1yM8ET1pK14ed4TK1SK
    10OV20b2H344RK1iK2eKBH15SX493lU2EZ21Ry45cK8GK28dJ2YK15L1HBDBE1YtBP18aN53fK19rB1uB2VB1KB39cB1kBIB
    PB6VBSBbB120WB29jB86KB193dB739GB"

def isAnyDigit (c : Char) : Bool :=
  isDigit c || otherDigitFlips.contains c.toNat

def isNumeric (c : Char) : Bool :=
  numericFlips.contains c.toNat

def isAlphanumeric (c : Char) : Bool :=
  isLetter c || isNumeric c

/-!
## Identifiers

The characters of Unicode 14 with which an identifier may start, and those that may follow.
-/

def startFlips : Flip :=
  .ofText "1rB15OB52oB2XB40aD7oC42JBVBxjCE62OB9DBZJOD584LK420eG7qC2MBBBBBBBBBBBBBBB5bC8A1B8sBIB2eF15
    8S2H"

def startsIdentifier (c : Char) : Bool :=
  isLetter c != startFlips.contains c.toNat

def markFlips : Flip :=
  .ofText "3bB11M2IXB4rF5FtBBBCBCBB1ULwVQB1xHCGCCBEjBeb1nL1GJJBYEBJBDBFrD1IIqYBh1CDBSBHKCdD1EBBHCCCD
    JBKCaBCD1EBBFECCDDBeCDBLD1EBBIBDBDUCWGBD1EBBHCCCDHDKCeB1HFDDBEJBoF1DBBHBDBEHCLCdD1EBBHBDBEHCLCcE
    1DCBHBDBEJBKCdD1SBEGBBBISC1JBBIMI1uBBKLG1WCbBBBBBECxUBCFLBkJB1wUXEEDBDCHDENMBBKE13bDJJ17sEcDdCeC
    1MgJBtDBB2xB2OMEM3CB1IF1FKBdCBwOBQxFvRmJMDeN1EOwU2wDBVEBGBCD3q1M11DCTB2TNEBDM59CD2lB1sg10iG2BC58
    0EBEKgC1cC5MBDBEBXFEB1fCySaSNBmIZNsEvOkB1POMBICtDyBBDCCFCBBpFFC4cIBC389sB14JQQQDCYD4fB1qC11hB4SB
    2tF32GDBCFEoDEB3JC11BE7XC2xLxE2SD1BPpBCCKEtLHB1JDkOQCsBMDwOIEBC1oMGB3EMVE1DCBHCCCDJBKCCHDF3kSXB1
    dU4bHCJbC1eR2CN1xP4wP4lGBCCEBBBC2lHCHDBcKoHBEIBJLuQ7pIBI1eWBO2SGDBBCBHBB1OFBCBF6jE374BF1HH20IBB1
    DHE1dBLC377XC90ZuCX10WFDGIICHeE2sD38D1DEyIBOBWFBP26IHBRCHBCBF5BH7LB1JE28wH2FH15240V4g"

def continuesIdentifier (c : Char) : Bool :=
  startsIdentifier c || isDigit c || markFlips.contains c.toNat

def isIdentifier (s : String) : Bool :=
  match s.toList with
  | [] => false
  | c :: rest => startsIdentifier c && rest.all continuesIdentifier

/-!
## Printable characters

The characters of Unicode 14 that a quoted text shows as themselves.
-/

def printableFlips : Flip :=
  .ofText "g1riMB13mCGEHBBBUB7hBmCyCDB1DIbEGRWB3kBwC1HC1xO1HCxCPBcCBBLFfJ1WB3FBICCCWBHBBDECJCCCEIBEC
    BFCZCDBGECCWBHBCBCBCCBBFECCDDBHEBBHRKDBJBDBWBHBCBFCKBDBDCBPECMHHBDBICCCWBHBCBFCJCCCDHDECBFCSKCBG
    DDBEDCBBBCDCDDDMEFDDBECBGBOVFNBDBXBQCJBDBEHCBDCBCECKHWBDBXBKBFCJBDBEHCGCBECKBCNNBDBzBDBGEQCaBDBS
    DYBJBBCHDBEGBBBIGKCDM1GEdlCBBBFBYBBBXCFBBBGCKCEg1UBkEnBkBPBNl3qBBFBC7NBECHBBBECpBEChBECHBBBECPB1
    FBEC1PCgDaG1iCGC12QBcD1lHWJYJUMNBDBCM1qCKGKGOBLG1lHrF1SKfBMEMEBDqCFLsEaGLD1KC1NBdCLGKGOCfx1ZDvB2
    MI1IDPD1IHrCLIrF10OCGCmCGCIBBBBBBBfC1BBPBOCGBTCDBJRYIvRCCbBNDhPhP2kE12nZLV34sCgB6lFtBBFBC1EHCOYJ
    HBHBHBHBHBHBHBHB2WiaB1lM4GaMF1LB1iC1zFrB1qB1gMvB563RD1DJ6kU3cI3vFCBBBFY1HDKG1EI1SIMG2MLeD1aBLEhB
    1DJOCKC1zYcKGCGCGJHBHB1IE2WCKG214sMXEx162c7CC2CmHMFFaBFBBBCBCB2VQ8dC1CHBgqGzBTBEEFB2fE3iDGCGCGCD
    DHBHNCCMBaBTBCBPCOi2TFDEtD1kBNDBvu2adDxPcEkJeFrFeBlEOq3CCKGkEkEoI1ALMBPBHBCBLBPBHBC1P5zJWKIYGBqB
    J1RGCBBsBCDBCXB1UIJwTBCFhDbFB1M1EEUCyBCFIBDBdCDEKHJH1MgnEMJ1CDdCbFaHEMH1c1V1DzNzHuIK5ifBqBDCC1ao
    IqWamcUXJ1aEkJ1KBFNZHKG1BBSInJ1sBULSBs1NHBBBEBPBLG1HFKGEBICCCWBHBCBFBKCCCDCBGBFHCHDF2j1oBFe1UIK3
    K1CCmi1RLKGNT1GGK1CbCPEX3d1I1w1fMICBCIBCBeBCCMJK1SICuCLb1UI1fN1V5DJBtBOKdDgCWBO1VHBCBsDBBCBJIKGG
    BCBlBCBGHK5yZ3bBPyN17n1y2HBFL3o50k1vN20f77t11L166B10xHfBKE1dBKGeCGK1SKKBHBVFT13M1n1x1XE1FHR1MFLC
    O118AI23qqJ171rEBHBCB5ftDREI7g44U2DFNDJHKCE90YuCXJ2M1I4mKnC1WI2IV1S2yUM1jJZ2f1hB1TBCCBCCCEBMBBBH
    B1NBECIBHBcBEBFBBDHB6cC5gC13aPFBP21Mf4RHBRCHBCBF4FtDOCKEC6IfR1GFB24AHBEBCBPB3pCQp1YEKEC15F1Q1Y1J
    3mEBbBCBBCBBKBEBBBBGBEBBBBBBDBCBBCBBBBBBBBBBCBBCEBHBEBEBBBKBRFDBFBR1AC5KsE1wMPCPBPBlK3S1EdNsEJHC
    OG2y18wFQDND2MM1lHMEBPME1EIKGoIeCC1a6cMOCFDFDHJdDLFGKKGIIHJ2rB1DlK19q821cg79tH4OC110qO143l59j10W
    28y94z13773R4g"

def isPrintable (c : Char) : Bool :=
  printableFlips.contains c.toNat

end Refinery.Text
