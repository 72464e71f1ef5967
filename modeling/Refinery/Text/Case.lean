import Refinery.Text.CharacterClass

namespace Refinery.Text

/-!
# Case maps

The case maps of Unicode 14.
-/

/-- Letters `first`, `first + step`, ..., `last`, all of which move by the same distance. -/
structure CaseRun where
  first : Nat
  last : Nat
  step : Nat
  distance : Int

namespace CaseRun

def image? (run : CaseRun) (code : Nat) : Option Nat :=
  if run.first ≤ code && code ≤ run.last && (code - run.first) % run.step == 0 then
    some (Int.toNat (Int.ofNat code + run.distance))
  else
    none

def back (run : CaseRun) : CaseRun :=
  let move (code : Nat) : Nat := Int.toNat (Int.ofNat code + run.distance)
  ⟨move run.first, move run.last, run.step, -run.distance⟩

def ofMove : Nat × Nat × Int -> CaseRun
  | (first, last, distance) => ⟨first, last, 1, distance⟩

end CaseRun

def casePairs : List (Nat × Nat) :=
  [ (256,302),(306,310),(313,327),(330,374),(377,381),(386,388),(391,391),(395,395),(401,401),
    (408,408),(416,420),(423,423),(428,428),(431,431),(435,437),(440,440),(444,444),(453,453),
    (456,456),(459,475),(478,494),(498,500),(504,542),(546,562),(571,571),(577,577),(582,590),
    (880,882),(886,886),(984,1006),(1015,1015),(1018,1018),(1120,1152),(1162,1214),(1217,1229),
    (1232,1326),(7680,7828),(7840,7934),(8579,8579),(11360,11360),(11367,11371),(11378,11378),
    (11381,11381),(11392,11490),(11499,11501),(11506,11506),(42560,42604),(42624,42650),
    (42786,42798),(42802,42862),(42873,42875),(42878,42886),(42891,42891),(42896,42898),
    (42902,42920),(42932,42946),(42951,42953),(42960,42960),(42966,42968),(42997,42997)]

def caseMoves : List (Nat × Nat × Int) :=
  [ (65,90,32),(192,214,32),(216,222,32),(376,376,-121),(385,385,210),(390,390,206),(393,394,205),
    (398,398,79),(399,399,202),(400,400,203),(403,403,205),(404,404,207),(406,406,211),
    (407,407,209),(412,412,211),(413,413,213),(415,415,214),(422,422,218),(425,425,218),
    (430,430,218),(433,434,217),(439,439,219),(452,452,2),(455,455,2),(458,458,2),(497,497,2),
    (502,502,-97),(503,503,-56),(544,544,-130),(570,570,10795),(573,573,-163),(574,574,10792),
    (579,579,-195),(580,580,69),(581,581,71),(895,895,116),(902,902,38),(904,906,37),(908,908,64),
    (910,911,63),(913,929,32),(931,939,32),(975,975,8),(1012,1012,-60),(1017,1017,-7),
    (1021,1023,-130),(1024,1039,80),(1040,1071,32),(1216,1216,15),(1329,1366,48),(4256,4293,7264),
    (4295,4295,7264),(4301,4301,7264),(5024,5103,38864),(5104,5109,8),(7312,7354,-3008),
    (7357,7359,-3008),(7838,7838,-7615),(7944,7951,-8),(7960,7965,-8),(7976,7983,-8),(7992,7999,-8),
    (8008,8013,-8),(8025,8025,-8),(8027,8027,-8),(8029,8029,-8),(8031,8031,-8),(8040,8047,-8),
    (8072,8079,-8),(8088,8095,-8),(8104,8111,-8),(8120,8121,-8),(8122,8123,-74),(8124,8124,-9),
    (8136,8139,-86),(8140,8140,-9),(8152,8153,-8),(8154,8155,-100),(8168,8169,-8),(8170,8171,-112),
    (8172,8172,-7),(8184,8185,-128),(8186,8187,-126),(8188,8188,-9),(8486,8486,-7517),
    (8490,8490,-8383),(8491,8491,-8262),(8498,8498,28),(8544,8559,16),(9398,9423,26),
    (11264,11311,48),(11362,11362,-10743),(11363,11363,-3814),(11364,11364,-10727),
    (11373,11373,-10780),(11374,11374,-10749),(11375,11375,-10783),(11376,11376,-10782),
    (11390,11391,-10815),(42877,42877,-35332),(42893,42893,-42280),(42922,42922,-42308),
    (42923,42923,-42319),(42924,42924,-42315),(42925,42925,-42305),(42926,42926,-42308),
    (42928,42928,-42258),(42929,42929,-42282),(42930,42930,-42261),(42931,42931,928),
    (42948,42948,-48),(42949,42949,-42307),(42950,42950,-35384),(65313,65338,32),(66560,66599,40),
    (66736,66771,40),(66928,66938,39),(66940,66954,39),(66956,66962,39),(66964,66965,39),
    (68736,68786,64),(71840,71871,32),(93760,93791,32),(125184,125217,34)]

def lowerRuns : List CaseRun :=
  casePairs.map (fun (first, last) => ⟨first, last, 2, 1⟩) ++ caseMoves.map CaseRun.ofMove

def upperMoves : List (Nat × Nat × Int) :=
  [ (181,181,743),(305,305,-232),(383,383,-300),(453,453,-1),(454,454,-2),(456,456,-1),(457,457,-2),
    (459,459,-1),(460,460,-2),(498,498,-1),(499,499,-2),(837,837,84),(962,962,-31),(976,976,-62),
    (977,977,-57),(981,981,-47),(982,982,-54),(1008,1008,-86),(1009,1009,-80),(1013,1013,-96),
    (7296,7296,-6254),(7297,7297,-6253),(7298,7298,-6244),(7299,7300,-6242),(7301,7301,-6243),
    (7302,7302,-6236),(7303,7303,-6181),(7304,7304,35266),(7835,7835,-59),(8126,8126,-7205)]

def upperRuns : List CaseRun :=
  upperMoves.map CaseRun.ofMove ++ lowerRuns.map CaseRun.back

def lowerExpansions : List (Nat × List Nat) :=
  [(304, [105, 775])]

def iotaMoves : List (Nat × Nat × Int) :=
  [(8064,8071,-120),(8072,8079,-128),(8080,8087,-104),(8088,8095,-112),(8096,8103,-56),(8104,8111,-64)]

def upperExpansions : List (Nat × List Nat) :=
  [(223,[83,83]),(329,[700,78]),(496,[74,780]),(912,[921,776,769]),
    (944,[933,776,769]),(1415,[1333,1362]),(7830,[72,817]),(7831,[84,776]),
    (7832,[87,778]),(7833,[89,778]),(7834,[65,702]),(8016,[933,787]),
    (8018,[933,787,768]),(8020,[933,787,769]),(8022,[933,787,834]),(8114,[8122,921]),
    (8115,[913,921]),(8116,[902,921]),(8118,[913,834]),(8119,[913,834,921]),
    (8124,[913,921]),(8130,[8138,921]),(8131,[919,921]),(8132,[905,921]),
    (8134,[919,834]),(8135,[919,834,921]),(8140,[919,921]),(8146,[921,776,768]),
    (8147,[921,776,769]),(8150,[921,834]),(8151,[921,776,834]),(8162,[933,776,768]),
    (8163,[933,776,769]),(8164,[929,787]),(8166,[933,834]),(8167,[933,776,834]),
    (8178,[8186,921]),(8179,[937,921]),(8180,[911,921]),(8182,[937,834]),
    (8183,[937,834,921]),(8188,[937,921]),(64256,[70,70]),(64257,[70,73]),
    (64258,[70,76]),(64259,[70,70,73]),(64260,[70,70,76]),(64261,[83,84]),
    (64262,[83,84]),(64275,[1348,1350]),(64276,[1348,1333]),(64277,[1348,1339]), (64278,[1358,1350]),(64279,[1348,1341])]

def titleMoves : List (Nat × Nat × Int) :=
  [ (452,452,1),(453,453,0),(454,454,-1),(455,455,1),(456,456,0),(457,457,-1),(458,458,1),
    (459,459,0),(460,460,-1),(497,497,1),(498,498,0),(499,499,-1),(4304,4346,0),(4349,4351,0),
    (8064,8071,8),(8072,8079,0),(8080,8087,8),(8088,8095,0),(8096,8103,8),(8104,8111,0),
    (8115,8115,9),(8124,8124,0),(8131,8131,9),(8140,8140,0),(8179,8179,9),(8188,8188,0)]

def titleExpansions : List (Nat × List Nat) :=
  [(223,[83,115]),(1415,[1333,1410]),(8114,[8122,837]),(8116,[902,837]),
    (8119,[913,834,837]),(8130,[8138,837]),(8132,[905,837]),(8135,[919,834,837]),
    (8178,[8186,837]),(8180,[911,837]),(8183,[937,834,837]),(64256,[70,102]),
    (64257,[70,105]),(64258,[70,108]),(64259,[70,102,105]),(64260,[70,102,108]),
    (64261,[83,116]),(64262,[83,116]),(64275,[1348,1398]),(64276,[1348,1381]),
    (64277,[1348,1387]),(64278,[1358,1398]),(64279,[1348,1389])]

/-!
## Which characters have case

The properties of Unicode 14 that say which characters have case and which are passed over beside a letter.
-/

def casedFlips : Flip :=
  .ofText "1NaGavBKBEBFXBfB3nBEE4ABkHCeF1sBqECCCEBBGBBDBBBUB1fB2jI3KBmJp54fmBBFBCrCD12w1iCG41uJHrCD1
    M3k1M5SCGCmCGCIBBBBBBBfC1BBHBBDDBHDECGENFDBH2MBNBQN1xBEBCKBBDFGBBBBBBEBGEBCEFFEBRgDC15l1A34u4VGE
    DCMmBBFB596CuSe2c1yDEB1HFCBBBFbCBD15prBNH1c390IHMF19taGa22t1c1skEk2MLBPBHBCBLBPBHBC8jBCDBqBJ23Zz
    Nz57Z1M420Q1M499k1hB1TBCCBCCCEBMBBBHB1NBECIBHBcBEBFBBDHB6cCZBZBfBZBfBZBfBZBfBZBI35YKBU48h1Q39AaG
    aGa"

def ignorableFlips : Flip :=
  .ofText "nBGBLBjBBB1TBEBBBEBCC9j3kECEBJCBB4rH3zBFBxtBBBCBCBBsBLGKLBBjBKVQB1xIBKBEhBBBeb1nL1GLEBCBY
    YrDsBHCGIp1G1DBBBEIEBDHKCNBPB1GBEEIBUCaBCC1FBECECCDDBeCDBLC1FBEFBCEBUCWGBB1GBCBBEIBHCLCeB1JBMByB
    DB1DBBDFDBEHCLCdB1GBCBGBFCUCcC1FCEEIBUCdB1UBHDBB1mBCHLJ1uBCJJBBG1WCbBBBBB1DOBFBCFLBkJB1yEBGBCCCZ
    CEDQENBCCGBPB1qB11kD18KDdCeCeC1MCBHIBCLDBFBtFzB1NCiB2ODECJBGD4LCCB1GBBHBBBBCIGKCBnBIfxEwBBFBBFBo
    JMCgECCBD1EBBCDBBD1GICC1MG1eDBNBHEBGBDCy1LNBi1x8dBBDLDNDNDNCMFICKBCBCFxFBKBBNBQNzh56rC2JD2VBPB1s
    gvB9BBkEDFFB1pG1pD546uB24CG5KB1uEBKBBcE1cCOi1aBXD1zDDCIBDBEBZCFB2vCaSNBmIZLuDwBCECCRBVC1OGCCCCMB
    IBjBLBzBBDCCFCBBbBOCFCBB1wFJD2RBCBEB389sB2rR11BQDBMQiBCB3NBHBGBLBjBBBvBtC1PBVD9tB4SB2tF19pGBqBJ1
    1KDBCFEoDEB3JC11BE7XC2xLxE2TB1CPpBCCKDxECCCBEBKByDkFBI1KBMC1AJKECB1rDCBBCGB3EBDIVC1FCDBlHDF3nICD
    BBXB1gGBBECBC4eEGCBCbC1hICBBC2CBBBCGBB1xDCEBF4zJBC4wCBBEB2oECCEBgKoGCEIBJGCDuNBC7qHBGBB1eWCHBCBC
    2SGDBBCBHBB1UCDBBB6jC104bJ269TF1HHJE19vB1LR1MCBC315PEBHBC62GCBE90UuCX10YDJQCHeE2sD38D1DEyIBOBWFB
    P26IHBRCHBCBF5BO7EB1JE28wH2FI52fF15182pBe1s2Y4g"

def loneCapitalFlips : Flip :=
  .ofText "18qD143hBEBDDCDCBDFGBDBDCCCBBKCFB2140KaaaaaaBBCCBCCCEBIaaaCBECIBHbCBEBFBBDHbaaaaaaaaaaaeZ
    hZhZhZhZhB125BaGaGa"

def titleLetters : List Nat :=
  [ 453,456,459,498,8072,8073,8074,8075,8076,8077,8078,8079,8088,8089,8090,8091,
    8092,8093,8094,8095,8104,8105,8106,8107,8108,8109,8110,8111,8124,8140,8188]

def isCased (c : Char) : Bool :=
  casedFlips.contains c.toNat

def isCaseIgnorable (c : Char) : Bool :=
  ignorableFlips.contains c.toNat

def isTitleForm (c : Char) : Bool :=
  titleLetters.contains c.toNat

/-!
## Changing case

The full case maps: a character may become several.
-/

def mapCode (expansions : List (Nat × List Nat)) (runs : List CaseRun) (c : Char) : List Char :=
  match expansions.lookup c.toNat with
  | some codes => codes.map Char.ofNat
  | none =>
    match runs.findSome? (·.image? c.toNat) with
    | some code => [Char.ofNat code]
    | none => [c]

def movedCode? (moves : List (Nat × Nat × Int)) (c : Char) : Option Char :=
  (moves.findSome? fun move => (CaseRun.ofMove move).image? c.toNat).map Char.ofNat

def upperChar (c : Char) : List Char :=
  if c.toNat < 128 then [c.toUpper]
  else
    match movedCode? iotaMoves c with
    | some letter => [letter, Char.ofNat 0x399]
    | none => mapCode upperExpansions upperRuns c

def lowerChar (c : Char) : List Char :=
  if c.toNat < 128 then [c.toLower] else mapCode lowerExpansions lowerRuns c

def titleChar (c : Char) : List Char :=
  match movedCode? titleMoves c, titleExpansions.lookup c.toNat with
  | some letter, _ => [letter]
  | none, some codes => codes.map Char.ofNat
  | none, none => upperChar c

def meetsCase (cs : List Char) : Bool :=
  (cs.dropWhile isCaseIgnorable).head?.any isCased

def lowerAt (before : List Char) (c : Char) (after : List Char) : List Char :=
  if c.toNat = 0x3A3 then
    [Char.ofNat (if meetsCase before && !meetsCase after then 0x3C2 else 0x3C3)]
  else lowerChar c

def lowerFrom : (before : List Char) -> List Char -> List Char
  | _, [] => []
  | before, c :: rest => lowerAt before c rest ++ lowerFrom (c :: before) rest

def lower (s : String) : String :=
  if s.toList.all (fun c => c.toNat < 128) then s.map Char.toLower
  else String.ofList (lowerFrom [] s.toList)

def upper (s : String) : String :=
  String.ofList (s.toList.flatMap upperChar)

def capitalize (s : String) : String :=
  match s.toList with
  | [] => ""
  | c :: rest => String.ofList (titleChar c ++ lowerFrom [c] rest)

/-- Title forms at the start of every run of characters with case.  `before` is in reverse. -/
def titleFrom : (before : List Char) -> List Char -> List Char
  | _, [] => []
  | before, c :: rest =>
    (if before.head?.any isCased then lowerAt before c rest else titleChar c) ++ titleFrom (c :: before) rest

def title (s : String) : String :=
  String.ofList (titleFrom [] s.toList)

def isUpperChar (c : Char) : Bool :=
  isCased c && !isTitleForm c && (lowerChar c != [c] || loneCapitalFlips.contains c.toNat)

def isLowerChar (c : Char) : Bool :=
  isCased c && !isTitleForm c && !isUpperChar c

def isLower (s : String) : Bool :=
  s.toList.any isLowerChar && s.toList.all fun c => !isUpperChar c && !isTitleForm c

def isUpper (s : String) : Bool :=
  s.toList.any isUpperChar && s.toList.all fun c => !isLowerChar c && !isTitleForm c

/-- Whether capitals and title forms stand exactly at the starts of runs; `inRun` tells whether a run goes on.
-/
def isTitleFrom : (inRun : Bool) -> List Char -> Bool
  | _, [] => true
  | inRun, c :: rest =>
    if isUpperChar c || isTitleForm c then !inRun && isTitleFrom true rest
    else if isLowerChar c then inRun && isTitleFrom true rest
    else isTitleFrom false rest

def isTitle (s : String) : Bool :=
  s.toList.any isCased && isTitleFrom false s.toList

def swapFrom : (before : List Char) -> List Char -> List Char
  | _, [] => []
  | before, c :: rest =>
    (if isUpperChar c then lowerAt before c rest else if isLowerChar c then upperChar c
      else [c]) ++ swapFrom (c :: before) rest

def swapCase (s : String) : String :=
  String.ofList (swapFrom [] s.toList)

def foldChar (c : Char) : List Char :=
  let code := c.toNat
  if code = 0x131 then [c]
  else if code = 0x1E9E then ['s', 's']
  else if (0x13A0 ≤ code && code ≤ 0x13FD) || (0xAB70 ≤ code && code ≤ 0xABBF) then upperChar c
  else (upperChar c).flatMap lowerChar

def foldCase (s : String) : String :=
  String.ofList (s.toList.flatMap foldChar)

end Refinery.Text
