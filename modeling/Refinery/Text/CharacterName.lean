import Refinery.Text.Case
import Refinery.Text.Search

namespace Refinery.Text

/-!
# Characters by name

The character that a name of the Unicode standard stands for.
-/

/-- Letters of a script in runs: the code of the first capital letter, the distances to the next one and to
the small letter, and the names.  A place without a letter has no name. -/
structure Alphabet where
  script : String
  first : Nat
  step : Nat
  small : Nat
  names : String

def alphabets : List Alphabet :=
  [⟨"LATIN", 0x41, 1, 32, "A;B;C;D;E;F;G;H;I;J;K;L;M;N;O;P;Q;R;S;T;U;V;W;X;Y;Z"⟩, ⟨"LATIN", 0xC0, 1, 32,
      "A WITH GRAVE;A WITH ACUTE;A WITH CIRCUMFLEX;A WITH TILDE;A WITH DIAERESIS;" ++
      "A WITH RING ABOVE;AE;C WITH CEDILLA;E WITH GRAVE;E WITH ACUTE;E WITH CIRCUMFLEX;" ++
      "E WITH DIAERESIS;I WITH GRAVE;I WITH ACUTE;I WITH CIRCUMFLEX;I WITH DIAERESIS;ETH;" ++
      "N WITH TILDE;O WITH GRAVE;O WITH ACUTE;O WITH CIRCUMFLEX;O WITH TILDE;O WITH DIAERESIS;;" ++
      "O WITH STROKE;U WITH GRAVE;U WITH ACUTE;U WITH CIRCUMFLEX;U WITH DIAERESIS;Y WITH ACUTE;" ++ "THORN"⟩,
    ⟨"LATIN", 0x100, 2, 1, "A WITH MACRON;A WITH BREVE;A WITH OGONEK;C WITH ACUTE;C WITH CIRCUMFLEX;" ++
      "C WITH DOT ABOVE;C WITH CARON;D WITH CARON;D WITH STROKE;E WITH MACRON;E WITH BREVE;" ++
      "E WITH DOT ABOVE;E WITH OGONEK;E WITH CARON;G WITH CIRCUMFLEX;G WITH BREVE;" ++
      "G WITH DOT ABOVE;G WITH CEDILLA;H WITH CIRCUMFLEX;H WITH STROKE;I WITH TILDE;" ++
      "I WITH MACRON;I WITH BREVE;I WITH OGONEK"⟩, ⟨"LATIN", 0x134, 2, 1, "J WITH CIRCUMFLEX;K WITH CEDILLA"⟩,
    ⟨"LATIN", 0x139, 2, 1, "L WITH ACUTE;L WITH CEDILLA;L WITH CARON;L WITH MIDDLE DOT;L WITH STROKE;N WITH ACUTE;" ++
      "N WITH CEDILLA;N WITH CARON"⟩, ⟨"LATIN", 0x14A, 2, 1,
      "ENG;O WITH MACRON;O WITH BREVE;O WITH DOUBLE ACUTE;;R WITH ACUTE;R WITH CEDILLA;" ++
      "R WITH CARON;S WITH ACUTE;S WITH CIRCUMFLEX;S WITH CEDILLA;S WITH CARON;T WITH CEDILLA;" ++
      "T WITH CARON;T WITH STROKE;U WITH TILDE;U WITH MACRON;U WITH BREVE;U WITH RING ABOVE;" ++
      "U WITH DOUBLE ACUTE;U WITH OGONEK;W WITH CIRCUMFLEX;Y WITH CIRCUMFLEX"⟩, ⟨"LATIN", 0x179, 2, 1,
      "Z WITH ACUTE;Z WITH DOT ABOVE;Z WITH CARON"⟩, ⟨"GREEK", 0x391, 1, 32,
      "ALPHA;BETA;GAMMA;DELTA;EPSILON;ZETA;ETA;THETA;IOTA;KAPPA;LAMDA;MU;NU;XI;OMICRON;PI;RHO;;" ++
      "SIGMA;TAU;UPSILON;PHI;CHI;PSI;OMEGA"⟩, ⟨"CYRILLIC", 0x400, 1, 80,
      "IE WITH GRAVE;IO;DJE;GJE;UKRAINIAN IE;DZE;BYELORUSSIAN-UKRAINIAN I;YI;JE;LJE;NJE;TSHE;" ++
      "KJE;I WITH GRAVE;SHORT U;DZHE"⟩, ⟨"CYRILLIC", 0x410, 1, 32,
      "A;BE;VE;GHE;DE;IE;ZHE;ZE;I;SHORT I;KA;EL;EM;EN;O;PE;ER;ES;TE;U;EF;HA;TSE;CHE;SHA;SHCHA;" ++
      "HARD SIGN;YERU;SOFT SIGN;E;YU;YA"⟩]

def signNames : List (Nat × String) :=
  [(0x20, "SPACE;EXCLAMATION MARK;QUOTATION MARK;NUMBER SIGN;DOLLAR SIGN;PERCENT SIGN;" ++
    "AMPERSAND;APOSTROPHE;LEFT PARENTHESIS;RIGHT PARENTHESIS;ASTERISK;PLUS SIGN;COMMA;" ++
    "HYPHEN-MINUS;FULL STOP;SOLIDUS;DIGIT ZERO;DIGIT ONE;DIGIT TWO;DIGIT THREE;DIGIT FOUR;" ++
    "DIGIT FIVE;DIGIT SIX;DIGIT SEVEN;DIGIT EIGHT;DIGIT NINE;COLON;SEMICOLON;LESS-THAN SIGN;" ++
    "EQUALS SIGN;GREATER-THAN SIGN;QUESTION MARK;COMMERCIAL AT"),
    (0x5B, "LEFT SQUARE BRACKET;REVERSE SOLIDUS;RIGHT SQUARE BRACKET;CIRCUMFLEX ACCENT;" ++ "LOW LINE;GRAVE ACCENT"),
    (0x7B, "LEFT CURLY BRACKET;VERTICAL LINE;RIGHT CURLY BRACKET;TILDE"),
    (0xA0, "NO-BREAK SPACE;INVERTED EXCLAMATION MARK;CENT SIGN;POUND SIGN;CURRENCY SIGN;" ++
    "YEN SIGN;BROKEN BAR;SECTION SIGN;DIAERESIS;COPYRIGHT SIGN;FEMININE ORDINAL INDICATOR;" ++
    "LEFT-POINTING DOUBLE ANGLE QUOTATION MARK;NOT SIGN;SOFT HYPHEN;REGISTERED SIGN;MACRON;" ++
    "DEGREE SIGN;PLUS-MINUS SIGN;SUPERSCRIPT TWO;SUPERSCRIPT THREE;ACUTE ACCENT;MICRO SIGN;" ++
    "PILCROW SIGN;MIDDLE DOT;CEDILLA;SUPERSCRIPT ONE;MASCULINE ORDINAL INDICATOR;" ++
    "RIGHT-POINTING DOUBLE ANGLE QUOTATION MARK;VULGAR FRACTION ONE QUARTER;" ++
    "VULGAR FRACTION ONE HALF;VULGAR FRACTION THREE QUARTERS;INVERTED QUESTION MARK"),
    (0x2002, "EN SPACE;EM SPACE;THREE-PER-EM SPACE;FOUR-PER-EM SPACE;SIX-PER-EM SPACE;" ++
    "FIGURE SPACE;PUNCTUATION SPACE;THIN SPACE;HAIR SPACE;ZERO WIDTH SPACE;" ++ "ZERO WIDTH NON-JOINER;ZERO WIDTH JOINER"),
    (0x2010, "HYPHEN;NON-BREAKING HYPHEN;FIGURE DASH;EN DASH;EM DASH;HORIZONTAL BAR;" ++
    "DOUBLE VERTICAL LINE;DOUBLE LOW LINE;LEFT SINGLE QUOTATION MARK;" ++
    "RIGHT SINGLE QUOTATION MARK;SINGLE LOW-9 QUOTATION MARK;" ++
    "SINGLE HIGH-REVERSED-9 QUOTATION MARK;LEFT DOUBLE QUOTATION MARK;" ++
    "RIGHT DOUBLE QUOTATION MARK;DOUBLE LOW-9 QUOTATION MARK;" ++
    "DOUBLE HIGH-REVERSED-9 QUOTATION MARK;DAGGER;DOUBLE DAGGER;BULLET;TRIANGULAR BULLET;" ++
    "ONE DOT LEADER;TWO DOT LEADER;HORIZONTAL ELLIPSIS;HYPHENATION POINT"),
    (0xD7, "MULTIPLICATION SIGN"), (0xDF, "LATIN SMALL LETTER SHARP S"), (0xF7, "DIVISION SIGN"),
    (0xFF, "LATIN SMALL LETTER Y WITH DIAERESIS"), (0x130, "LATIN CAPITAL LETTER I WITH DOT ABOVE;LATIN SMALL LETTER DOTLESS I"),
    (0x152, "LATIN CAPITAL LIGATURE OE;LATIN SMALL LIGATURE OE"),
    (0x178, "LATIN CAPITAL LETTER Y WITH DIAERESIS"), (0x3C2, "GREEK SMALL LETTER FINAL SIGMA"),
    (0x2030, "PER MILLE SIGN"), (0x2032, "PRIME;DOUBLE PRIME"),
    (0x2039, "SINGLE LEFT-POINTING ANGLE QUOTATION MARK;SINGLE RIGHT-POINTING ANGLE QUOTATION MARK"),
    (0x20AC, "EURO SIGN"), (0x2116, "NUMERO SIGN"), (0x2122, "TRADE MARK SIGN"), (0x2126, "OHM SIGN"),
    (0x2190, "LEFTWARDS ARROW;UPWARDS ARROW;RIGHTWARDS ARROW;DOWNWARDS ARROW"), (0x2200, "FOR ALL"),
    (0x2203, "THERE EXISTS"), (0x2208, "ELEMENT OF"), (0x2211, "N-ARY SUMMATION;MINUS SIGN"),
    (0x221A, "SQUARE ROOT"), (0x221E, "INFINITY"), (0x2248, "ALMOST EQUAL TO"), (0x2260, "NOT EQUAL TO"),
    (0x2264, "LESS-THAN OR EQUAL TO;GREATER-THAN OR EQUAL TO"), (0x2500, "BOX DRAWINGS LIGHT HORIZONTAL"),
    (0x25CF, "BLACK CIRCLE"), (0x2603, "SNOWMAN"), (0x2605, "BLACK STAR;WHITE STAR"),
    (0x2620, "SKULL AND CROSSBONES"), (0x263A, "WHITE SMILING FACE"), (0x2660, "BLACK SPADE SUIT"),
    (0x2663, "BLACK CLUB SUIT"), (0x2665, "BLACK HEART SUIT;BLACK DIAMOND SUIT"), (0x266A, "EIGHTH NOTE"),
    (0x2713, "CHECK MARK;HEAVY CHECK MARK"), (0x2717, "BALLOT X"), (0x2764, "HEAVY BLACK HEART"),
    (0x1F4A9, "PILE OF POO"), (0x1F600, "GRINNING FACE"), (0x1F680, "ROCKET")]

/-! ## Reading -/

def controlNames : List (String × Nat) :=
  [("NULL", 0), ("BACKSPACE", 8), ("CHARACTER TABULATION", 9), ("TAB", 9), ("LINE FEED", 10),
    ("LF", 10), ("NEW LINE", 10), ("FORM FEED", 12), ("CARRIAGE RETURN", 13), ("CR", 13),
    ("ESCAPE", 27), ("DELETE", 127), ("NEXT LINE", 133), ("NBSP", 160), ("ZWSP", 0x200B),
    ("ZWNJ", 0x200C), ("ZWJ", 0x200D), ("BYTE ORDER MARK", 0xFEFF), ("BOM", 0xFEFF),
    ("ZERO WIDTH NO-BREAK SPACE", 0xFEFF), ("REPLACEMENT CHARACTER", 0xFFFD)]

def placeOfName? (name names : String) : Option Nat :=
  (names.splitOn ";").findIdx? (· == name)

def Alphabet.code? (alphabet : Alphabet) (name : String) : Option Nat := do
  let capital := alphabet.script ++ " CAPITAL LETTER "
  let small := alphabet.script ++ " SMALL LETTER "
  let (start, shift) <-
    if startsWith name capital then some (capital, 0)
    else if startsWith name small then some (small, alphabet.small)
    else none
  let letter := drop start.length name
  if letter = "" then none
  else return alphabet.first + alphabet.step * (<- placeOfName? letter alphabet.names) + shift

def ideograph? (name : String) : Option Nat := do
  let start := "CJK UNIFIED IDEOGRAPH-"
  if !startsWith name start then none
  else
    let digits := (drop start.length name).toList
    if digits.length < 4 || 5 < digits.length then none
    else
      let code <- digits.foldlM (fun code c =>
        if c.isDigit then some (16 * code + (c.toNat - 48))
        else if 'A' ≤ c && c ≤ 'F' then some (16 * code + (c.toNat - 55))
        else none) 0
      if (0x4E00 ≤ code && code ≤ 0x9FFC) || (0x3400 ≤ code && code ≤ 0x4DBF) || (0x20000 ≤ code && code ≤ 0x2A6DD) then some code
      else none

def codeOfName? (name : String) : Option Nat :=
  let name := upper name
  if name = "" then none
  else
    match controlNames.lookup name with
    | some code => some code
    | none =>
      let sign := signNames.findSome? fun (first, names) => (placeOfName? name names).map (first + ·)
      (sign.or (alphabets.findSome? (·.code? name))).or (ideograph? name)

end Refinery.Text
