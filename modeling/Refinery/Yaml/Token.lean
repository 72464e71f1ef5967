import Refinery.Json

namespace Refinery.Yaml

/-!
# Tokens of YAML

The text is cut into tokens on demand.
-/

inductive Token where
  | directive (name : String) (values : List String)
  | documentStart
  | documentEnd
  | streamEnd
  | blockSequenceStart
  | blockMappingStart
  | blockEnd
  | flowSequenceStart
  | flowSequenceEnd
  | flowMappingStart
  | flowMappingEnd
  | blockEntry
  | flowEntry
  | key
  | value
  | reference (name : String)
  | anchor (name : String)
  | tag (handle : Option String) (suffix : String)
  | scalar (value : String) (plain : Bool)
  deriving DecidableEq

structure KeySpot where
  number : Nat
  required : Bool
  index : Nat
  line : Nat
  column : Nat
  deriving DecidableEq

structure Reader where
  rest : List Char
  index : Nat := 0
  line : Nat := 0
  column : Nat := 0
  finished : Bool := false
  flow : Nat := 0
  queue : List Token := []
  taken : Nat := 0
  /-- The column of the current block, if there is one, and those of the blocks around it. -/
  indent : Int := -1
  indents : List Int := []
  keyAllowed : Bool := true
  spots : List (Nat × KeySpot) := []

abbrev Read := StateT Reader (Except Failure)

namespace Read

def refuse {α : Type} : Read α :=
  throw (.badYaml .tokens)

def peek (n : Nat := 0) : Read Char := do
  return ((<- get).rest[n]?).getD '\x00'

def isBreak (c : Char) : Bool :=
  c == '\r' || c == '\n' || c == '\x85' || c == '\u2028' || c == '\u2029'

def isBreakOrEnd (c : Char) : Bool :=
  c == '\x00' || isBreak c

def isGap (c : Char) : Bool :=
  c == ' ' || isBreakOrEnd c

def isSpace (c : Char) : Bool :=
  c == '\t' || isGap c

def isBlank (c : Char) : Bool :=
  c == ' ' || c == '\t'

def isWordChar (c : Char) : Bool :=
  c.isAlphanum || c == '-' || c == '_'

def step (r : Reader) : Reader :=
  match r.rest with
  | [] => { r with index := r.index + 1 }
  | c :: rest =>
    if c == '\n' || c == '\x85' || c == '\u2028' || c == '\u2029' || (c == '\r' && rest.head? != some '\n') then
      { r with rest, index := r.index + 1, line := r.line + 1, column := 0 }
    else
      { r with
        rest, index := r.index + 1, column := if c == '\ufeff' then r.column else r.column + 1 }

def forward : (n : Nat := 1) -> Read Unit
  | 0 => pure ()
  | n + 1 => do
    modify step
    forward n

def expect (c : Char) : Read Unit := do
  if (<- peek) != c then refuse
  forward

def expectGap : Read Unit := do
  if !isGap (<- peek) then refuse

def takeWhile (test : Char -> Bool) : Read (List Char) := do
  let found := (<- get).rest.takeWhile test
  forward found.length
  return found

def skipBlanks : Read Unit := do
  let _ <- takeWhile (· == ' ')

def lineBreak : Read (List Char) := do
  let c <- peek
  if c == '\r' && (<- peek 1) == '\n' then
    forward 2
    return ['\n']
  if c == '\r' || c == '\n' || c == '\x85' then
    forward
    return ['\n']
  if c == '\u2028' || c == '\u2029' then
    forward
    return [c]
  return []

def atDocumentMark : Read Bool := do
  let start := (<- get).rest.take 3
  return (start == "---".toList || start == "...".toList) && isSpace (<- peek 3)

def skipComment : Read Unit := do
  if (<- peek) == '#' then
    let _ <- takeWhile fun c => !isBreakOrEnd c

/-! ## Keys and indentation -/

def dropStaleSpots : Read Unit := do
  let r <- get
  let stale := fun (spot : KeySpot) => spot.line ≠ r.line || r.index - spot.index > 1024
  if r.spots.any fun (_, spot) => stale spot && spot.required then refuse
  set { r with spots := r.spots.filter fun (_, spot) => !stale spot }

def dropSpot : Read Unit := do
  let r <- get
  if (r.spots.lookup r.flow).any (·.required) then refuse
  set { r with spots := r.spots.filter fun (level, _) => level ≠ r.flow }

def saveSpot : Read Unit := do
  let r <- get
  if r.keyAllowed then
    dropSpot
    let spot : KeySpot :=
      { number := r.taken + r.queue.length
        required := r.flow = 0 && r.indent = (r.column : Int)
        index := r.index, line := r.line, column := r.column }
    modify fun r => { r with spots := r.spots ++ [(r.flow, spot)] }

def push (token : Token) : Read Unit :=
  modify fun r => { r with queue := r.queue ++ [token] }

def allowKey (allowed : Bool) : Read Unit :=
  modify fun r => { r with keyAllowed := allowed }

def unwind (column : Int) : Read Unit := do
  let r <- get
  if r.flow = 0 then
    let closed := (r.indent :: r.indents).takeWhile (column < ·)
    let left := (r.indent :: r.indents).drop closed.length
    set { r with
      indent := left.headD (-1), indents := left.drop 1
      queue := r.queue ++ closed.map fun _ => Token.blockEnd }

def indentTo (column : Nat) : Read Bool := do
  let r <- get
  if r.indent < (column : Int) then
    set { r with indent := column, indents := r.indent :: r.indents }
    return true
  return false

/-! ## Scalars and names -/

def directiveNumber : Read String := do
  let digits <- takeWhile Char.isDigit
  if digits.isEmpty then refuse
  return String.ofList digits

def hexValue (digits : List Char) : Option Nat :=
  digits.foldlM (fun value c => (Json.hexDigit? c).map (16 * value + ·)) 0

def uriEscapes : (fuel : Nat) -> (done : List UInt8) -> Read (List UInt8)
  | 0, done => pure done
  | fuel + 1, done => do
    if (<- peek) != '%' then return done
    let digits := ((<- get).rest.drop 1).take 2
    let some code := hexValue digits | refuse
    if digits.length < 2 then refuse
    forward 3
    uriEscapes fuel (done ++ [code.toUInt8])

def isUriChar (c : Char) : Bool :=
  c.isAlphanum || "-;/?:@&=+$,_.!~*'()[]".toList.contains c

def uriParts : (fuel : Nat) -> (done : List Char) -> Read (List Char)
  | 0, done => pure done
  | fuel + 1, done => do
    let plain <- takeWhile isUriChar
    if (<- peek) != '%' then return done ++ plain
    let bytes <- uriEscapes fuel []
    let some text := String.fromUTF8? ⟨bytes.toArray⟩ | refuse
    uriParts fuel (done ++ plain ++ text.toList)

def uri : Read String := do
  let found <- uriParts ((<- get).rest.length + 1) []
  if found.isEmpty then refuse
  return String.ofList found

def tagHandle : Read String := do
  expect '!'
  if (<- peek) == ' ' then return "!"
  let word <- takeWhile isWordChar
  if (<- peek) != '!' then
    if word.isEmpty then return "!" else refuse
  forward
  return "!" ++ String.ofList word ++ "!"

def ignoredLine : Read Unit := do
  skipBlanks
  skipComment
  if !isBreakOrEnd (<- peek) then refuse
  let _ <- lineBreak

def directive : Read Token := do
  forward
  let name <- takeWhile isWordChar
  if name.isEmpty || !isGap (<- peek) then refuse
  let name := String.ofList name
  let values <-
    if name = "YAML" then do
      skipBlanks
      let major <- directiveNumber
      expect '.'
      let minor <- directiveNumber
      expectGap
      pure [major, minor]
    else if name = "TAG" then do
      skipBlanks
      let handle <- tagHandle
      if (<- peek) != ' ' then refuse
      skipBlanks
      let start <- uri
      expectGap
      pure [handle, start]
    else do
      let _ <- takeWhile fun c => !isBreakOrEnd c
      pure []
  ignoredLine
  return .directive name values

def anchorName : Read String := do
  forward
  let name <- takeWhile isWordChar
  if name.isEmpty then refuse
  let c <- peek
  if !(isSpace c || "?:,]\x7d%@`".toList.contains c) then refuse
  return String.ofList name

def tag : Read Token := do
  let second <- peek 1
  if second == '<' then
    forward 2
    let suffix <- uri
    expect '>'
    expectGap
    return .tag none suffix
  if isSpace second then
    forward
    expectGap
    return .tag none "!"
  let word := ((<- get).rest.drop 1).takeWhile fun c => !isGap c
  let handle <- if word.contains '!' then tagHandle else do
    forward
    pure "!"
  let suffix <- uri
  expectGap
  return .tag (some handle) suffix

def blockIndentation : (fuel : Nat) -> (done : List Char) -> (column : Nat) -> Read (List Char × Nat)
  | 0, done, column => pure (done, column)
  | fuel + 1, done, column => do
    let c <- peek
    if c == ' ' then
      forward
      blockIndentation fuel done (max column (<- get).column)
    else if isBreak c then
      blockIndentation fuel (done ++ (<- lineBreak)) column
    else return (done, column)

def indentUpTo (column : Nat) : Read Unit := do
  let r <- get
  forward ((r.rest.take (column - r.column)).takeWhile (· == ' ')).length

def blockBreaks (column : Nat) : (fuel : Nat) -> (done : List Char) -> Read (List Char)
  | 0, done => pure done
  | fuel + 1, done => do
    indentUpTo column
    if isBreak (<- peek) then blockBreaks column fuel (done ++ (<- lineBreak)) else return done

def blockLines (folded : Bool) (column : Nat) : (fuel : Nat) -> (done breaks : List Char) ->
    Read (List Char × List Char × List Char)
  | 0, done, breaks => pure (done, [], breaks)
  | fuel + 1, done, breaks => do
    let indented <- peek
    let line <- takeWhile fun c => !isBreakOrEnd c
    let ending <- lineBreak
    let next <- blockBreaks column (fuel + 1) []
    let done := done ++ breaks ++ line
    if (<- get).column = column && (<- peek) != '\x00' then
      let c <- peek
      if folded && ending == ['\n'] && !isBlank indented && !isBlank c then
        blockLines folded column fuel (if next.isEmpty then done ++ [' '] else done) next
      else
        blockLines folded column fuel (done ++ ending) next
    else
      return (done, ending, next)

def blockSigns : Read (Option Bool × Option Nat) := do
  let keep? : Read (Option Bool) := do
    let c <- peek
    if c == '+' || c == '-' then
      forward
      return some (c == '+')
    return none
  let depth? : Read (Option Nat) := do
    let c <- peek
    if c.isDigit then
      if c == '0' then refuse
      forward
      return some (c.toNat - '0'.toNat)
    return none
  let keep <- keep?
  let depth <- depth?
  let keep <- if keep.isNone && depth.isSome then keep? else pure keep
  expectGap
  return (keep, depth)

def blockScalar (folded : Bool) : Read Token := do
  forward
  let (keep, depth) <- blockSigns
  ignoredLine
  let fuel := (<- get).rest.length + 1
  let least := (max ((<- get).indent + 1) 1).toNat
  let (breaks, column) <- match depth with
    | none => do
      let (breaks, column) <- blockIndentation fuel [] 0
      pure (breaks, max least column)
    | some depth => do
      let column := least + depth - 1
      let breaks <- blockBreaks column fuel []
      pure (breaks, column)
  let (text, ending, breaks) <-
    if (<- get).column = column && (<- peek) != '\x00' then
      blockLines folded column fuel [] breaks
    else pure ([], [], breaks)
  let text := if keep == some false then text else text ++ ending
  let text := if keep == some true then text ++ breaks else text
  return .scalar (String.ofList text) false

def quotedBreaks : (fuel : Nat) -> (done : List Char) -> Read (List Char)
  | 0, done => pure done
  | fuel + 1, done => do
    if <- atDocumentMark then refuse
    let _ <- takeWhile isBlank
    if isBreak (<- peek) then quotedBreaks fuel (done ++ (<- lineBreak)) else return done

def escaped? (c : Char) : Option Char :=
  [('0', '\x00'), ('a', '\x07'), ('b', '\x08'), ('t', '\t'), ('\t', '\t'), ('n', '\n'),
    ('v', '\x0b'), ('f', '\x0c'), ('r', '\r'), ('e', '\x1b'), (' ', ' '), ('"', '"'),
    ('\\', '\\'), ('/', '/'), ('N', '\x85'), ('_', '\xa0'), ('L', '\u2028'),
    ('P', '\u2029')].lookup c

def codeWidth? (c : Char) : Option Nat :=
  [('x', 2), ('u', 4), ('U', 8)].lookup c

def quotedWord (double : Bool) : (fuel : Nat) -> (done : List Char) -> Read (List Char)
  | 0, done => pure done
  | fuel + 1, done => do
    let plain <- takeWhile fun c => !(isSpace c || c == '\'' || c == '"' || c == '\\')
    let more (cs : List Char) : Read (List Char) := quotedWord double fuel (done ++ plain ++ cs)
    let c <- peek
    if !double && c == '\'' && (<- peek 1) == '\'' then
      forward 2
      more ['\'']
    else if (double && c == '\'') || (!double && (c == '"' || c == '\\')) then
      forward
      more [c]
    else if double && c == '\\' then
      forward
      let c <- peek
      match escaped? c, codeWidth? c with
      | some plain, _ =>
        forward
        more [plain]
      | none, some width =>
        forward
        let digits := (<- get).rest.take width
        let some code := hexValue digits | refuse
        if digits.length < width then refuse
        if code > 0x10FFFF then throw .badValue
        forward width
        more [Char.ofNat code]
      | none, none =>
        if !isBreak c then refuse
        let _ <- lineBreak
        more (<- quotedBreaks fuel [])
    else return done ++ plain

def folded (ending breaks : List Char) : List Char :=
  (if ending != ['\n'] then ending else if breaks.isEmpty then [' '] else []) ++ breaks

def quotedGap : Read (List Char) := do
  let blanks <- takeWhile isBlank
  let c <- peek
  if c == '\x00' then refuse
  if isBreak c then
    let ending <- lineBreak
    let breaks <- quotedBreaks ((<- get).rest.length + 1) []
    return folded ending breaks
  return blanks

def quotedText (double : Bool) (quote : Char) : (fuel : Nat) -> (done : List Char) -> Read (List Char)
  | 0, done => pure done
  | fuel + 1, done => do
    if (<- peek) == quote then return done
    let gap <- quotedGap
    let word <- quotedWord double ((<- get).rest.length + 1) []
    quotedText double quote fuel (done ++ gap ++ word)

def quotedScalar (double : Bool) : Read Token := do
  forward
  let fuel := (<- get).rest.length + 2
  let first <- quotedWord double fuel []
  let text <- quotedText double (if double then '"' else '\'') fuel first
  forward
  return .scalar (String.ofList text) false

def plainBreaks : (fuel : Nat) -> (done : List Char) -> Read (Option (List Char))
  | 0, done => pure (some done)
  | fuel + 1, done => do
    let c <- peek
    if c == ' ' then
      forward
      plainBreaks fuel done
    else if isBreak c then
      let ending <- lineBreak
      if <- atDocumentMark then return none
      plainBreaks fuel (done ++ ending)
    else return some done

def plainGap : Read (List Char) := do
  let blanks <- takeWhile (· == ' ')
  if isBreak (<- peek) then
    let ending <- lineBreak
    allowKey true
    if <- atDocumentMark then return []
    return ((<- plainBreaks ((<- get).rest.length + 1) []).map (folded ending)).getD []
  return blanks

def plainWord (flow : Bool) : List Char -> List Char
  | [] => []
  | c :: rest =>
    let next := rest.headD '\x00'
    if isSpace c || (c == ':' && (isSpace next || (flow && ",[]\x7b\x7d".toList.contains next))) ||
        (flow && ",?[]\x7b\x7d".toList.contains c) then []
    else c :: plainWord flow rest

def plainText (least : Int) : (fuel : Nat) -> (done gap : List Char) -> Read (List Char)
  | 0, done, _ => pure done
  | fuel + 1, done, gap => do
    if (<- peek) == '#' then return done
    let flow := (<- get).flow ≠ 0
    let word := plainWord flow (<- get).rest
    if word.isEmpty then return done
    allowKey false
    forward word.length
    let next <- plainGap
    let done := done ++ gap ++ word
    if next.isEmpty || (<- peek) == '#' || (!flow && ((<- get).column : Int) < least) then
      return done
    plainText least fuel done next

def plainScalar : Read Token := do
  let r <- get
  let text <- plainText (r.indent + 1) (r.rest.length + 1) [] []
  return .scalar (String.ofList text) true

/-! ## The next tokens -/

def toNextToken : (fuel : Nat) -> Read Unit
  | 0 => pure ()
  | fuel + 1 => do
    skipBlanks
    skipComment
    if !(<- lineBreak).isEmpty then
      if (<- get).flow = 0 then allowKey true
      toNextToken fuel

def openFlow (token : Token) : Read Unit := do
  saveSpot
  modify fun r => { r with flow := r.flow + 1, keyAllowed := true }
  forward
  push token

def closeFlow (token : Token) : Read Unit := do
  dropSpot
  modify fun r => { r with flow := r.flow - 1, keyAllowed := false }
  forward
  push token

def pushSign (token : Token) (keyAllowed : Bool) : Read Unit := do
  allowKey keyAllowed
  dropSpot
  forward
  push token

def pushAtom (token : Read Token) : Read Unit := do
  saveSpot
  allowKey false
  push (<- token)

def closeBlocks : Read Unit := do
  unwind (-1)
  dropSpot
  allowKey false

def openBlock (start : Token) : Read Unit := do
  if (<- get).flow = 0 then
    if !(<- get).keyAllowed then refuse
    if <- indentTo (<- get).column then push start

def valueToken : Read Unit := do
  let r <- get
  match r.spots.lookup r.flow with
  | some spot =>
    modify fun r => { r with
      spots := r.spots.filter fun (level, _) => level ≠ r.flow
      queue := r.queue.insertIdx (spot.number - r.taken) Token.key }
    if r.flow = 0 then
      if <- indentTo spot.column then
        modify fun r => { r with
          queue := r.queue.insertIdx (spot.number - r.taken) Token.blockMappingStart }
    allowKey false
    forward
    push .value
  | none =>
    openBlock .blockMappingStart
    pushSign .value (r.flow = 0)

def plainStarts (flow : Bool) (c next : Char) : Bool :=
  !(isSpace c || "-?:,[]\x7b\x7d#&*!|>'\"%@`".toList.contains c) ||
    (!isSpace next && (c == '-' || (!flow && (c == '?' || c == ':'))))

def fetch : Read Unit := do
  if (<- get).index = 0 && (<- peek) == '\ufeff' then forward
  toNextToken ((<- get).rest.length + 1)
  dropStaleSpots
  unwind (<- get).column
  let r <- get
  let c <- peek
  let next <- peek 1
  let flow : Bool := r.flow ≠ 0
  if c == '\x00' then
    closeBlocks
    modify fun r => { r with finished := true, spots := [] }
    push .streamEnd
  else if c == '%' && r.column = 0 then
    closeBlocks
    push (<- directive)
  else if r.column = 0 && (c == '-' || c == '.') && (<- atDocumentMark) then
    closeBlocks
    forward 3
    push (if c == '-' then .documentStart else .documentEnd)
  else if c == '[' then openFlow .flowSequenceStart
  else if c == '\x7b' then openFlow .flowMappingStart
  else if c == ']' then closeFlow .flowSequenceEnd
  else if c == '\x7d' then closeFlow .flowMappingEnd
  else if c == ',' then pushSign .flowEntry true
  else if c == '-' && isSpace next then
    openBlock .blockSequenceStart
    pushSign .blockEntry true
  else if c == '?' && (flow || isSpace next) then
    openBlock .blockMappingStart
    pushSign .key (!flow)
  else if c == ':' && (flow || isSpace next) then valueToken
  else if c == '*' then pushAtom (return .reference (<- anchorName))
  else if c == '&' then pushAtom (return .anchor (<- anchorName))
  else if c == '!' then pushAtom tag
  else if (c == '|' || c == '>') && !flow then
    allowKey true
    dropSpot
    push (<- blockScalar (c == '>'))
  else if c == '\'' || c == '"' then pushAtom (quotedScalar (c == '"'))
  else if plainStarts flow c next then pushAtom plainScalar
  else refuse

def needsMore : Read Bool := do
  let r <- get
  if r.finished then return false
  if r.queue.isEmpty then return true
  dropStaleSpots
  let r <- get
  return r.spots.any fun (_, spot) => spot.number = r.taken

def fill : (fuel : Nat) -> Read Unit
  | 0 => pure ()
  | fuel + 1 => do
    if <- needsMore then
      fetch
      fill fuel

def look : Read Token := do
  fill ((<- get).rest.length + 2)
  return (<- get).queue.headD .streamEnd

def take : Read Token := do
  let token <- look
  modify fun r => { r with queue := r.queue.drop 1, taken := r.taken + 1 }
  return token

end Read

def isReadable (c : Char) : Bool :=
  let n := c.toNat
  n == 9 || n == 10 || n == 13 || (0x20 ≤ n && n ≤ 0x7E) || n == 0x85 ||
    (0xA0 ≤ n && n ≤ 0xD7FF) || (0xE000 ≤ n && n ≤ 0xFFFD) || 0x10000 ≤ n

end Refinery.Yaml
