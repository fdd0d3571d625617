import CallScript.Text.Encoding
import CallScript.Text.Numeral
import CallScript.Yaml.Block
import CallScript.Yaml.Plain
import CallScript.Yaml.Quoted

/-!
# Tokens of YAML

A text as a row of tokens.  Indentation becomes the start and the end of block collections.  A
node that turns out to be the key of a mapping, because a colon follows it in the same line, has
the tokens for a key put in front of it afterwards.
-/

namespace CallScript
namespace Yaml

/-- The tokens. -/
inductive Token where
  | streamEnd
  | versionDirective (major : Nat)
  | tagDirective (handle start : String)
  | otherDirective
  | documentStart
  | documentEnd
  | blockSequenceStart
  | blockMappingStart
  | blockEnd
  | flowSequenceStart
  | flowSequenceEnd
  | flowMappingStart
  | flowMappingEnd
  | blockEntry
  | flowEntry
  | key
  | value
  | alias (name : String)
  | anchor (name : String)
  | tag (handle : Option String) (suffix : String)
  | scalar (text : Text) (plain : Bool)
  deriving Repr, DecidableEq, Inhabited

/-- A node that may turn out to be a key: its place among the tokens and in the text. -/
structure KeyCandidate where
  place : Nat
  required : Bool
  index : Nat
  line : Nat
  column : Nat

/-- The state of reading tokens. -/
structure Scan where
  cursor : Cursor
  tokens : Array Token
  /-- The number of open brackets. -/
  flowLevel : Nat
  indent : Int
  outerIndents : List Int
  keyAllowed : Bool
  /-- The candidate of each number of open brackets. -/
  candidates : List (Nat × KeyCandidate)
  finished : Bool

/-- Reading tokens; what was read before a trouble stays there. -/
abbrev Scanning := ExceptT Trouble (StateM Scan)

namespace Scanning

/-- The text is not well-formed. -/
def fail {α : Type} : Scanning α :=
  throw .malformed

/-- Put a token at the end. -/
def emit (token : Token) : Scanning Unit :=
  modify fun s => { s with tokens := s.tokens.push token }

/-- Go on at another place. -/
def moveTo (c : Cursor) : Scanning Unit :=
  modify fun s => { s with cursor := c }

/-- Go on after a number of characters. -/
def forward (n : Nat) : Scanning Unit :=
  modify fun s => { s with cursor := s.cursor.skip n }

/-- Whether the next node may be a key. -/
def allowKey (allowed : Bool) : Scanning Unit :=
  modify fun s => { s with keyAllowed := allowed }

/-- The distance over which a key is looked for. -/
def longestKey : Nat := 1024

/-- Holds of the candidates that can no longer be keys at the current place. -/
def isStale (s : Scan) (candidate : KeyCandidate) : Bool :=
  candidate.line ≠ s.cursor.line || longestKey < s.cursor.index - candidate.index

/-- Drop the candidates that can no longer be keys; one that had to be a key is an error. -/
def dropStale : Scanning Unit := do
  let s ← get
  if s.candidates.any fun entry => isStale s entry.2 && entry.2.required then
    fail
  set { s with candidates := s.candidates.filter fun entry => !isStale s entry.2 }

/-- Drop the candidate among the open brackets; one that had to be a key is an error. -/
def dropCandidate : Scanning Unit := do
  let s ← get
  match s.candidates.lookup s.flowLevel with
  | none => pure ()
  | some candidate =>
      if candidate.required then
        fail
      set { s with candidates := s.candidates.filter (·.1 ≠ s.flowLevel) }

/-- Note that the next node may be a key. -/
def noteCandidate : Scanning Unit := do
  let s ← get
  if s.keyAllowed then
    let c := s.cursor
    let required := s.flowLevel = 0 && s.indent = (c.column : Int)
    dropCandidate
    let candidate : KeyCandidate := ⟨s.tokens.size, required, c.index, c.line, c.column⟩
    modify fun s => { s with candidates := (s.flowLevel, candidate) :: s.candidates }

/-- The tokens that end the blocks indented deeper than a column. -/
def closeBlocks (column : Int) (indent : Int) : List Int → List Token × Int × List Int
  | [] => ([], indent, [])
  | outer :: rest =>
      if column < indent then
        let (tokens, result) := closeBlocks column outer rest
        (.blockEnd :: tokens, result)
      else
        ([], indent, outer :: rest)

/-- End the blocks that are indented deeper than a column. -/
def unwind (column : Int) : Scanning Unit := do
  let s ← get
  if s.flowLevel = 0 then
    let (ends, indent, outer) := closeBlocks column s.indent s.outerIndents
    modify fun s => { s with indent := indent, outerIndents := outer }
    ends.forM emit

/-- Begin a block at a column, if it is deeper than the current one; tells whether it did. -/
def indentTo (column : Nat) : Scanning Bool := do
  let s ← get
  if s.indent < (column : Int) then
    set { s with indent := (column : Int), outerIndents := s.indent :: s.outerIndents }
    return true
  else
    return false

/-- The place after blank space and comments, and whether a line has ended on the way. -/
def skipGaps : Nat → Bool → Cursor → Cursor × Bool
  | 0, broken, c => (c, broken)
  | fuel + 1, broken, c =>
      let c := c.skipSpaces
      let c := if c.peek = '#' then c.skipWhile (!isLineEnd ·) else c
      if isBreak c.peek then skipGaps fuel true c.step else (c, broken)

/-- Go to the next token; a new line allows a key outside brackets. -/
def toNextToken : Scanning Unit := do
  let s ← get
  let c := s.cursor
  let c := if c.index = 0 && c.peek = byteOrderMark then c.step else c
  let (c, broken) := skipGaps (c.left + 1) false c
  set { s with
    cursor := c
    keyAllowed := s.keyAllowed || (broken && s.flowLevel = 0) }

/-- Holds of the characters of names. -/
def isNameChar (c : Char) : Bool :=
  c.isAlphanum || c = '-' || c = '_'

/-- Holds of the characters of tags, escapes apart. -/
def isUriChar (c : Char) : Bool :=
  c.isAlphanum || "-;/?:@&=+$,_.!~*'()[]".toList.contains c

/-- The bytes of escapes in a tag. -/
def escapedBytes : Nat → Cursor → Except Trouble (Bytes × Cursor)
  | 0, c => .ok ([], c)
  | fuel + 1, c =>
      if c.peek = '%' then
        let digits := (c.rest.drop 1).take 2
        match Quoted.hexNumber? digits with
        | some n =>
            if digits.length < 2 then
              .error .malformed
            else
              (escapedBytes fuel (c.skip 3)).map fun found => (UInt8.ofNat n :: found.1, found.2)
        | none => .error .malformed
      else
        .ok ([], c)

/-- A tag's text with its escapes replaced. -/
def uriFrom : Nat → String → Cursor → Except Trouble (String × Cursor)
  | 0, text, c => .ok (text, c)
  | fuel + 1, text, c =>
      if isUriChar c.peek then
        let (piece, c) := c.takeWhile isUriChar
        uriFrom fuel (text ++ String.ofList piece) c
      else if c.peek = '%' then do
        let (bytes, c) ← escapedBytes (c.left + 1) c
        match Text.decode? bytes with
        | some piece => uriFrom fuel (text ++ piece) c
        | none => throw .malformed
      else
        .ok (text, c)

/-- The text of a tag at a place. -/
def uri (c : Cursor) : Except Trouble (String × Cursor) := do
  let (text, after) ← uriFrom (c.left + 1) "" c
  if after.index = c.index then throw .malformed else return (text, after)

/-- The handle of a tag at a place: an exclamation mark, or a name between two. -/
def tagHandle (c : Cursor) : Except Trouble (String × Cursor) :=
  if c.peek ≠ '!' then
    .error .malformed
  else if c.peekAt 1 = ' ' then
    .ok ("!", c.step)
  else
    let (name, after) := c.step.takeWhile isNameChar
    if after.peek = '!' then
      .ok (String.ofList ('!' :: name ++ ['!']), after.step)
    else
      .error .malformed

/-- Holds where a second exclamation mark follows in the same word. -/
def hasSecondMark (c : Cursor) : Bool :=
  ((c.rest.drop 1).takeWhile (!isSpaceOrEnd ·)).contains '!'

/-- The tag at a place. -/
def readTag (c : Cursor) : Except Trouble (Token × Cursor) := do
  let (token, c) ←
    if c.peekAt 1 = '<' then do
      let (suffix, c) ← uri (c.skip 2)
      if c.peek ≠ '>' then
        throw .malformed
      pure (Token.tag none suffix, c.step)
    else if isGap (c.peekAt 1) then
      pure (Token.tag none "!", c.step)
    else do
      let (handle, c) ← if hasSecondMark c then tagHandle c else pure ("!", c.step)
      let (suffix, c) ← uri c
      pure (Token.tag (some handle) suffix, c)
  if isSpaceOrEnd c.peek then return (token, c) else throw .malformed

/-- The name of an anchor or alias after its sign. -/
def readName (c : Cursor) : Except Trouble (String × Cursor) :=
  let (name, c) := c.step.takeWhile isNameChar
  if name.isEmpty then
    .error .malformed
  else if isGap c.peek || "?:,]%@".toList.contains c.peek || c.peek = '\x7d' ||
      c.peek = Char.ofNat 0x60 then
    .ok (String.ofList name, c)
  else
    .error .malformed

/-- A number in a directive. -/
def readNumber (c : Cursor) : Except Trouble (Nat × Cursor) :=
  let (digits, c) := c.takeWhile Char.isDigit
  if digits.isEmpty then
    .error .malformed
  else if Text.longestNumeral < digits.length then
    .error (.fault (.numeralLong digits.length))
  else
    .ok (Text.digitsToNat digits, c)

/-- The directive at a place, up to the end of its line. -/
def readDirective (c : Cursor) : Except Trouble (Token × Cursor) := do
  let (name, c) := c.step.takeWhile isNameChar
  if name.isEmpty || !isSpaceOrEnd c.peek then
    throw .malformed
  let (token, c) ←
    if String.ofList name = "YAML" then do
      let (major, c) ← readNumber c.skipSpaces
      if c.peek ≠ '.' then
        throw .malformed
      let (_, c) ← readNumber c.step
      if !isSpaceOrEnd c.peek then
        throw .malformed
      pure (Token.versionDirective major, c)
    else if String.ofList name = "TAG" then do
      let (handle, c) ← tagHandle c.skipSpaces
      if c.peek ≠ ' ' then
        throw .malformed
      let (start, c) ← uri c.skipSpaces
      if !isSpaceOrEnd c.peek then
        throw .malformed
      pure (Token.tagDirective handle start, c)
    else
      pure (Token.otherDirective, c.skipWhile (!isLineEnd ·))
  let c ← c.skipComment?
  return (token, c)

/-- Put a token read by `read` at the end, and go on after it. -/
def emitRead (read : Cursor → Except Trouble (Token × Cursor)) : Scanning Unit := do
  let s ← get
  let (token, c) ← read s.cursor
  moveTo c
  emit token

/-- Leave all blocks, and allow no key. -/
def leaveBlocks : Scanning Unit := do
  unwind (-1)
  dropCandidate
  allowKey false

/-- The end of the text. -/
def streamEnd : Scanning Unit := do
  leaveBlocks
  modify fun s => { s with candidates := [], finished := true }
  emit .streamEnd

/-- A directive. -/
def directive : Scanning Unit := do
  leaveBlocks
  emitRead readDirective

/-- The mark at the start or the end of a document. -/
def documentMark (token : Token) : Scanning Unit := do
  leaveBlocks
  forward 3
  emit token

/-- An opening bracket, which may begin a key. -/
def openBracket (token : Token) : Scanning Unit := do
  noteCandidate
  modify fun s => { s with flowLevel := s.flowLevel + 1 }
  allowKey true
  forward 1
  emit token

/-- A closing bracket. -/
def closeBracket (token : Token) : Scanning Unit := do
  dropCandidate
  modify fun s => { s with flowLevel := s.flowLevel - 1 }
  allowKey false
  forward 1
  emit token

/-- A comma between the members of a bracket. -/
def flowEntry : Scanning Unit := do
  allowKey true
  dropCandidate
  forward 1
  emit .flowEntry

/-- Begin a block at the current column with a token, where a key would be allowed. -/
def beginBlock (token : Token) : Scanning Unit := do
  let s ← get
  if s.flowLevel = 0 then
    if !s.keyAllowed then
      fail
    if ← indentTo s.cursor.column then
      emit token

/-- A hyphen before the item of a block. -/
def blockEntry : Scanning Unit := do
  beginBlock .blockSequenceStart
  allowKey true
  dropCandidate
  forward 1
  emit .blockEntry

/-- A question mark before a key. -/
def explicitKey : Scanning Unit := do
  beginBlock .blockMappingStart
  let s ← get
  allowKey (s.flowLevel = 0)
  dropCandidate
  forward 1
  emit .key

/-- Put a token in front of the one at a place. -/
def insertAt (place : Nat) (token : Token) : Scanning Unit :=
  modify fun s => { s with tokens := s.tokens.insertIdxIfInBounds place token }

/-- A colon, which makes the candidate a key. -/
def mappingValue : Scanning Unit := do
  let s ← get
  match s.candidates.lookup s.flowLevel with
  | some candidate =>
      modify fun s => { s with candidates := s.candidates.filter (·.1 ≠ s.flowLevel) }
      insertAt candidate.place .key
      if s.flowLevel = 0 then
        if ← indentTo candidate.column then
          insertAt candidate.place .blockMappingStart
      allowKey false
  | none =>
      beginBlock .blockMappingStart
      allowKey (s.flowLevel = 0)
      dropCandidate
  forward 1
  emit .value

/-- A node of one token that may be a key. -/
def property (read : Cursor → Except Trouble (Token × Cursor)) : Scanning Unit := do
  noteCandidate
  allowKey false
  emitRead read

/-- A block scalar, after which a key may follow. -/
def blockScalar (folded : Bool) : Scanning Unit := do
  allowKey true
  dropCandidate
  let s ← get
  emitRead fun c => (Block.read folded s.indent c).map fun found =>
    (.scalar (.ofChars found.1) false, found.2)

/-- A quoted scalar. -/
def quotedScalar (double : Bool) : Scanning Unit :=
  property fun c => (Quoted.read double c).map fun found =>
    (.scalar found.1 false, found.2)

/-- A plain scalar; when it ends with its line, a key may follow. -/
def plainScalar : Scanning Unit := do
  noteCandidate
  let s ← get
  let found := Plain.read (s.flowLevel ≠ 0) (s.indent + 1) s.cursor
  moveTo found.cursor
  allowKey found.broken
  emit (.scalar (.ofChars found.text) true)

/-- Holds where a plain scalar begins. -/
def beginsPlain (inFlow : Bool) (c : Cursor) : Bool :=
  let ch := c.peek
  let isSign := "-?:,[]#&*!|>%@".toList.contains ch || ch = '\x27' || ch = '\x22' ||
    ch = '\x7b' || ch = '\x7d' || ch = Char.ofNat 0x60
  !(isGap ch || isSign) ||
    (!isGap (c.peekAt 1) && (ch = '-' || (!inFlow && (ch = '?' || ch = ':'))))

/-- Read one more token, or several that belong together. -/
def next : Scanning Unit := do
  toNextToken
  dropStale
  let s ← get
  unwind s.cursor.column
  let c := s.cursor
  let ch := c.peek
  let inFlow := s.flowLevel ≠ 0
  if c.rest.isEmpty then
    streamEnd
  else if ch = '%' && c.column = 0 then
    directive
  else if c.column = 0 && c.atMarks '-' then
    documentMark .documentStart
  else if c.column = 0 && c.atMarks '.' then
    documentMark .documentEnd
  else if ch = '[' then
    openBracket .flowSequenceStart
  else if ch = '\x7b' then
    openBracket .flowMappingStart
  else if ch = ']' then
    closeBracket .flowSequenceEnd
  else if ch = '\x7d' then
    closeBracket .flowMappingEnd
  else if ch = ',' then
    flowEntry
  else if ch = '-' && isGap (c.peekAt 1) then
    blockEntry
  else if ch = '?' && (inFlow || isGap (c.peekAt 1)) then
    explicitKey
  else if ch = ':' && (inFlow || isGap (c.peekAt 1)) then
    mappingValue
  else if ch = '*' then
    property fun c => (readName c).map fun found => (.alias found.1, found.2)
  else if ch = '&' then
    property fun c => (readName c).map fun found => (.anchor found.1, found.2)
  else if ch = '!' then
    property readTag
  else if ch = '|' && !inFlow then
    blockScalar false
  else if ch = '>' && !inFlow then
    blockScalar true
  else if ch = '\x27' then
    quotedScalar false
  else if ch = '\x22' then
    quotedScalar true
  else if beginsPlain inFlow c then
    plainScalar
  else
    fail

end Scanning

/--
The number of tokens that are certain: nothing can be put in front of them any more.  A token that
may turn out to be a key is not certain, nor are those after it.
-/
def Scan.certain (s : Scan) : Nat :=
  let live := s.candidates.filter fun entry => !Scanning.isStale s entry.2
  live.foldl (fun n entry => min n entry.2.place) s.tokens.size

/-- Tokens in order, and the trouble that cut them short, if there was one. -/
structure Tokens where
  tokens : List Token
  trouble : Trouble

/-- Read tokens up to the end of the text, within a step bound. -/
def Tokens.collect : Nat → Scan → Tokens
  | 0, s => ⟨s.tokens.toList, .malformed⟩
  | fuel + 1, s =>
      if s.finished then
        ⟨s.tokens.toList, .malformed⟩
      else
        let certain := s.certain
        match Scanning.next.run.run s with
        | (.ok (), s) => collect fuel s
        | (.error trouble, s) => ⟨s.tokens.toList.take certain, trouble⟩

/-- The tokens of a text. -/
def Tokens.ofChars (cs : List Char) : Tokens :=
  Tokens.collect (cs.length + 2)
    { cursor := .start cs
      tokens := #[]
      flowLevel := 0
      indent := -1
      outerIndents := []
      keyAllowed := true
      candidates := []
      finished := false }

end Yaml
end CallScript
