import RecordStore.Yaml.Property
import RecordStore.Yaml.Scalar

/-!
# The tokens of YAML texts

A YAML text as a sequence of tokens. Blocks are found by their indentation, and have tokens of their
own where they begin and end. That something is the key of a mapping is only known from the colon
after it; the token of the key, and that of the block which may begin with it, are then put in front
of it. Such a key has to stand on one line and must not be longer than 1024 bytes.

* `Yaml.Token` — the tokens;
* `Yaml.Lexer` — what has been read so far;
* `Yaml.tokens?` — the tokens of a text.
-/

namespace RecordStore.Yaml

/-- A token. -/
inductive Token where
  | version (major minor : Nat)
  | tagHandle (handle beginning : String)
  | documentStart
  | documentEnd
  | blockSequence
  | blockMapping
  | blockEnd
  | flowSequence
  | flowSequenceEnd
  | flowMapping
  | flowMappingEnd
  | item
  | separator
  | key
  | value
  | alias (name : String)
  | anchor (name : String)
  | tag (handle suffix : String)
  | scalar (style : Style) (text : String)
  deriving DecidableEq

/-! ## Directives -/

/-- A number of at most nine digits. -/
def versionNumber? (source : Source) : Option (Nat × Source) :=
  let (digits, rest) := source.split Char.isDigit
  if digits.isEmpty || 9 < digits.length then none
  else (digits? 10 digits).map fun n => (n, rest)

/-- The directive at the front, whose percent sign is dropped, and the lines after it. -/
def directive? (source : Source) : Option (Token × Source) := do
  let (name, rest) := source.split isWordChar
  let argument := (rest.split isBlank).2
  if !rest.isSeparated then none
  else if name = "YAML".toList then
    let (major, rest) ← versionNumber? argument
    if rest.front? != some '.' then none
    else
      let (minor, rest) ← versionNumber? (rest.after 1)
      some (.version major minor, ← dropLineEnd? rest)
  else if name = "TAG".toList then
    let (handle, rest) ← handle? argument
    if !(isHandle handle || handle = "!") || !rest.startsWith isBlank then none
    else
      let (beginning, rest) ← uri? true (rest.split isBlank).2
      if beginning.isEmpty || !rest.isSeparated then none
      else some (.tagHandle handle beginning, ← dropLineEnd? rest)
  else none

/-! ## The state of the lexer -/

/-- A token and those that were put in front of it. -/
structure Entry where
  front : List Token
  token : Token

/-- What may turn out to be a key: the index of its token, and its place. It is required to be one
if it stands in the column of the keys of a block mapping. -/
structure Candidate where
  index : Nat
  place : Character
  required : Bool

/-- What has been read so far: the tokens, the margin of the block and those of the blocks around
it, the possible key and those of the levels around the flow collection, and whether a key may begin
here. There is a level around for every flow collection that is open. -/
structure Lexer where
  entries : Array Entry
  margin : Nat
  margins : List Nat
  candidate : Option Candidate
  levels : List (Option Candidate)
  keyAllowed : Bool

namespace Lexer

/-- The beginning of a text. -/
def start : Lexer := ⟨#[], 0, [], none, [], true⟩

/-- Whether a flow collection is open. -/
def inFlow (lexer : Lexer) : Bool := !lexer.levels.isEmpty

/-- Add a token. -/
def emit (lexer : Lexer) (token : Token) : Lexer :=
  { lexer with entries := lexer.entries.push ⟨[], token⟩ }

/-- Allow or forbid that a key begins here. -/
def allowKey (lexer : Lexer) (keyAllowed : Bool) : Lexer := { lexer with keyAllowed }

/-- What may have been a key is none. -/
def dropKey? (lexer : Lexer) : Option Lexer :=
  if lexer.candidate.any Candidate.required then none else some { lexer with candidate := none }

/-- A key may begin at a place, if one is allowed there; no other one may follow directly. -/
def offerKey? (lexer : Lexer) (place : Character) : Option Lexer :=
  if lexer.keyAllowed then
    let required := !lexer.inFlow && lexer.margin == place.column + 1
    lexer.dropKey?.map fun lexer =>
      { lexer with candidate := some ⟨lexer.entries.size, place, required⟩, keyAllowed := false }
  else some lexer

/-- What may be a key at a place where its colon would have to stand: not what began on another line
or more than 1024 bytes before. -/
def Candidate.current? (place : Character) : Option Candidate → Option (Option Candidate)
  | none => some none
  | some candidate =>
    if candidate.place.line < place.line ∨ candidate.place.offset + 1024 < place.offset then
      if candidate.required then none else some none
    else some (some candidate)

/-- Forget what cannot be a key any more. -/
def expireKeys? (lexer : Lexer) (place : Character) : Option Lexer := do
  let candidate ← Candidate.current? place lexer.candidate
  let levels ← lexer.levels.mapM (Candidate.current? place)
  some { lexer with candidate, levels }

/-- A block begins at a column to the right of those that are open. -/
def enterBlock (lexer : Lexer) (column : Nat) (token : Token) : Lexer :=
  if !lexer.inFlow && lexer.margin ≤ column then
    { lexer.emit token with margin := column + 1, margins := lexer.margin :: lexer.margins }
  else lexer

/-- End the blocks whose margins are greater than a limit. -/
def closeBlocks (limit : Nat) (entries : Array Entry) (margin : Nat) :
    List Nat → Array Entry × Nat × List Nat
  | [] => (entries, margin, [])
  | outer :: margins =>
    if limit < margin then closeBlocks limit (entries.push ⟨[], .blockEnd⟩) outer margins
    else (entries, margin, outer :: margins)

/-- Outside of flow collections, end the blocks whose margins are greater than a limit. -/
def leaveBlocks (lexer : Lexer) (limit : Nat) : Lexer :=
  if lexer.inFlow then lexer
  else
    let (entries, margin, margins) :=
      closeBlocks limit lexer.entries lexer.margin lexer.margins
    { lexer with entries, margin, margins }

/-- A flow collection begins. -/
def openFlow? (lexer : Lexer) (place : Character) (token : Token) : Option Lexer := do
  let lexer ← lexer.offerKey? place
  some ({ lexer with
    candidate := none
    levels := lexer.candidate :: lexer.levels
    keyAllowed := true }.emit token)

/-- A flow collection ends. -/
def closeFlow? (lexer : Lexer) (token : Token) : Option Lexer := do
  let lexer ← lexer.dropKey?
  some ({ lexer with
    candidate := lexer.levels.head?.join
    levels := lexer.levels.tail
    keyAllowed := false }.emit token)

/-- A mark begins an entry of a block, which may begin a block of its own. -/
def entry? (lexer : Lexer) (place : Character) (block token : Token) : Option Lexer := do
  if !lexer.inFlow && !lexer.keyAllowed then none
  else
    let lexer ← (lexer.enterBlock place.column block).dropKey?
    some ((lexer.allowKey (!lexer.inFlow || token = .item)).emit token)

/-- A colon ends a key. If there is none before it, an entry of a block begins with its value. -/
def value? (lexer : Lexer) (place : Character) : Option Lexer :=
  match lexer.candidate with
  | some candidate =>
    let column := candidate.place.column
    let opens := !lexer.inFlow && lexer.margin ≤ column
    let front := if opens then [.blockMapping, .key] else [.key]
    let marked := { lexer with
      entries := lexer.entries.modify candidate.index fun entry => { entry with front }
      candidate := none
      keyAllowed := false }
    let entered :=
      if opens then { marked with margin := column + 1, margins := lexer.margin :: lexer.margins }
      else marked
    some (entered.emit .value)
  | none =>
    if lexer.inFlow then some ((lexer.allowKey false).emit .value)
    else if lexer.keyAllowed then some ((lexer.enterBlock place.column .blockMapping).emit .value)
    else none

/-- A mark at the beginning of a line that is inside of no block. -/
def topLevel? (lexer : Lexer) (token : Token) : Option Lexer := do
  let lexer ← (lexer.leaveBlocks 0).dropKey?
  some ((lexer.allowKey false).emit token)

/-- A token that may be a key or stand in front of one. -/
def word? (lexer : Lexer) (place : Character) (token : Token) : Option Lexer := do
  some ((← lexer.offerKey? place).emit token)

/-- Read the token at the front, and give the rest. -/
def token? (lexer : Lexer) (c : Character) (rest : Source) : Option (Lexer × Source) := do
  let source : Source := c :: rest
  let flow := lexer.inFlow
  let marks := flow || rest.isSeparated
  if c.column = 0 ∧ c.char = '%' then
    let (token, rest) ← directive? rest
    some (← lexer.topLevel? token, rest)
  else if source.isMark '-' then some (← lexer.topLevel? .documentStart, source.after 3)
  else if source.isMark '.' then some (← lexer.topLevel? .documentEnd, source.after 3)
  else if c.char = '[' then some (← lexer.openFlow? c .flowSequence, rest)
  else if c.char = '\x7b' then some (← lexer.openFlow? c .flowMapping, rest)
  else if c.char = ']' then some (← lexer.closeFlow? .flowSequenceEnd, rest)
  else if c.char = '\x7d' then some (← lexer.closeFlow? .flowMappingEnd, rest)
  else if c.char = ',' then some (((← lexer.dropKey?).allowKey true).emit .separator, rest)
  else if c.char = '-' && rest.isSeparated then
    some (← lexer.entry? c .blockSequence .item, rest)
  else if c.char = '?' && marks then some (← lexer.entry? c .blockMapping .key, rest)
  else if c.char = ':' && marks then some (← lexer.value? c, rest)
  else if c.char = '*' then
    let (name, rest) ← anchorName? rest
    some (← lexer.word? c (.alias name), rest)
  else if c.char = '&' then
    let (name, rest) ← anchorName? rest
    some (← lexer.word? c (.anchor name), rest)
  else if c.char = '!' then
    let (handle, suffix, rest) ← tag? flow source
    some (← lexer.word? c (.tag handle suffix), rest)
  else if !flow && (c.char = '|' || c.char = '>') then
    let folded := c.char = '>'
    let (text, rest) ← blockScalar? folded lexer.margin rest
    let style := if folded then .folded else .literal
    some (((← lexer.dropKey?).allowKey true).emit (.scalar style text), rest)
  else if c.char = '\'' || c.char = '"' then
    let (text, rest) ← quotedScalar? c.char rest
    some (← lexer.word? c (.scalar .quoted text), rest)
  else if startsPlain flow source then
    let (text, crossed, rest) ← plainScalar? flow lexer.margin source
    some ((← lexer.word? c (.scalar .plain text)).allowKey crossed, rest)
  else none

/-- Skip what stands between two tokens: blanks, comments and line breaks, and a mark of the byte
order at the beginning of a line. Where a key may begin in a block there must be no tabs. A key may
begin at the beginning of a line in a block. -/
def skip (flow keyAllowed comment : Bool) : Source → Bool × Source
  | [] => (keyAllowed, [])
  | c :: rest =>
    if isBreak c.char then skip flow (keyAllowed || !flow) false rest
    else if comment then skip flow keyAllowed true rest
    else if c.char = ' ' || (c.char = '\t' && (flow || !keyAllowed)) ||
        (c.char = byteOrderMark && c.column = 0) then
      skip flow keyAllowed false rest
    else if c.char = '#' then skip flow keyAllowed true rest
    else (keyAllowed, c :: rest)

/-- Read all tokens of a source. -/
def run? : (fuel : Nat) → Lexer → Source → Option Lexer
  | 0, _, _ => none
  | fuel + 1, lexer, source => do
    let (keyAllowed, source) := skip lexer.inFlow lexer.keyAllowed false source
    match source with
    | [] => (lexer.leaveBlocks 0).dropKey?
    | c :: rest =>
      let lexer ← (lexer.allowKey keyAllowed).expireKeys? c
      let (lexer, rest) ← (lexer.leaveBlocks (c.column + 1)).token? c rest
      run? fuel lexer rest

/-- The tokens, each after those that were put in front of it. -/
def tokens (lexer : Lexer) : List Token :=
  lexer.entries.toList.flatMap fun entry => entry.front ++ [entry.token]

end Lexer

/-- The tokens of a source. -/
def tokens? (source : Source) : Option (List Token) :=
  (Lexer.run? (source.length + 1) .start source).map Lexer.tokens

end RecordStore.Yaml
