import RecordStore.Yaml.Basic
import RecordStore.Yaml.Character

/-!
# The scalars of YAML texts

The texts of scalars without quotes, in quotes, and in blocks. Inside the first two, blanks around
line breaks are dropped, a single line break becomes a space, and of several ones all but the first
are kept. The line and the paragraph separator are never dropped.

* `Yaml.plainScalar?`, `Yaml.quotedScalar?`, `Yaml.blockScalar?` — the text of a scalar and the rest
  of the source.

Blocks are given by their *margin*, the least column of what stands inside; the margin outside of
all blocks is zero.
-/

namespace RecordStore.Yaml

/-! ## Gaps -/

/-- The blanks between two words of a scalar: those before any line break, whether a line ended,
the first line break, which may be escaped, and the further ones. -/
structure Gap where
  blanks : List Char
  crossed : Bool
  first : List Char
  further : List Char

namespace Gap

/-- No gap. -/
def empty : Gap := ⟨[], false, [], []⟩

/-- The gap that begins with an escaped line break. -/
def escapedBreak : Gap := ⟨[], true, [], []⟩

/-- The text that a gap stands for. -/
def text (gap : Gap) : List Char :=
  if !gap.crossed then gap.blanks
  else if gap.first = ['\n'] then (if gap.further.isEmpty then [' '] else gap.further)
  else gap.first ++ gap.further

/-- The gap at the front and the rest. A tab that stands to the left of the margin at the beginning
of a line is refused. -/
def scan? (margin : Nat) (gap : Gap) : Source → Option (Gap × Source)
  | [] => some (gap, [])
  | c :: rest =>
    if isBlank c.char then
      if !gap.crossed then scan? margin { gap with blanks := gap.blanks ++ [c.char] } rest
      else if c.char = '\t' ∧ c.column < margin then none
      else scan? margin gap rest
    else if isBreak c.char then
      if gap.crossed then scan? margin { gap with further := gap.further ++ [c.char] } rest
      else scan? margin { gap with blanks := [], crossed := true, first := [c.char] } rest
    else some (gap, c :: rest)

end Gap

/-! ## Scalars without quotes -/

/-- A character that separates the parts of a flow collection. -/
def isFlowMark (c : Char) : Bool := c = ',' || c = '[' || c = ']' || c = '\x7b' || c = '\x7d'

/-- A word of a scalar without quotes, and the rest. Inside a flow collection a colon directly
before a mark of the collection or a question mark is refused. -/
def plainWord? (flow : Bool) : Source → Option (List Char × Source)
  | [] => some ([], [])
  | c :: rest =>
    if isBlank c.char || isBreak c.char then some ([], c :: rest)
    else if flow && c.char = ':' && Source.startsWith (fun d => isFlowMark d || d = '?') rest then
      none
    else if (c.char = ':' && Source.isSeparated rest) || (flow && isFlowMark c.char) then
      some ([], c :: rest)
    else (plainWord? flow rest).map fun (word, rest) => (c.char :: word, rest)

/-- The words of a scalar without quotes after a gap. Also tells whether the lines of the scalar
ended at a line break. -/
def plainWords? (flow : Bool) (margin : Nat) : (fuel : Nat) → Gap → Source →
    Option (List Char × Bool × Source)
  | 0, _, _ => none
  | fuel + 1, gap, source => do
    if source.isDocumentMark || source.front? = some '#' then some ([], gap.crossed, source)
    else
      let (word, rest) ← plainWord? flow source
      if word.isEmpty then some ([], gap.crossed, source)
      else
        let (next, after) ← Gap.empty.scan? margin rest
        if !flow && next.crossed && after.column < margin then
          some (gap.text ++ word, next.crossed, after)
        else
          let (words, crossed, after) ← plainWords? flow margin fuel next after
          some (gap.text ++ word ++ words, crossed, after)

/-- The text of a scalar without quotes, whether it ended at a line break, and the rest. -/
def plainScalar? (flow : Bool) (margin : Nat) (source : Source) :
    Option (String × Bool × Source) :=
  (plainWords? flow margin (source.length + 1) .empty source).map fun (text, crossed, rest) =>
    (String.ofList text, crossed, rest)

/-- The characters with which no scalar without quotes begins. -/
def isIndicator (c : Char) : Bool :=
  isFlowMark c ||
    ['-', '?', ':', '#', '&', '*', '!', '|', '>', '\'', '"', '%', '@', '\x60'].contains c

/-- Whether a scalar without quotes begins here. -/
def startsPlain (flow : Bool) : Source → Bool
  | [] => false
  | c :: rest =>
    !(isIndicator c.char || isBlank c.char || isBreak c.char) ||
      (c.char = '-' && !Source.startsWith isBlank rest) ||
      (!flow && (c.char = '?' || c.char = ':') && !Source.isSeparated rest)

/-! ## Scalars in quotes -/

/-- The character of the code point given by a number of hexadecimal digits, and the rest. -/
def hexEscape? (width : Nat) (source : Source) : Option (Char × Source) := do
  let digits := (source.take width).map Character.char
  if digits.length < width then none
  else
    let code ← digits? 16 digits
    if code < 0xd800 ∨ (0xe000 ≤ code ∧ code < 0x110000) then
      some (Char.ofNat code, source.drop width)
    else none

/-- The escapes of one character. -/
def shortEscapes : List (Char × Char) := [
  ('0', '\x00'), ('a', '\x07'), ('b', '\x08'), ('t', '\t'), ('\t', '\t'), ('n', '\n'),
  ('v', '\x0b'), ('f', '\x0c'), ('r', '\r'), ('e', '\x1b'), (' ', ' '), ('"', '"'), ('/', '/'),
  ('\\', '\\'), ('N', '\u0085'), ('_', '\u00a0'), ('L', '\u2028'), ('P', '\u2029')]

/-- The character of an escape, whose backslash is dropped, and the rest. -/
def escape? : Source → Option (Char × Source)
  | [] => none
  | c :: rest =>
    if c.char = 'x' then hexEscape? 2 rest
    else if c.char = 'u' then hexEscape? 4 rest
    else if c.char = 'U' then hexEscape? 8 rest
    else (shortEscapes.lookup c.char).map fun x => (x, rest)

/-- A word of a scalar in quotes, the gap that begins after it, and the rest. -/
def quotedWord? (quote : Char) : (fuel : Nat) → Source → Option (List Char × Gap × Source)
  | 0, _ => none
  | _ + 1, [] => some ([], .empty, [])
  | fuel + 1, c :: rest =>
    if isBlank c.char || isBreak c.char then some ([], .empty, c :: rest)
    else if c.char = quote then
      if quote = '\'' ∧ Source.front? rest = some '\'' then
        (quotedWord? quote fuel (Source.after 1 rest)).map fun (word, after) =>
          ('\'' :: word, after)
      else some ([], .empty, c :: rest)
    else if c.char = '\\' ∧ quote = '"' then
      if Source.startsWith isBreak rest then some ([], .escapedBreak, Source.after 1 rest)
      else do
        let (x, rest) ← escape? rest
        (quotedWord? quote fuel rest).map fun (word, after) => (x :: word, after)
    else (quotedWord? quote fuel rest).map fun (word, after) => (c.char :: word, after)

/-- The words of a scalar in quotes up to the closing quote, and the rest. A document must not begin
or end inside. -/
def quotedWords? (quote : Char) : (fuel : Nat) → Source → Option (List Char × Source)
  | 0, _ => none
  | fuel + 1, source => do
    if source.isDocumentMark then none
    else
      let (word, gap, rest) ← quotedWord? quote (source.length + 1) source
      match rest with
      | [] => none
      | c :: after =>
        if c.char = quote then some (word, after)
        else
          let (gap, after) ← gap.scan? 0 rest
          let (words, after) ← quotedWords? quote fuel after
          some (word ++ gap.text ++ words, after)

/-- The text of a scalar in quotes, of which the opening one is dropped, and the rest. -/
def quotedScalar? (quote : Char) (source : Source) : Option (String × Source) :=
  (quotedWords? quote (source.length + 1) source).map fun (text, rest) =>
    (String.ofList text, rest)

/-! ## Scalars in blocks -/

/-- What becomes of the line breaks at the end of a block. -/
inductive Chomping where
  | strip
  | clip
  | keep
  deriving DecidableEq

/-- The chomping indicator at the front. -/
def chomping? (source : Source) : Option (Chomping × Source) :=
  match source.front? with
  | some '+' => some (.keep, source.after 1)
  | some '-' => some (.strip, source.after 1)
  | _ => none

/-- The indentation indicator at the front: a digit other than zero. If there is none it is zero. -/
def increment? (source : Source) : Option (Nat × Source) :=
  match source.front? with
  | some c =>
    if c = '0' then none
    else if c.isDigit then some (c.toNat - '0'.toNat, source.after 1)
    else some (0, source)
  | none => some (0, source)

/-- The two indicators of a block in either order. -/
def blockHeader? (source : Source) : Option (Chomping × Nat × Source) :=
  match chomping? source with
  | some (chomping, rest) =>
    (increment? rest).map fun (increment, rest) => (chomping, increment, rest)
  | none =>
    (increment? source).map fun (increment, rest) =>
      match chomping? rest with
      | some (chomping, rest) => (chomping, increment, rest)
      | none => (.clip, increment, rest)

/-- Drop the blanks and the comment at the end of a line together with its break. -/
def dropLineEnd? (source : Source) : Option Source :=
  let rest := (source.split isBlank).2
  let rest := if rest.front? = some '#' then (rest.split fun c => !isBreak c).2 else rest
  if rest.isEmpty || rest.startsWith isBreak then some (rest.after 1) else none

/-- The line breaks at the front, where the lines have nothing but spaces up to the column `indent`,
or any number of them if it is not known yet. Also gives the widest of these lines. -/
def blockBreaks? (indent : Option Nat) (widest : Nat) : Source →
    Option (Nat × List Char × Source)
  | [] => some (widest, [], [])
  | c :: rest =>
    let widest := max widest c.column
    let inside := (indent.map fun column => decide (c.column < column)).getD true
    if inside && c.char = ' ' then blockBreaks? indent widest rest
    else if inside && c.char = '\t' then none
    else if isBreak c.char then
      (blockBreaks? indent widest rest).map fun (widest, breaks, after) =>
        (widest, c.char :: breaks, after)
    else some (widest, [], c :: rest)

/-- The lines of a block at a column after the line break `first`, the further ones `further`, and a
line that began with a blank or not; then the line breaks at the end, and the rest. -/
def blockLines? (folded : Bool) (indent : Nat) : (fuel : Nat) → (afterBlank : Bool) →
    (first further : List Char) → Source →
    Option (List Char × List Char × List Char × Source)
  | 0, _, _, _, _ => none
  | fuel + 1, afterBlank, first, further, source => do
    if source.isEmpty || source.column != indent then some ([], first, further, source)
    else
      let blank := source.startsWith isBlank
      let joint :=
        if folded && first = ['\n'] && !afterBlank && !blank then
          (if further.isEmpty then [' '] else [])
        else first
      let (line, rest) := source.split fun c => !isBreak c
      let (_, next, after) ← blockBreaks? (some indent) 0 (rest.after 1)
      let (lines, first, further', after) ← blockLines? folded indent fuel blank
        (rest.front?.toList) next after
      some (joint ++ further ++ line ++ lines, first, further', after)

/-- The text of a scalar in a block inside a block of a margin, and the rest; the indicator of the
style is dropped. -/
def blockScalar? (folded : Bool) (margin : Nat) (source : Source) : Option (String × Source) := do
  let (chomping, increment, rest) ← blockHeader? source
  let rest ← dropLineEnd? rest
  let given := if increment = 0 then none else some (margin - 1 + increment)
  let (widest, breaks, rest) ← blockBreaks? given 0 rest
  let indent := given.getD (max (max widest margin) 1)
  let (text, first, further, rest) ←
    blockLines? folded indent (rest.length + 1) false [] breaks rest
  let text := match chomping with
    | .strip => text
    | .clip => text ++ first
    | .keep => text ++ first ++ further
  some (String.ofList text, rest)

end RecordStore.Yaml
