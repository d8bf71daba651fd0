/-!
# The characters of YAML texts

A YAML text as a list of characters with their places. All line breaks but the line and the
paragraph separator become line feeds. A text with a character that is not printable is refused. The
mark of the byte order counts as printable: it takes a column wherever it stands, but means nothing
at the beginning of a line.

* `Yaml.Character`, `Yaml.Source` — characters with their places, and lists of them;
* `Yaml.Source.ofText?` — the characters of a text.
-/

namespace RecordStore.Yaml

/-- A character, the number of bytes before it, its line and its column. -/
structure Character where
  char : Char
  offset : Nat
  line : Nat
  column : Nat

/-- What is left of a text. -/
abbrev Source := List Character

/-- A blank inside a line. -/
def isBlank (c : Char) : Bool := c = ' ' || c = '\t'

/-- A line break. -/
def isBreak (c : Char) : Bool :=
  c = '\n' || c = '\r' || c = '\u0085' || c = '\u2028' || c = '\u2029'

/-- The character that a line break stands for in a scalar. -/
def normalBreak (c : Char) : Char := if c = '\u2028' ∨ c = '\u2029' then c else '\n'

/-- The mark of the byte order. -/
def byteOrderMark : Char := '\ufeff'

/-- A character that may stand in a text: neither a control character, but for tabs and line
breaks, nor one of the last two of the basic plane. -/
def isPrintable (c : Char) : Bool :=
  c = '\t' || c = '\n' || c = '\r' || (' ' ≤ c && c ≤ '~') || c = '\u0085' ||
    ('\u00a0' ≤ c && c ≤ '\ufffd') || '\uffff' < c

/-- A letter, a digit, an underscore or a hyphen. -/
def isWordChar (c : Char) : Bool := c.isAlphanum || c = '_' || c = '-'

namespace Source

/-- The characters of a text from a place on. -/
def locate (offset line column : Nat) : List Char → Source
  | [] => []
  | '\r' :: '\n' :: rest => ⟨'\n', offset, line, column⟩ :: locate (offset + 2) (line + 1) 0 rest
  | c :: rest =>
    if isBreak c then
      ⟨normalBreak c, offset, line, column⟩ :: locate (offset + c.utf8Size) (line + 1) 0 rest
    else ⟨c, offset, line, column⟩ :: locate (offset + c.utf8Size) line (column + 1) rest

/-- The characters of a text, if all of them are printable. -/
def ofText? (s : String) : Option Source :=
  if s.toList.all isPrintable then some (locate 0 0 0 s.toList) else none

/-- What follows the first characters. -/
def after (count : Nat) (source : Source) : Source := source.drop count

/-- The character at the front. -/
def front? (source : Source) : Option Char := source.head?.map Character.char

/-- The column at the front. -/
def column (source : Source) : Nat := (source.head?.map Character.column).getD 0

/-- Whether the character at the front has a property. -/
def startsWith (has : Char → Bool) (source : Source) : Bool := (source.front?.map has).getD false

/-- Whether the text ends here or goes on with a blank or a line break. -/
def isSeparated (source : Source) : Bool :=
  (source.front?.map fun c => isBlank c || isBreak c).getD true

/-- The text of the longest beginning whose characters have a property, and the rest. -/
def split (has : Char → Bool) (source : Source) : List Char × Source :=
  ((source.takeWhile fun c => has c.char).map Character.char, source.dropWhile fun c => has c.char)

/-- Whether a mark of a document stands here: three times the same character at the beginning of a
line, and nothing directly after it. -/
def isMark (mark : Char) : Source → Bool
  | a :: b :: c :: rest =>
    a.column == 0 && a.char == mark && b.char == mark && c.char == mark && isSeparated rest
  | _ => false

/-- Whether a document begins or ends here. -/
def isDocumentMark (source : Source) : Bool := source.isMark '-' || source.isMark '.'

end Source

end RecordStore.Yaml
