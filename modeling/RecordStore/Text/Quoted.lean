import RecordStore.Text.Basic
import RecordStore.Text.PrintableTable

/-!
# Quoted texts

The form in which a text is shown inside a diagnostic: between double quotes, with everything that
would not be visible there escaped.
-/

namespace RecordStore.Text

/-- The lowercase hexadecimal digits of a number. -/
def hexDigits (n : Nat) : List Char := Nat.toDigits 16 n

/-- The shown form of one character: quote, backslash and the common controls by their short
escapes, marks and characters without a glyph by their code point. -/
def quoteChar (c : Char) : List Char :=
  if c = '\x00' then ['\\', '0']
  else if c = '\t' then ['\\', 't']
  else if c = '\n' then ['\\', 'n']
  else if c = '\r' then ['\\', 'r']
  else if c = '"' then ['\\', '"']
  else if c = '\\' then ['\\', '\\']
  else if inRanges c.toNat graphemeExtendRanges || inRanges c.toNat unprintableRanges then
    ['\\', 'u', '\x7b'] ++ hexDigits c.toNat ++ ['\x7d']
  else [c]

/-- A text between double quotes. -/
def quote (s : String) : String :=
  String.ofList ('"' :: s.toList.flatMap quoteChar ++ ['"'])

end RecordStore.Text
