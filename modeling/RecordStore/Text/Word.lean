import RecordStore.Text.Basic
import RecordStore.Text.WordTable

/-!
# Word characters

Letters and numerals make up words; any other character separates them.
-/

namespace RecordStore.Text

/-- A letter or a numeral of any script. -/
def isAlphanumeric (c : Char) : Bool := inRanges c.toNat alphanumericRanges

end RecordStore.Text
