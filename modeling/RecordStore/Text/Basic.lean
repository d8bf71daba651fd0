/-!
# Texts

Texts are `String`s, and every operation on them is defined on their list of code points.

* `isBlank`, `trim` — white space by the Unicode property `White_Space`;
* `compare` — order by code points;
* `occursIn` — substring search, beside the library's `isPrefixOf` and `isSuffixOf`;
* `splitCommas`, `splitColon` — the two separators of the short list expressions.
-/

namespace RecordStore.Text

/-- Whether `n` lies in one of the inclusive ranges, which are given in ascending order. -/
def inRanges (n : Nat) : List (Nat × Nat) → Bool
  | [] => false
  | (first, last) :: rest => !(decide (n < first)) && (decide (n ≤ last) || inRanges n rest)

/-- The code points of the property `White_Space`. -/
def blankRanges : List (Nat × Nat) := [
  (0x9, 0xd), (0x20, 0x20), (0x85, 0x85), (0xa0, 0xa0), (0x1680, 0x1680), (0x2000, 0x200a),
  (0x2028, 0x2029), (0x202f, 0x202f), (0x205f, 0x205f), (0x3000, 0x3000)]

/-- White space; neither the zero-width space nor the byte-order mark belongs to it. -/
def isBlank (c : Char) : Bool := inRanges c.toNat blankRanges

/-- Remove white space at both ends. -/
def trimChars (cs : List Char) : List Char :=
  ((cs.dropWhile isBlank).reverse.dropWhile isBlank).reverse

/-- Remove white space at both ends. -/
def trim (s : String) : String := String.ofList (trimChars s.toList)

/-- A text is blank if trimming it leaves nothing. -/
def isBlankText (s : String) : Bool := s.toList.all isBlank

/-- Compare two texts by their code points. -/
def compare (s t : String) : Ordering :=
  List.compareLex Ord.compare s.toList t.toList

/-- `s` comes before `t` or equals it. -/
def le (s t : String) : Bool := compare s t != .gt

/-- Whether `needle` occurs somewhere in the text. -/
def occursIn (needle : List Char) : List Char → Bool
  | [] => needle.isEmpty
  | c :: cs => needle.isPrefixOf (c :: cs) || occursIn needle cs

/-- The parts of a text between its commas; a text without a comma is its only part. -/
def splitCommas (s : String) : List String := (s.toList.splitOn ',').map String.ofList

/-- The texts before and after the first colon, if there is a colon. -/
def splitColon (s : String) : Option (String × String) :=
  match s.toList.dropWhile (· != ':') with
  | [] => none
  | _ :: rest => some (String.ofList (s.toList.takeWhile (· != ':')), String.ofList rest)

/-- Lowercase the letters `A` to `Z` and leave all else alone. -/
def asciiLowercase (s : String) : String :=
  String.ofList (s.toList.map fun c =>
    if 'A' ≤ c ∧ c ≤ 'Z' then Char.ofNat (c.toNat + 32) else c)

/-- Join texts with a separator between neighbours. -/
def joinWith (separator : String) (parts : List String) : String :=
  String.intercalate separator parts

end RecordStore.Text
