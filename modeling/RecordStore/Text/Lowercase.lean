import RecordStore.Text.Basic
import RecordStore.Text.CaseTable

/-!
# Lowercase forms

The full Unicode mapping. A character alone has one lowercase form (`lowerChar`, which may be two
characters); in a text the capital sigma is the exception: at the end of a word it becomes the
final sigma (`lowercase`).
-/

namespace RecordStore.Text

/-- The lowercase partner of a code point by an ascending table of runs. -/
def lowerCode (n : Nat) : List CaseRange → Nat
  | [] => n
  | run :: rest =>
    if n < run.first then n
    else if n ≤ run.last then
      if (n - run.first) % run.step = 0 then ((n : Int) + run.offset).toNat else n
    else lowerCode n rest

/-- The lowercase form of one character, without regard to its neighbours. The dotted capital I is
the only character whose lowercase form has two code points. -/
def lowerChar (c : Char) : List Char :=
  if c = 'İ' then ['i', '\u0307'] else [Char.ofNat (lowerCode c.toNat lowercaseRanges)]

/-- A letter of one of the cases. -/
def isCased (c : Char) : Bool := inRanges c.toNat casedRanges

/-- A character that is skipped in the search for the next cased letter. -/
def isCaseIgnorable (c : Char) : Bool := inRanges c.toNat caseIgnorableRanges

/-- Whether the first character that is not case-ignorable is cased. -/
def startsCased (cs : List Char) : Bool :=
  match cs.dropWhile isCaseIgnorable with
  | [] => false
  | c :: _ => isCased c

/-- The lowercase form of a text whose characters before it are `before`, the nearest one first. A
capital sigma is final if a cased letter stands before it and none after it. -/
def lowerAfter (before : List Char) : List Char → List Char
  | [] => []
  | c :: rest =>
    let form :=
      if c = 'Σ' then
        if startsCased before && !startsCased rest then ['ς'] else ['σ']
      else lowerChar c
    form ++ lowerAfter (c :: before) rest

/-- The lowercase form of a text. -/
def lowercase (s : String) : String := String.ofList (lowerAfter [] s.toList)

/-- Two characters are equal up to case if they have the same lowercase form. -/
def equalIgnoringCase (a b : Char) : Bool := a == b || lowerChar a == lowerChar b

end RecordStore.Text
