import RecordStore.Text.Lowercase

/-!
# Case folding

The simple Unicode case folding, by which patterns compare characters without regard to case. Each
character is mapped to one character: a capital to its lowercase form, and some lowercase letters to
another one of which they are variants. The folding of a Cherokee letter is its capital, and the
dotted capital I is mapped to itself, since its lowercase form has two characters.

* `foldRanges` — the lowercase letters that are mapped to other ones;
* `fold` — the folding of a character.
-/

namespace RecordStore.Text

/-- The lowercase letters that folding maps to another letter. -/
def foldRanges : List CaseRange := [
  ⟨0xb5, 0xb5, 1, 775⟩, ⟨0x17f, 0x17f, 1, -268⟩, ⟨0x345, 0x345, 1, 116⟩, ⟨0x3c2, 0x3c2, 1, 1⟩,
  ⟨0x3d0, 0x3d0, 1, -30⟩, ⟨0x3d1, 0x3d1, 1, -25⟩, ⟨0x3d5, 0x3d5, 1, -15⟩, ⟨0x3d6, 0x3d6, 1, -22⟩,
  ⟨0x3f0, 0x3f0, 1, -54⟩, ⟨0x3f1, 0x3f1, 1, -48⟩, ⟨0x3f5, 0x3f5, 1, -64⟩,
  ⟨0x13f8, 0x13fd, 1, -8⟩, ⟨0x1c80, 0x1c80, 1, -6222⟩, ⟨0x1c81, 0x1c81, 1, -6221⟩,
  ⟨0x1c82, 0x1c82, 1, -6212⟩, ⟨0x1c83, 0x1c84, 1, -6210⟩, ⟨0x1c85, 0x1c85, 1, -6211⟩,
  ⟨0x1c86, 0x1c86, 1, -6204⟩, ⟨0x1c87, 0x1c87, 1, -6180⟩, ⟨0x1c88, 0x1c88, 1, 35267⟩,
  ⟨0x1e9b, 0x1e9b, 1, -58⟩, ⟨0x1fbe, 0x1fbe, 1, -7173⟩, ⟨0x1fd3, 0x1fd3, 1, -7235⟩,
  ⟨0x1fe3, 0x1fe3, 1, -7219⟩, ⟨0xab70, 0xabbf, 1, -38864⟩, ⟨0xfb05, 0xfb05, 1, 1⟩]

/-- The folding of a code point. -/
def foldCode (n : Nat) : Nat := lowerCode (lowerCode n lowercaseRanges) foldRanges

/-- The folding of a character. -/
def fold (c : Char) : Char := Char.ofNat (foldCode c.toNat)

end RecordStore.Text
