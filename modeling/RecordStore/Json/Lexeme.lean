import RecordStore.Binary64.Text
import RecordStore.Json.Basic

/-!
# Lexemes of JSON

The strings and numbers of JSON texts. A string has no raw control characters, and no lone
surrogates if it is read and not skipped. A number has no leading zeros; if it is read, it must not
be beyond the floating-point range.

Numbers with a fraction or exponent, and integers of more than 64 bits, are read from a significand
of at most 64 bits: digits are taken into it while it fits, later ones before the point only raise
the exponent, and later ones after the point are dropped. The significand is rounded and then
multiplied or divided by a rounded power of ten.

* `Json.stringBody?`, `Json.skipString?` — reading and skipping a string;
* `Json.numeral?`, `Json.Numeral.number?` — the parts of a number, and its value.
-/

namespace RecordStore.Json

-- the power of the core library, also where monoids have one
attribute [local instance (20000)] instPowNat

/-- The four characters of JSON white space. -/
def isSpace (c : Char) : Bool := c = ' ' || c = '\t' || c = '\n' || c = '\r'

/-- Skip white space. -/
def skipSpace (cs : List Char) : List Char := cs.dropWhile isSpace

/-- The value of a hexadecimal digit. -/
def hexValue? (c : Char) : Option Nat :=
  if '0' ≤ c ∧ c ≤ '9' then some (c.toNat - '0'.toNat)
  else if 'a' ≤ c ∧ c ≤ 'f' then some (c.toNat - 'a'.toNat + 10)
  else if 'A' ≤ c ∧ c ≤ 'F' then some (c.toNat - 'A'.toNat + 10)
  else none

/-- The value of four hexadecimal digits. -/
def hexUnit? (a b c d : Char) : Option Nat :=
  match hexValue? a, hexValue? b, hexValue? c, hexValue? d with
  | some a, some b, some c, some d => some (((a * 16 + b) * 16 + c) * 16 + d)
  | _, _, _, _ => none

/-- The character of a one-letter escape. -/
def escaped? (c : Char) : Option Char :=
  if c = '"' ∨ c = '\\' ∨ c = '/' then some c
  else if c = 'b' then some '\x08'
  else if c = 'f' then some '\x0c'
  else if c = 'n' then some '\n'
  else if c = 'r' then some '\r'
  else if c = 't' then some '\t'
  else none

/-- Put a character in front of what was read. -/
def prependTo (c : Char) : Option (List Char × List Char) → Option (List Char × List Char)
  | none => none
  | some (cs, rest) => some (c :: cs, rest)

/-- The characters of a string up to its closing quote, and what follows it. -/
def stringBody? : List Char → Option (List Char × List Char)
  | [] => none
  | '\\' :: 'u' :: a :: b :: c :: d :: rest =>
    match hexUnit? a b c d with
    | none => none
    | some unit =>
      if unit < 0xd800 ∨ 0xe000 ≤ unit then prependTo (Char.ofNat unit) (stringBody? rest)
      else if 0xdc00 ≤ unit then none
      else match rest with
        | '\\' :: 'u' :: e :: f :: g :: h :: tail =>
          match hexUnit? e f g h with
          | none => none
          | some second =>
            if 0xdc00 ≤ second ∧ second < 0xe000 then
              let code := 0x10000 + (unit - 0xd800) * 0x400 + (second - 0xdc00)
              prependTo (Char.ofNat code) (stringBody? tail)
            else none
        | _ => none
  | '\\' :: c :: rest =>
    match escaped? c with
    | none => none
    | some x => prependTo x (stringBody? rest)
  | c :: rest =>
    if c = '"' then some ([], rest)
    else if c = '\\' then none
    else if c.toNat < 0x20 then none
    else prependTo c (stringBody? rest)

/-- Skip a string up to its closing quote: escapes must be well formed, but need not stand for
characters. -/
def skipString? : List Char → Option (List Char)
  | [] => none
  | '\\' :: 'u' :: a :: b :: c :: d :: rest =>
    if (hexUnit? a b c d).isSome then skipString? rest else none
  | '\\' :: c :: rest => if (escaped? c).isSome then skipString? rest else none
  | c :: rest =>
    if c = '"' then some rest
    else if c = '\\' then none
    else if c.toNat < 0x20 then none
    else skipString? rest

/-- The parts of a numeral: digits before the point, after the point, and of the exponent. -/
structure Numeral where
  negative : Bool
  whole : List Char
  fraction : Option (List Char)
  exponent : Option (Bool × List Char)

/-- Take digits into a significand while it stays below `2 ^ 64`; the digits that did not fit are
left over. -/
def absorb (significand : Nat) : List Char → Nat × List Char
  | [] => (significand, [])
  | c :: rest =>
    let grown := significand * 10 + (c.toNat - '0'.toNat)
    if grown < 2 ^ (64 : Nat) then absorb grown rest else (significand, c :: rest)

/-- The rank of `10 ^ e`, rounded. -/
def powerOfTenRank (e : Nat) : Nat := Binary64.rankOfRatio (10 ^ e) 1

/-- Multiply or divide a magnitude by a power of ten in steps of at most `10 ^ 308`; there is no
result if it would be infinite. -/
def scaleByTen? (rank : Nat) (exponent : Int) : Option Nat :=
  if 0 ≤ exponent then
    if exponent ≤ 308 then
      let product := Binary64.mulRank rank (powerOfTenRank exponent.toNat)
      if product = infinityRank then none else some product
    else if rank = 0 then some 0 else none
  else if -308 ≤ exponent then
    some (Binary64.divRank rank (powerOfTenRank (-exponent).toNat))
  else if rank = 0 then some 0
  else scaleByTen? (Binary64.divRank rank (powerOfTenRank 308)) (exponent + 308)
termination_by (-exponent).toNat
decreasing_by omega

/-- The value of the exponent part; `none` stands for one that is too large to be taken. -/
def Numeral.exponentValue? (n : Numeral) : Option Int :=
  match n.exponent with
  | none => some 0
  | some (negative, digits) =>
    let value := Binary64.digitsValue digits
    if 2 ^ (31 : Nat) ≤ value then none
    else some (if negative then -(value : Int) else value)

/-- The rank of a numeral read as a floating-point number. -/
def Numeral.rank? (n : Numeral) : Option Nat :=
  let (significand, leftWhole) := absorb 0 n.whole
  let fraction := n.fraction.getD []
  let (significand, leftFraction) := absorb significand fraction
  let shift : Int := leftWhole.length - (fraction.length - leftFraction.length : Nat)
  match n.exponentValue? with
  | some exponent =>
    scaleByTen? (Binary64.rankOfRatio significand 1) (shift + exponent)
  | none =>
    if significand = 0 || (n.exponent.map Prod.fst).getD false then some 0 else none

/-- The number of a numeral, if it is in range. -/
def Numeral.number? (n : Numeral) : Option JsonNumber :=
  let value := Binary64.digitsValue n.whole
  let asFloat := n.rank?.bind fun rank => JsonNumber.ofBinary64? (.ofRank n.negative rank)
  if n.fraction.isSome || n.exponent.isSome then asFloat
  else if n.negative then
    if 0 < value ∧ value ≤ 2 ^ (63 : Nat) then JsonNumber.ofInt? (-value) else asFloat
  else if value < 2 ^ (64 : Nat) then JsonNumber.ofInt? value
  else asFloat

/-- The digits at the front and the rest. -/
def spanDigits (cs : List Char) : List Char × List Char :=
  (cs.takeWhile Char.isDigit, cs.dropWhile Char.isDigit)

/-- The exponent part at the front: nothing if there is none, a failure if it has no digits. -/
def exponentPart? : List Char → Option (Option (Bool × List Char) × List Char)
  | [] => some (none, [])
  | c :: rest =>
    if c = 'e' ∨ c = 'E' then
      let (negative, rest) := Binary64.splitSign rest
      let (digits, rest) := spanDigits rest
      if digits.isEmpty then none else some (some (negative, digits), rest)
    else some (none, c :: rest)

/-- The fraction at the front: nothing if there is none, a failure if it has no digits. -/
def fractionPart? : List Char → Option (Option (List Char) × List Char)
  | [] => some (none, [])
  | c :: rest =>
    if c = '.' then
      let (digits, rest) := spanDigits rest
      if digits.isEmpty then none else some (some digits, rest)
    else some (none, c :: rest)

/-- The numeral at the front: an optional minus, digits without a leading zero, an optional
fraction and an optional exponent. -/
def numeral? (cs : List Char) : Option (Numeral × List Char) :=
  let (negative, cs) := match cs with
    | '-' :: rest => (true, rest)
    | _ => (false, cs)
  let (whole, rest) := spanDigits cs
  if whole.isEmpty then none
  else if whole.head? = some '0' ∧ 1 < whole.length then none
  else do
    let (fraction, rest) ← fractionPart? rest
    let (exponent, rest) ← exponentPart? rest
    some (⟨negative, whole, fraction, exponent⟩, rest)

end RecordStore.Json
