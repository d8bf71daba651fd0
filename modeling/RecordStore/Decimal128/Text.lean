import RecordStore.Decimal128.Basic

/-!
# Decimal floating-point numbers as text

The scientific notation of decimal numbers, which shows coefficient and exponent apart. It is
positional while the exponent is not positive and at most five zeros follow the point, and has an
exponent otherwise. A NaN is written without its sign.

A text is read exactly or not at all: digits beyond the precision, and those that would have to be
cut because the exponent is too small, must be zeros.

* `Decimal128.text`, `Decimal128.ofText?`.
-/

namespace RecordStore.Decimal128

-- the power of the core library, also where monoids have one
attribute [local instance (20000)] instPowNat

/-! ## Writing -/

/-- The text of a coefficient and an exponent. -/
def finiteChars (coefficient : Nat) (exponent : Int) : List Char :=
  let digits := decimalDigits coefficient
  let adjusted := exponent + digits.length - 1
  if exponent ≤ 0 ∧ -6 ≤ adjusted then
    let places := exponent.natAbs
    if places = 0 then digits
    else if digits.length ≤ places then
      ['0', '.'] ++ List.replicate (places - digits.length) '0' ++ digits
    else digits.take (digits.length - places) ++ '.' :: digits.drop (digits.length - places)
  else
    let mantissa := match digits with
      | first :: second :: rest => first :: '.' :: second :: rest
      | short => short
    mantissa ++ 'E' :: (if 0 < adjusted then '+' else '-') :: decimalDigits adjusted.natAbs

/-- The text of a number. -/
def text (d : Decimal128) : String :=
  let sign := Binary64.signText d.isNegative
  String.ofList (match d.magnitude with
    | .nan _ => ['N', 'a', 'N']
    | .infinity => sign ++ "Infinity".toList
    | .finite coefficient exponent => sign ++ finiteChars coefficient exponent)

/-! ## Reading -/

/-- The characters before and after the first occurrence of a character. -/
def splitOnce? (mark : Char) (cs : List Char) : Option (List Char × List Char) :=
  match cs.dropWhile (· != mark) with
  | [] => none
  | _ :: rest => some (cs.takeWhile (· != mark), rest)

/-- An integer, if it has at most 16 bits. -/
def short? (i : Int) : Option Int :=
  if -2 ^ (15 : Nat) ≤ i ∧ i < 2 ^ (15 : Nat) then some i else none

/-- A natural number in decimal digits, which may have a plus in front. -/
def natural? (cs : List Char) : Option Nat :=
  let digits := match cs with
    | '+' :: rest => rest
    | _ => cs
  if digits.isEmpty || !digits.all Char.isDigit then none else some (Binary64.digitsValue digits)

/-- The exponent part of a text, which may have a sign. -/
def exponent? : List Char → Option Int
  | '-' :: '+' :: _ => none
  | '-' :: rest => do short? (-(← natural? rest))
  | cs => do short? (← natural? cs)

/-- Keep the first `count` characters, if those after them are zeros. -/
def keep? (count : Nat) (cs : List Char) : Option (List Char) :=
  if (cs.drop count).all (· == '0') then some (cs.take count) else none

/-- A coefficient and an exponent whose digits fit into the precision. -/
def shorten? (digits : List Char) (exponent : Int) : Option (List Char × Int) :=
  if digits.length ≤ precision then some (digits, exponent)
  else do
    let kept ← keep? precision digits
    some (kept, ← short? (exponent + (digits.length - precision : Nat)))

/-- A coefficient and an exponent that is not too small: zeros at the end are taken away. -/
def raise? (digits : List Char) (exponent : Int) : Option (List Char × Int) :=
  if leastExponent ≤ exponent then some (digits, exponent)
  else
    let missing := (leastExponent - exponent).toNat
    if digits.isEmpty then some (digits, leastExponent)
    else if digits.length < missing then none
    else (keep? (digits.length - missing) digits).map fun kept => (kept, leastExponent)

/-- A coefficient and an exponent that is not too large: zeros are put to the end while they
fit. -/
def lower? (digits : List Char) (exponent : Int) : Option (List Char × Int) :=
  if exponent ≤ greatestExponent then some (digits, exponent)
  else
    let excess := (exponent - greatestExponent).toNat
    if digits.isEmpty then some (digits, greatestExponent)
    else if precision < digits.length + excess then none
    else some (digits ++ List.replicate excess '0', greatestExponent)

/-- The finite number of a text without a sign, in lowercase. No digits at all are zero. -/
def finite? (cs : List Char) : Option Magnitude := do
  let (mantissa, exponent) ← (match splitOnce? 'e' cs with
    | none => some (cs, 0)
    | some (mantissa, digits) => (exponent? digits).map fun e => (mantissa, e))
  let (digits, exponent) ← (match splitOnce? '.' mantissa with
    | none => some (mantissa, exponent)
    | some (whole, fraction) => do
      let places ← short? fraction.length
      some (whole ++ fraction, ← short? (exponent - places)))
  let (digits, exponent) ← shorten? (digits.dropWhile (· == '0')) exponent
  let (digits, exponent) ← raise? digits exponent
  let (digits, exponent) ← lower? digits exponent
  let coefficient ← if digits.isEmpty then some 0 else natural? digits
  some (.finite coefficient exponent)

/-- The number of a text: a decimal, or one of the names `nan`, `snan`, `inf` and `infinity` in any
case. -/
def ofText? (s : String) : Option Decimal128 :=
  let (negative, rest) := Binary64.splitSign s.toList
  let cs := rest.map Char.toLower
  let name := String.ofList cs
  let magnitude :=
    if name = "nan" then some (.nan false)
    else if name = "snan" then some (.nan true)
    else if name = "inf" ∨ name = "infinity" then some .infinity
    else finite? cs
  magnitude.map (pack negative)

end RecordStore.Decimal128
