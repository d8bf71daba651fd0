import RecordStore.Binary64.Rounding
import RecordStore.Binary64.Shortest

/-!
# Floating-point numbers as text

Two layouts of the shortest decimal form, and the reader of decimal texts.

* `Binary64.plainText` — the layout of messages: never an exponent, no point in a whole number;
* `Binary64.jsonText` — the layout of JSON texts: positional for point positions from -4 to 16 with
  at least one digit after the point, otherwise with an exponent;
* `Binary64.ofText?` — a decimal text, correctly rounded, or the name of a special value.
-/

namespace RecordStore

/-- The decimal digits of a natural number. -/
def decimalDigits (n : Nat) : List Char := Nat.toDigits 10 n

namespace Decimal

/-- The number of digits before the point; negative if zeros follow the point first. -/
def point (d : Decimal) : Int := (decimalDigits d.digits).length + d.exponent

/-- Positional layout; a whole number is followed by `whole`. -/
def positional (d : Decimal) (whole : List Char) : List Char :=
  let digits := decimalDigits d.digits
  if 0 ≤ d.exponent then digits ++ List.replicate d.exponent.toNat '0' ++ whole
  else if 0 < d.point then digits.take d.point.toNat ++ '.' :: digits.drop d.point.toNat
  else ['0', '.'] ++ List.replicate (-d.point).toNat '0' ++ digits

/-- Layout with one digit before the point and a signed exponent. -/
def scientific (d : Decimal) : List Char :=
  let mantissa := match decimalDigits d.digits with
    | [] => []
    | [c] => [c]
    | c :: rest => c :: '.' :: rest
  let exponent := d.point - 1
  mantissa ++ 'e' :: (if exponent < 0 then '-' else '+') :: decimalDigits exponent.natAbs

end Decimal

namespace Binary64

/-- A minus sign for negative numbers. -/
def signText (negative : Bool) : List Char := if negative then ['-'] else []

/-- The text of a number in messages. Ties between two shortest forms go up; the sign of a NaN is
not shown. -/
def plainText : Binary64 → String
  | .nan _ => "NaN"
  | .real negative rank =>
    let magnitude :=
      if rank.val = infinityRank then ['i', 'n', 'f']
      else if rank.val = 0 then ['0']
      else (shortest .up rank.val).positional []
    String.ofList (signText negative ++ magnitude)

/-- The text of a finite number inside a JSON text. Ties between two shortest forms go to the even
digit. -/
def jsonText : Binary64 → String
  | .nan _ => "null"
  | .real negative rank =>
    if rank.val = infinityRank then "null"
    else if rank.val = 0 then String.ofList (signText negative ++ ['0', '.', '0'])
    else
      let d := shortest .even rank.val
      let magnitude :=
        if -4 ≤ d.point ∧ d.point ≤ 16 then d.positional ['.', '0'] else d.scientific
      String.ofList (signText negative ++ magnitude)

/-- The value of a list of decimal digits, most significant first. -/
def digitsValue (ds : List Char) : Nat :=
  ds.foldl (fun n c => 10 * n + (c.toNat - '0'.toNat)) 0

/-- An optional sign: whether it is a minus, and the rest. -/
def splitSign : List Char → Bool × List Char
  | '-' :: rest => (true, rest)
  | '+' :: rest => (false, rest)
  | rest => (false, rest)

/-- The value of an exponent part, which may be missing. -/
def exponentValue? : List Char → Option Int
  | [] => some 0
  | c :: rest =>
    if c = 'e' ∨ c = 'E' then
      let (negative, digits) := splitSign rest
      if digits.isEmpty || !digits.all Char.isDigit then none
      else if negative then some (-(digitsValue digits : Int))
      else some (digitsValue digits)
    else none

/-- The number of an unsigned decimal text: digits around an optional point, at least one of them,
and an optional exponent. -/
def ofUnsigned? (negative : Bool) (cs : List Char) : Option Binary64 :=
  let whole := cs.takeWhile Char.isDigit
  let afterWhole := cs.dropWhile Char.isDigit
  let (fraction, rest) := match afterWhole with
    | '.' :: tail => (tail.takeWhile Char.isDigit, tail.dropWhile Char.isDigit)
    | tail => ([], tail)
  if whole.isEmpty && fraction.isEmpty then none
  else (exponentValue? rest).map fun e =>
    ofDecimal negative (digitsValue (whole ++ fraction)) (e - fraction.length)

/-- The number written in a text: a decimal, correctly rounded, or one of the names `nan`, `inf`
and `infinity` in any case. -/
def ofText? (s : String) : Option Binary64 :=
  let (negative, rest) := splitSign s.toList
  let name := String.ofList (rest.map Char.toLower)
  if name = "nan" then some (.nan negative)
  else if name = "inf" ∨ name = "infinity" then some (ofRank negative infinityRank)
  else ofUnsigned? negative rest

end Binary64

end RecordStore
