import Mathlib.Tactic.SplitIfs
import RecordStore.Proofs.Ordering
import RecordStore.Text.Order

/-!
# Texts as bytes

A database may keep a text as its UTF-8 bytes and compare bytes. This is the order of the code
points: the first byte of a character tells how long its code is, longer codes belong to larger code
points, and inside one length the bytes are the digits of the code point to the base 64.

* `Text.bytes`, `Text.compareBytes` — the bytes of a text, and the comparison by them;
* `Text.compareBytes_eq_compare` — it is the comparison by code points.
-/

namespace RecordStore.Text

/-- The UTF-8 bytes of a text. -/
def bytes (s : String) : List UInt8 := s.toUTF8.data.toList

/-- Compare two texts by their bytes. -/
def compareBytes (s t : String) : Ordering := List.compareLex Ord.compare (bytes s) (bytes t)

/-! ### The bytes of a character -/

/-- The bytes of a code point as numbers. -/
def units (v : Nat) : List Nat :=
  if v ≤ 0x7f then [v]
  else if v ≤ 0x7ff then [v / 64 + 0xc0, v % 64 + 0x80]
  else if v ≤ 0xffff then [v / 64 / 64 + 0xe0, v / 64 % 64 + 0x80, v % 64 + 0x80]
  else [v / 64 / 64 / 64 + 0xf0, v / 64 / 64 % 64 + 0x80, v / 64 % 64 + 0x80, v % 64 + 0x80]

theorem map_utf8EncodeChar (c : Char) :
    (String.utf8EncodeChar c).map UInt8.toNat = units c.toNat := by
  have small : c.toNat < 0x110000 := by
    have valid := c.valid
    simp only [UInt32.isValidChar, Nat.isValidChar] at valid
    show c.val.toNat < _
    omega
  show (String.utf8EncodeChar c).map _ = units c.val.toNat
  have number : c.val.toNat = c.toNat := rfl
  unfold String.utf8EncodeChar units
  simp only [number]
  split_ifs <;> simp only [List.map_cons, List.map_nil, UInt8.toNat_ofNat'] <;> congr <;> omega

theorem map_bytes (s : String) :
    (bytes s).map UInt8.toNat = s.toList.flatMap fun c => units c.toNat := by
  have encoded : bytes s = s.toList.flatMap String.utf8EncodeChar := by
    have data : s.toUTF8 = (s.toList.flatMap String.utf8EncodeChar).toByteArray :=
      String.utf8Encode_toList.symm
    rw [bytes, data, List.toList_data_toByteArray]
  rw [encoded, List.map_flatMap]
  simp only [map_utf8EncodeChar]

/-! ### The order of the codes -/

/-- The code of a smaller code point is smaller, whatever follows. -/
theorem compareLex_units_of_lt {v w : Nat} (h : v < w) (as bs : List Nat) :
    List.compareLex Ord.compare (units v ++ as) (units w ++ bs) = .lt := by
  unfold units
  split_ifs <;>
    simp only [List.cons_append, List.nil_append, List.compareLex_cons_cons, Ordering.then_eq_lt,
      Nat.compare_eq_lt, Nat.compare_eq_eq] <;>
    omega

/-- The codes of two characters decide as their code points do. -/
theorem compareLex_units (v w : Nat) (as bs : List Nat) :
    List.compareLex Ord.compare (units v ++ as) (units w ++ bs) =
      (Ord.compare v w).then (List.compareLex Ord.compare as bs) := by
  rcases Nat.lt_trichotomy v w with less | rfl | more
  · rw [compareLex_units_of_lt less, Nat.compare_eq_lt.2 less]
    rfl
  · have same : List.compareLex Ord.compare (units v) (units v) = .eq := Std.ReflCmp.compare_self
    rw [compareLex_append _ rfl, same, Nat.compare_eq_eq.2 rfl]
  · rw [Std.OrientedCmp.gt_of_lt (compareLex_units_of_lt more bs as), Nat.compare_eq_gt.2 more]
    rfl

theorem units_ne_nil (v : Nat) : units v ≠ [] := by
  unfold units
  split_ifs <;> exact List.cons_ne_nil _ _

theorem compareByte_eq (a b : UInt8) : Ord.compare a b = Ord.compare a.toNat b.toNat := by
  show compareOfLessAndEq a b = compareOfLessAndEq a.toNat b.toNat
  simp only [compareOfLessAndEq, UInt8.lt_iff_toNat_lt, UInt8.toNat_inj]

/-- **The order by bytes is the order by code points.** -/
theorem compareBytes_eq_compare (s t : String) : compareBytes s t = compare s t := by
  have numbers (as bs : List UInt8) :
      List.compareLex Ord.compare as bs =
        List.compareLex Ord.compare (as.map UInt8.toNat) (bs.map UInt8.toNat) := by
    induction as generalizing bs with
    | nil => cases bs <;> rfl
    | cons a as ih =>
      cases bs with
      | nil => rfl
      | cons b bs => simp only [List.compareLex_cons_cons, List.map_cons, ih, compareByte_eq]
  have codes (cs ds : List Char) :
      List.compareLex Ord.compare (cs.flatMap fun c => units c.toNat)
          (ds.flatMap fun c => units c.toNat) = List.compareLex Ord.compare cs ds := by
    induction cs generalizing ds with
    | nil =>
      cases ds with
      | nil => rfl
      | cons d ds =>
        obtain ⟨u, us, code⟩ := List.exists_cons_of_ne_nil (units_ne_nil d.toNat)
        simp [List.flatMap_cons, code, List.compareLex_nil_cons]
    | cons c cs ih =>
      cases ds with
      | nil =>
        obtain ⟨u, us, code⟩ := List.exists_cons_of_ne_nil (units_ne_nil c.toNat)
        simp [List.flatMap_cons, code, List.compareLex_cons_nil]
      | cons d ds =>
        rw [List.flatMap_cons, List.flatMap_cons, compareLex_units, ih, List.compareLex_cons_cons,
          compare_eq_compare_toNat]
  rw [compareBytes, numbers, map_bytes, map_bytes, codes]
  rfl

end RecordStore.Text
