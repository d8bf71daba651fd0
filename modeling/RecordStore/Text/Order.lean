import RecordStore.Ordering
import RecordStore.Text.Basic

/-!
# The order of texts

The order by code points is a strict total order: only equal texts compare as equal, the comparison
the other way round has the opposite outcome, and it is transitive.
-/

namespace RecordStore.Text

/-- Characters compare by their code points. -/
theorem compare_eq_compare_toNat (c d : Char) : Ord.compare c d = Ord.compare c.toNat d.toNat := by
  have less : c < d ↔ c.toNat < d.toNat := Iff.rfl
  have same : c = d ↔ c.toNat = d.toNat := Char.toNat_inj.symm
  show compareOfLessAndEq c d = compareOfLessAndEq c.toNat d.toNat
  simp only [compareOfLessAndEq, less, same]

instance : Std.TransCmp compare := transCmp_comap (List.compareLex Ord.compare) String.toList

instance : Std.LawfulEqCmp compare :=
  lawfulEqCmp_comap (List.compareLex Ord.compare) String.toList_inj.1

theorem compare_eq_iff {s t : String} : compare s t = .eq ↔ s = t :=
  Std.LawfulEqCmp.compare_eq_iff_eq

end RecordStore.Text
