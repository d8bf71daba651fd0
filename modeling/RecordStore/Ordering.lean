/-!
# Comparisons by a view

Comparisons are functions into `Ordering`, with the laws of the library's `Std.TransCmp` and its
relatives. Values that are compared by a view of them have the laws of the comparison of the views.
-/

namespace RecordStore

open Std

variable {α β : Type} (cmp : β → β → Ordering)

theorem orientedCmp_comap [h : OrientedCmp cmp] (f : α → β) :
    OrientedCmp fun a b => cmp (f a) (f b) where
  eq_swap := h.eq_swap

theorem transCmp_comap [h : TransCmp cmp] (f : α → β) : TransCmp fun a b => cmp (f a) (f b) where
  eq_swap := h.eq_swap
  isLE_trans := h.isLE_trans

theorem lawfulEqCmp_comap [h : LawfulEqCmp cmp] {f : α → β} (hf : ∀ {a b}, f a = f b → a = b) :
    LawfulEqCmp fun a b => cmp (f a) (f b) where
  compare_self := h.compare_self
  eq_of_compare same := hf (h.eq_of_compare same)

end RecordStore
