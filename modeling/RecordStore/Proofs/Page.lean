import Mathlib.Order.Bounds.Basic
import RecordStore.Proofs.List.Native

/-!
# The arithmetic of pages

The numbers of a page can be computed in words of 64 bits: no step leaves their range, whatever the
page and the limit are, and none divides by zero. A page has the items at its places, as far as there
are any, it has a next page just if there are items behind it, and the pages that are seen by asking
for the next one as long as there is one are the whole list in order.

* `PageRequest.paginateInWords?_eq` — the computation in words;
* `PageRequest.isLeast_ceilDiv`, `PageRequest.hasNext_iff` — the number of pages, and the last one;
* `PageRequest.Visits` — asking for one page after the other;
* `PageRequest.paginate_arithmetic` — pages and their numbers.
-/

namespace RecordStore

/-! ### The number of pages -/

section Count

variable {n size : Nat}

/-- The number of parts is the least one that is enough. -/
theorem isLeast_ceilDiv (positive : 0 < size) : IsLeast {t | n ≤ t * size} (ceilDiv n size) := by
  refine ⟨PageRequest.le_ceilDiv_mul n positive, fun t enough => ?_⟩
  have above : n + size - 1 < (t + 1) * size := by
    have : n ≤ t * size := enough
    rw [Nat.succ_mul]
    omega
  exact Nat.le_of_lt_succ ((Nat.div_lt_iff_lt_mul positive).2 above)

/-- There are more parts than a number of them just if these leave something over. -/
theorem lt_ceilDiv_iff (positive : 0 < size) {t : Nat} : t < ceilDiv n size ↔ t * size < n := by
  rw [← Nat.not_le, ← Nat.not_le]
  refine not_congr ⟨fun le => ?_, fun enough => (isLeast_ceilDiv positive).2 enough⟩
  exact Nat.le_trans (isLeast_ceilDiv positive).1 (Nat.mul_le_mul_right size le)

/-- A quotient is rounded up by one where the division leaves a remainder. -/
theorem ceilDiv_eq_div_add (positive : 0 < size) :
    ceilDiv n size = n / size + if 0 < n % size then 1 else 0 := by
  have whole := Nat.div_add_mod n size
  have rest := Nat.mod_lt n positive
  unfold ceilDiv
  split
  · have above : n + size - 1 = n % size - 1 + size * (n / size + 1) := by
      rw [Nat.mul_succ]
      omega
    rw [above, Nat.add_mul_div_left _ _ positive, Nat.div_eq_of_lt (by omega), Nat.zero_add]
  · have above : n + size - 1 = size - 1 + size * (n / size) := by omega
    rw [above, Nat.add_mul_div_left _ _ positive, Nat.div_eq_of_lt (by omega), Nat.zero_add,
      Nat.add_zero]

theorem ceilDiv_le_self (positive : 0 < size) : ceilDiv n size ≤ n :=
  (isLeast_ceilDiv positive).2 (Nat.le_mul_of_pos_right n positive)

end Count

/-! ### Words -/

namespace Word

/-- The word of a number of 32 signed bits, which repeats the sign in the upper bits. -/
def ofInt32 (i : Int32) : UInt64 := i.toInt64.toUInt64

/-- The sum of two words, if it is a word. -/
def add? (a b : UInt64) : Option UInt64 := if a.toNat + b.toNat < 2 ^ 64 then some (a + b) else none

/-- The difference of two words, if it is a word. -/
def sub? (a b : UInt64) : Option UInt64 := if b ≤ a then some (a - b) else none

/-- The product of two words, if it is a word. -/
def mul? (a b : UInt64) : Option UInt64 := if a.toNat * b.toNat < 2 ^ 64 then some (a * b) else none

/-- The quotient of two words rounded up, if the divisor is not zero. -/
def ceilDiv? (a b : UInt64) : Option UInt64 :=
  if b = 0 then none else if 0 < a % b then add? (a / b) 1 else some (a / b)

theorem toNat_ofNat {n : Nat} (small : n < 2 ^ 64) : (UInt64.ofNat n).toNat = n :=
  UInt64.toNat_ofNat_of_lt' small

theorem ofInt32_eq {i : Int32} (positive : 0 ≤ i.toInt) :
    ofInt32 i = .ofNat i.toInt.toNat := by
  have wide : i.toInt64 = .ofNat i.toInt.toNat := by
    rw [← Int64.toInt_inj, Int32.toInt_toInt64, Int64.toInt_ofNat_of_lt]
    · omega
    · have := i.toInt_lt
      omega
  rw [ofInt32, wide, Int64.toUInt64_ofNat']

theorem add?_eq {m n : Nat} (fits : m + n < 2 ^ 64) :
    add? (.ofNat m) (.ofNat n) = some (.ofNat (m + n)) := by
  rw [add?, toNat_ofNat (by omega), toNat_ofNat (by omega), if_pos fits, UInt64.ofNat_add]

theorem sub?_eq {m n : Nat} (small : m < 2 ^ 64) (le : n ≤ m) :
    sub? (.ofNat m) (.ofNat n) = some (.ofNat (m - n)) := by
  have ordered : UInt64.ofNat n ≤ UInt64.ofNat m := by
    rwa [UInt64.le_iff_toNat_le, toNat_ofNat (Nat.lt_of_le_of_lt le small), toNat_ofNat small]
  rw [sub?, if_pos ordered, UInt64.ofNat_sub le]

theorem mul?_eq {m n : Nat} (small : m < 2 ^ 64) (small' : n < 2 ^ 64) (fits : m * n < 2 ^ 64) :
    mul? (.ofNat m) (.ofNat n) = some (.ofNat (m * n)) := by
  rw [mul?, toNat_ofNat small, toNat_ofNat small', if_pos fits, UInt64.ofNat_mul]

theorem ceilDiv?_eq {m n : Nat} (small : m < 2 ^ 64) (small' : n < 2 ^ 64) (positive : 0 < n) :
    ceilDiv? (.ofNat m) (.ofNat n) = some (.ofNat (ceilDiv m n)) := by
  have nonzero : UInt64.ofNat n ≠ 0 := by
    rw [Ne, ← UInt64.toNat_inj, toNat_ofNat small']
    exact Nat.ne_of_gt positive
  have rest : 0 < UInt64.ofNat m % UInt64.ofNat n ↔ 0 < m % n := by
    rw [UInt64.lt_iff_toNat_lt, UInt64.toNat_mod, toNat_ofNat small, toNat_ofNat small']
    rfl
  rw [ceilDiv?, if_neg nonzero, ← UInt64.ofNat_div small small', ceilDiv_eq_div_add positive]
  simp only [rest]
  split
  · next more =>
    refine @add?_eq (m / n) 1 ?_
    -- a remainder is left by no division by one
    have two : 2 ≤ n := by
      by_contra one
      have : n = 1 := by omega
      subst this
      omega
    have := Nat.div_le_div_left two Nat.two_pos (a := m)
    omega
  · rfl

theorem toInt_max (a b : Int32) : (max a b).toInt = max a.toInt b.toInt := by
  show (if a ≤ b then b else a).toInt = _
  split
  · next le =>
    have := Int32.le_iff_toInt_le.1 le
    omega
  · next gt =>
    rw [Int32.le_iff_toInt_le] at gt
    omega

end Word

/-! ### Pages in words -/

namespace PageRequest

variable {α : Type} {request : PageRequest} {items : List α}

/-- The number of items before the page, computed in words. -/
def offsetInWords? (request : PageRequest) : Option UInt64 :=
  if request.limit ≤ 0 then some 0
  else do
    let before ← Word.sub? (Word.ofInt32 (max request.page 1)) 1
    Word.mul? before (Word.ofInt32 request.limit)

/-- What is told about a page, computed in words. -/
def infoInWords? (request : PageRequest) (totalItems : UInt64) : Option PageInfo :=
  if 0 < request.limit then do
    let limit := Word.ofInt32 request.limit
    let page := Word.ofInt32 (max request.page 1)
    let totalPages ← Word.ceilDiv? totalItems limit
    some ⟨totalItems.toNat, some totalPages.toNat, some page.toNat, page < totalPages, 1 < page⟩
  else some ⟨totalItems.toNat, none, none, false, false⟩

/-- The items of a page, computed in words. -/
def paginateInWords? (request : PageRequest) (items : List α) : Option (List α × PageInfo) := do
  let info ← request.infoInWords? (.ofNat items.length)
  if 0 < request.limit then
    let offset ← request.offsetInWords?
    some ((items.drop offset.toNat).take (Word.ofInt32 request.limit).toNat, info)
  else some (items, info)

theorem isPaged_iff : request.isPaged = true ↔ 0 < request.limit := by
  rw [isPaged, decide_eq_true_eq, Int32.lt_iff_toInt_lt]
  rfl

theorem number_bounds (request : PageRequest) : 1 ≤ request.number ∧ request.number < 2 ^ 31 := by
  have := request.page.toInt_lt
  unfold number
  omega

theorem size_bounds (paged : request.isPaged = true) :
    1 ≤ request.size ∧ request.size < 2 ^ 31 := by
  have := request.limit.toInt_lt
  have positive : 0 < request.limit.toInt := by simpa [isPaged] using paged
  unfold size
  omega

theorem ofInt32_page (request : PageRequest) :
    Word.ofInt32 (max request.page 1) = .ofNat request.number := by
  have larger : (max request.page 1).toInt = max request.page.toInt 1 := Word.toInt_max _ _
  rw [Word.ofInt32_eq (by omega), larger, number]

theorem ofInt32_limit (paged : request.isPaged = true) :
    Word.ofInt32 request.limit = .ofNat request.size := by
  have positive : 0 < request.limit.toInt := by simpa [isPaged] using paged
  rw [Word.ofInt32_eq (by omega), size]

/-- No step to the number of items before a page leaves the range of words. -/
theorem offsetInWords?_eq (request : PageRequest) :
    request.offsetInWords? = some (.ofNat request.offset) := by
  cases paged : request.isPaged with
  | false =>
    have unpaged : request.limit ≤ 0 := by
      rw [← Int32.not_lt, ← isPaged_iff, paged]
      exact Bool.false_ne_true
    rw [offsetInWords?, if_pos unpaged, offset, paged]
    rfl
  | true =>
    have positive : ¬ request.limit ≤ 0 := by rwa [Int32.not_le, ← isPaged_iff]
    obtain ⟨first, page⟩ := request.number_bounds
    have limit := (size_bounds paged).2
    have product : request.offset = (request.number - 1) * request.size := by
      rw [offset, if_pos paged]
    have fits := request.offset_lt
    rw [product] at fits
    have before : Word.sub? (.ofNat request.number) 1 = some (.ofNat (request.number - 1)) :=
      @Word.sub?_eq request.number 1 (by omega) first
    rw [offsetInWords?, if_neg positive, ofInt32_page, before, ofInt32_limit paged, product]
    exact Word.mul?_eq (by omega) (by omega) (by omega)

/-- No step to what is told about a page leaves the range of words or divides by zero. -/
theorem infoInWords?_eq {totalItems : Nat} (fits : totalItems < 2 ^ 64) :
    request.infoInWords? (.ofNat totalItems) = some (PageInfo.of request totalItems) := by
  rw [infoInWords?, Word.toNat_ofNat fits, PageInfo.of]
  cases paged : request.isPaged with
  | false => rw [if_neg (by rw [← isPaged_iff, paged]; exact Bool.false_ne_true), if_neg (by decide)]
  | true =>
    obtain ⟨first, page⟩ := request.number_bounds
    obtain ⟨positive, limit⟩ := size_bounds paged
    have few : ceilDiv totalItems request.size ≤ totalItems := ceilDiv_le_self positive
    have number : (UInt64.ofNat request.number).toNat = request.number :=
      Word.toNat_ofNat (by omega)
    have pages : (UInt64.ofNat (ceilDiv totalItems request.size)).toNat =
        ceilDiv totalItems request.size := Word.toNat_ofNat (by omega)
    rw [if_pos (isPaged_iff.1 paged), if_pos rfl, ofInt32_page, ofInt32_limit paged]
    simp [Word.ceilDiv?_eq fits (by omega) positive, UInt64.lt_iff_toNat_lt, number, pages]

theorem paginateInWords?_eq (fits : items.length < 2 ^ 64) :
    request.paginateInWords? items = some (request.paginate items) := by
  rw [paginateInWords?, infoInWords?_eq fits, paginate]
  cases paged : request.isPaged with
  | false =>
    have unpaged : ¬ 0 < request.limit := by
      rw [← isPaged_iff, paged]
      exact Bool.false_ne_true
    simp [unpaged]
  | true =>
    have limit := (size_bounds paged).2
    have offset := request.offset_lt
    have before : (UInt64.ofNat request.offset).toNat = request.offset :=
      Word.toNat_ofNat (by omega)
    have width : (UInt64.ofNat request.size).toNat = request.size := Word.toNat_ofNat (by omega)
    simp [isPaged_iff.1 paged, offsetInWords?_eq, ofInt32_limit paged, before, width]

/-! ### The places of a page -/

/-- The items at `size` places from `offset` on, as far as there are any. -/
def window (items : List α) (offset size : Nat) : List α :=
  (List.range' offset size).filterMap (items[·]?)

theorem window_eq (items : List α) (offset size : Nat) :
    window items offset size = (items.drop offset).take size :=
  (take_drop_eq_filterMap items offset size).symm

/-- There are items at some of the places just if there is one at the first of them. -/
theorem window_ne_nil_iff {offset size : Nat} (positive : 0 < size) :
    window items offset size ≠ [] ↔ offset < items.length := by
  rw [window_eq, Ne, List.take_eq_nil_iff, List.drop_eq_nil_iff]
  omega

/-- The windows from the first one on make up the list when they reach its end. -/
theorem flatten_windows {size count : Nat} (enough : items.length ≤ count * size) :
    ((List.range count).map fun i => window items (i * size) size).flatten = items := by
  have width (i : Nat) :
      window items (i * size) size = items.extract (i * size) ((i + 1) * size) := by
    rw [window_eq, List.extract_eq_take_drop, Nat.succ_mul, Nat.add_sub_cancel_left]
  simp only [width]
  rw [← List.flatMap_def, flatMap_windows, List.take_of_length_le enough]

theorem paginate_eq_of_unpaged (unpaged : request.limit.toInt ≤ 0) (items : List α) :
    request.paginate items = (items, ⟨items.length, none, none, false, false⟩) := by
  have paged : request.isPaged = false := by simpa [isPaged] using unpaged
  simp [paginate, PageInfo.of, paged]

theorem paginate_eq (paged : 0 < request.limit.toInt) (items : List α) :
    request.paginate items =
      (window items ((request.number - 1) * request.size) request.size,
        ⟨items.length, some (ceilDiv items.length request.size), some request.number,
          request.number < ceilDiv items.length request.size, 1 < request.number⟩) := by
  have paged : request.isPaged = true := by simpa [isPaged] using paged
  simp [paginate, PageInfo.of, offset, paged, window_eq]

/-- There is a next page just if there are items at its places. -/
theorem hasNext_iff (paged : 0 < request.limit.toInt) :
    (request.paginate items).2.hasNext = true ↔
      window items (request.number * request.size) request.size ≠ [] := by
  have positive : 0 < request.size := (size_bounds (by simpa [isPaged] using paged)).1
  rw [paginate_eq paged, window_ne_nil_iff positive, decide_eq_true_eq, lt_ceilDiv_iff positive]

/-! ### One page after the other -/

/-- The pages that are seen by asking for a page and, as long as there is a next one, for that. -/
inductive Visits (limit : Int32) (items : List α) : Int32 → List (List α) → Prop
  | last {page : Int32}
      (done : ((PageRequest.mk limit page).paginate items).2.hasNext = false) :
      Visits limit items page [((PageRequest.mk limit page).paginate items).1]
  | next {page : Int32} {later : List (List α)}
      (more : ((PageRequest.mk limit page).paginate items).2.hasNext = true)
      (rest : Visits limit items (page + 1) later) :
      Visits limit items page (((PageRequest.mk limit page).paginate items).1 :: later)

/-- There are no two ways to ask. -/
theorem Visits.unique {limit page : Int32} {seen others : List (List α)}
    (h : Visits limit items page seen) (h' : Visits limit items page others) : seen = others := by
  induction h generalizing others with
  | last done =>
    cases h' with
    | last => rfl
    | next more => exact absurd (done.symm.trans more) Bool.false_ne_true
  | next more rest ih =>
    cases h' with
    | last done => exact absurd (done.symm.trans more) Bool.false_ne_true
    | next _ rest' => rw [ih rest']

/-- From a page to the last one all pages are seen. -/
theorem visits_windows {limit : Int32} (paged : 0 < limit.toInt) {last : Nat}
    (ends : last = max 1 (ceilDiv items.length limit.toInt.toNat)) (few : last < 2 ^ 31) (left : Nat)
    {page : Nat} (positive : 0 < page) (reach : page + left = last) :
    Visits limit items (.ofNat page) ((List.range' (page - 1) (left + 1)).map fun i =>
      window items (i * limit.toInt.toNat) limit.toInt.toNat) := by
  have asked {page : Nat} (positive : 0 < page) (small : page < 2 ^ 31) :
      (PageRequest.mk limit (.ofNat page)).paginate items =
        (window items ((page - 1) * limit.toInt.toNat) limit.toInt.toNat,
          ⟨items.length, some (ceilDiv items.length limit.toInt.toNat), some page,
            page < ceilDiv items.length limit.toInt.toNat, 1 < page⟩) := by
    rw [paginate_eq paged, number_ofNat limit positive small]
    rfl
  induction left generalizing page with
  | zero =>
    have here := asked positive (by omega)
    have done : ((PageRequest.mk limit (.ofNat page)).paginate items).2.hasNext = false := by
      rw [here, decide_eq_false_iff_not]
      omega
    have seen := Visits.last done
    rwa [here] at seen
  | succ left ih =>
    have here := asked positive (by omega)
    have more : ((PageRequest.mk limit (.ofNat page)).paginate items).2.hasNext = true := by
      rw [here, decide_eq_true_eq]
      omega
    have later := @ih (page + 1) (Nat.succ_pos page) (by omega)
    rw [Int32.ofNat_add] at later
    have seen := Visits.next more later
    rw [here] at seen
    rw [List.range'_succ, List.map_cons]
    have place : page - 1 + 1 = page + 1 - 1 := by omega
    rwa [place]

/-- Asking for one page after the other comes to an end and shows the whole list, if the number of
its pages is one of 32 signed bits. -/
theorem exists_visits {limit : Int32} (paged : 0 < limit.toInt) (items : List α)
    (few : ceilDiv items.length limit.toInt.toNat < 2 ^ 31) :
    ∃ seen, Visits limit items 1 seen ∧ (∀ others, Visits limit items 1 others → others = seen) ∧
      seen.flatten = items ∧ seen.length = max 1 (ceilDiv items.length limit.toInt.toNat) := by
  have positive : 0 < limit.toInt.toNat := by omega
  obtain ⟨left, last⟩ : ∃ left, 1 + left = max 1 (ceilDiv items.length limit.toInt.toNat) :=
    ⟨max 1 (ceilDiv items.length limit.toInt.toNat) - 1, by omega⟩
  have seen := visits_windows paged rfl (by omega) left Nat.one_pos last
  rw [Nat.add_comm 1 left] at last
  rw [Nat.sub_self, ← List.range_eq_range', last] at seen
  have enough : items.length ≤
      max 1 (ceilDiv items.length limit.toInt.toNat) * limit.toInt.toNat :=
    Nat.le_trans (isLeast_ceilDiv positive).1 (Nat.mul_le_mul_right _ (Nat.le_max_right _ _))
  exact ⟨_, seen, fun others other => other.unique seen, flatten_windows enough, by simp⟩

/-- **Pages.** Whatever the page and the limit are, the page and the number of items before it can be
computed in words of 64 bits. Without a positive limit the page is the whole list, and nothing is
told but its length. With one, the page has the items at its places as far as there are any, the
page before the first one being the first one, too. Its number of pages is the least one that is
enough; there is a next page just if there are items at the places of the next one, and a previous
one just if the page is behind the first. Asking for the next page as long as there is one shows
each item once, in order, and comes to an end after the last page, or after one empty page. -/
theorem paginate_arithmetic (request : PageRequest) (items : List α)
    (fits : items.length < 2 ^ 64) :
    request.offsetInWords? = some (.ofNat request.offset) ∧ request.offset < 2 ^ 64 ∧
    request.paginateInWords? items = some (request.paginate items) ∧
    (request.limit.toInt ≤ 0 → request.offset = 0 ∧
      request.paginate items = (items, ⟨items.length, none, none, false, false⟩)) ∧
    (0 < request.limit.toInt →
      request.offset = (request.number - 1) * request.size ∧
      ∃ totalPages hasNext hasPrev,
        request.paginate items =
          (window items request.offset request.size,
            ⟨items.length, some totalPages, some request.number, hasNext, hasPrev⟩) ∧
        IsLeast {t | items.length ≤ t * request.size} totalPages ∧
        (hasNext = true ↔ window items (request.number * request.size) request.size ≠ []) ∧
        (hasPrev = true ↔ 1 < request.page.toInt) ∧
        (totalPages < 2 ^ 31 → ∃ seen, Visits request.limit items 1 seen ∧
          (∀ others, Visits request.limit items 1 others → others = seen) ∧
          seen.flatten = items ∧ seen.length = max 1 totalPages)) := by
  refine ⟨request.offsetInWords?_eq, Nat.lt_trans request.offset_lt (by decide),
    paginateInWords?_eq fits, fun unpaged => ⟨?_, paginate_eq_of_unpaged unpaged items⟩,
    fun paged => ?_⟩
  · have unpaged : request.isPaged = false := by simpa [isPaged] using unpaged
    simp [offset, unpaged]
  · have isPaged : request.isPaged = true := by simpa [isPaged] using paged
    have positive : 0 < request.size := (size_bounds isPaged).1
    have product : request.offset = (request.number - 1) * request.size := by
      rw [offset, if_pos isPaged]
    have next : (request.paginate items).2.hasNext = true ↔
        window items (request.number * request.size) request.size ≠ [] := hasNext_iff paged
    rw [paginate_eq paged] at next
    refine ⟨product, _, _, _, product ▸ paginate_eq paged items, isLeast_ceilDiv positive, next, ?_,
      fun few => ?_⟩
    · rw [decide_eq_true_eq, number]
      omega
    · exact exists_visits paged items few

/-- A list for three pages, of which the last one is not full. -/
def week : List String := ["Mon", "Tue", "Wed", "Thu", "Fri", "Sat", "Sun"]

theorem week_on_three_pages :
    week.length < 2 ^ 64 ∧ (window week 6 3 = ["Sun"]) ∧
      ∃ seen, Visits 3 week 1 seen ∧ seen.flatten = week ∧ seen.length = 3 := by
  have fits : week.length < 2 ^ 64 := by decide
  obtain ⟨-, -, -, -, paged⟩ := paginate_arithmetic ⟨3, 1⟩ week fits
  obtain ⟨-, totalPages, _, _, page, -, -, -, visits⟩ := paged (by decide)
  have three : totalPages = 3 := by
    have told := congrArg (fun answer => answer.2.totalPages) page
    exact (Option.some.inj told).symm
  subst three
  obtain ⟨seen, visited, -, whole, length⟩ := visits (by decide)
  exact ⟨fits, rfl, seen, visited, whole, length⟩

end PageRequest

end RecordStore
