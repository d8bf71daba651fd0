import RecordStore.Error

/-!
# Pages

A page request asks for the page of a given number and size; size zero or less asks for everything
in one page. The numbers are of 32 signed bits, and all arithmetic on them is exact.

* `PageRequest.offset` — the number of items before the page;
* `PageInfo.of` — what is told about a page of so many items;
* `PageRequest.paginate` — the items of a page.
-/

namespace RecordStore

/-- A request for the page numbered `page` of `limit` items. -/
structure PageRequest where
  limit : Int32
  page : Int32
  deriving DecidableEq

/-- What is told about a page; the numbers of pages only when the request was paged. -/
structure PageInfo where
  totalItems : Nat
  totalPages : Option Nat
  currentPage : Option Nat
  hasNext : Bool
  hasPrev : Bool
  deriving DecidableEq

namespace PageRequest

/-- Everything in one page. -/
def unpaged : PageRequest := ⟨0, 1⟩

/-- Whether the request asks for a part of the items. -/
def isPaged (request : PageRequest) : Bool := 0 < request.limit.toInt

/-- The number of items on a full page. -/
def size (request : PageRequest) : Nat := request.limit.toInt.toNat

/-- The number of the page, at least one. -/
def number (request : PageRequest) : Nat := (max request.page.toInt 1).toNat

/-- The number of items before the page. -/
def offset (request : PageRequest) : Nat :=
  if request.isPaged then (request.number - 1) * request.size else 0

/-- A page request is valid if the size is not negative and the number is positive. -/
def validate (request : PageRequest) : Except StoreError Unit :=
  if request.limit.toInt < 0 then .error (QueryFault.negativeLimit request.limit.toInt).error
  else if request.page.toInt < 1 then .error (QueryFault.pageBelowOne request.page.toInt).error
  else .ok ()

end PageRequest

/-- The number of parts of size `size` that are needed for `n` items. -/
def ceilDiv (n size : Nat) : Nat := (n + size - 1) / size

/-- What is told about a page of `totalItems` items. -/
def PageInfo.of (request : PageRequest) (totalItems : Nat) : PageInfo :=
  if request.isPaged then
    let totalPages := ceilDiv totalItems request.size
    { totalItems
      totalPages := some totalPages
      currentPage := some request.number
      hasNext := request.number < totalPages
      hasPrev := 1 < request.number }
  else ⟨totalItems, none, none, false, false⟩

/-- The items of a page, none if the page is behind the last one. -/
def PageRequest.paginate {α : Type} (request : PageRequest) (items : List α) :
    List α × PageInfo :=
  let info := PageInfo.of request items.length
  if request.isPaged then ((items.drop request.offset).take request.size, info)
  else (items, info)

end RecordStore
