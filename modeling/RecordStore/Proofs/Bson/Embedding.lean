import RecordStore.Proofs.Document.Fields

/-!
# JSON values among document values

Extended JSON gives a meaning of its own to objects whose names begin with `$`. A JSON value without
such names is none of them at any depth, so that its document value has it as its relaxed form, and
nothing of it is lost.

* `Json.isUnmarked` — no name at any depth begins with `$`;
* `Bson.relaxed_of_ofJson?` — the relaxed form of the document value of such a value.
-/

namespace RecordStore

/-! ### Marked names -/

/-- Whether a name begins with the mark of extended JSON. -/
def isMarkedName (name : String) : Bool := name.toList.head? == some '$'

namespace Json

mutual

/-- Whether no name at any depth of a value is marked. -/
def isUnmarked : Json → Bool
  | .array items => areUnmarkedItems items
  | .object members => areUnmarkedMembers members
  | _ => true

/-- Whether no name in the items of an array is marked. -/
def areUnmarkedItems : List Json → Bool
  | [] => true
  | item :: rest => isUnmarked item && areUnmarkedItems rest

/-- Whether no name in the members of an object is marked, those of the members included. -/
def areUnmarkedMembers : List (String × Json) → Bool
  | [] => true
  | (name, value) :: rest => !isMarkedName name && isUnmarked value && areUnmarkedMembers rest

end

theorem areUnmarkedMembers_iff {members : List (String × Json)} :
    areUnmarkedMembers members = true ↔
      ∀ m ∈ members, isMarkedName m.1 = false ∧ m.2.isUnmarked = true := by
  induction members with
  | nil => simp [areUnmarkedMembers]
  | cons m rest ih =>
    obtain ⟨name, value⟩ := m
    simp [areUnmarkedMembers, ih, and_assoc]

end Json

namespace Bson

/-- Every name to which extended JSON gives a meaning is marked. -/
theorem isMarkedName_of_reader {name : String}
    (h : name ∈ Members.names textReaders ∨ name ∈ Members.names readers) :
    isMarkedName name = true := by
  have marked : ∀ other ∈ Members.names textReaders ++ Members.names readers,
      isMarkedName other = true := by decide
  exact marked name (List.mem_append.2 h)

/-- Members of which no name is marked stand for nothing but a document. -/
theorem extended?_of_unmarked {members : BsonDocument}
    (h : ∀ name ∈ Members.names members, isMarkedName name = false) : extended? members = none := by
  match members with
  | [] => rfl
  | [(name, value)] =>
    have unmarked : isMarkedName name = false := h name List.mem_cons_self
    have unread (known : name ∈ Members.names textReaders ∨ name ∈ Members.names readers) :
        False := by
      rw [isMarkedName_of_reader known] at unmarked
      exact nomatch unmarked
    rw [extended?, Members.get?_eq_none_of_notMem fun known => unread (.inl known),
      Members.get?_eq_none_of_notMem fun known => unread (.inr known)]
    rfl
  | [(first, a), (second, b)] =>
    have unmarked : isMarkedName first = false := h first List.mem_cons_self
    have noCode : first ≠ "$code" := by
      rintro rfl
      exact absurd unmarked (by decide)
    have noScope : first ≠ "$scope" := by
      rintro rfl
      exact absurd unmarked (by decide)
    simp [extended?, noCode, noScope]
  | _ :: _ :: _ :: _ => rfl

/-! ### Relaxed forms -/

/-- A number is written as it was read. -/
theorem relaxed_of_number {n : JsonNumber} {value : Bson} (h : ofJson? (.number n) = some value) :
    value.relaxed = .number n := by
  cases n with
  | integer i bounded =>
    rw [ofJson?] at h
    split at h
    · next small =>
      cases h
      have kept : (Int64.ofInt i).toInt = i := Int64.toInt_ofInt_of_le bounded.1 small
      simp [relaxed, Json.ofInt64, kept]
    · cases h
  | float x finite =>
    cases h
    cases x with
    | nan negative => cases finite
    | real negative rank =>
      rw [relaxed, relaxedDouble]
      exact dif_pos finite

mutual

/-- A value without marked names is the relaxed form of its document value. -/
theorem relaxed_of_ofJson? (v : Json) {value : Bson} (unmarked : v.isUnmarked = true)
    (h : ofJson? v = some value) : value.relaxed = v := by
  match v with
  | .null => cases h; rfl
  | .bool b => cases h; rfl
  | .number n => exact relaxed_of_number h
  | .text s => cases h; rfl
  | .array items =>
    rw [ofJson?] at h
    obtain ⟨values, read, rfl⟩ := Option.map_eq_some_iff.1 h
    rw [relaxed, relaxedItems_of_ofItems? items unmarked read]
  | .object members =>
    rw [ofJson?] at h
    obtain ⟨fields, read, rfl⟩ := Option.map_eq_some_iff.1 h
    have names : ∀ name ∈ Members.names fields, isMarkedName name = false := by
      rw [names_documentOfMembers read]
      intro name mem
      obtain ⟨m, known, rfl⟩ := List.mem_map.1 mem
      exact (Json.areUnmarkedMembers_iff.1 unmarked m known).1
    rw [ofMembers, extended?_of_unmarked names, Option.getD_none, relaxed,
      relaxedMembers_of_documentOfMembers? members unmarked read]

/-- The items of an array come back as they were. -/
theorem relaxedItems_of_ofItems? (items : List Json) {values : List Bson}
    (unmarked : Json.areUnmarkedItems items = true) (h : ofItems? items = some values) :
    relaxedItems values = items := by
  match items with
  | [] => cases h; rfl
  | item :: rest =>
    rw [Json.areUnmarkedItems, Bool.and_eq_true] at unmarked
    rw [ofItems?] at h
    obtain ⟨value, first, h⟩ := Option.bind_eq_some_iff.1 h
    obtain ⟨others, later, h⟩ := Option.bind_eq_some_iff.1 h
    cases h
    rw [relaxedItems, relaxed_of_ofJson? item unmarked.1 first,
      relaxedItems_of_ofItems? rest unmarked.2 later]

/-- The members of an object come back as they were, in their order. -/
theorem relaxedMembers_of_documentOfMembers? (members : List (String × Json))
    {fields : BsonDocument} (unmarked : Json.areUnmarkedMembers members = true)
    (h : documentOfMembers? members = some fields) : relaxedMembers fields = members := by
  match members with
  | [] => cases h; rfl
  | (name, v) :: rest =>
    rw [Json.areUnmarkedMembers, Bool.and_eq_true, Bool.and_eq_true] at unmarked
    obtain ⟨value, others, first, later, rfl⟩ := documentOfMembers?_cons.1 h
    rw [relaxedMembers, relaxed_of_ofJson? v unmarked.1.2 first,
      relaxedMembers_of_documentOfMembers? rest unmarked.2 later]

end

end Bson

end RecordStore
