/-!
# Lists of named members

The members of an object or record are a list of names with values, in the order in which the names
first appeared. This module has the operations on such lists; a list in which no name is repeated
stays one under all of them.

* `Members.get?`, `Members.only?`, `Members.contains`, `Members.names` — reading;
* `Members.put` — replace the value in place, or append a new member;
* `Members.erase` — remove a member, the others keep their order;
* `Members.vacate` — remove a member, the last one moves into its place;
* `Members.distinct` — of a repeated name keep the first place and the last value.
-/

namespace RecordStore.Members

variable {α β : Type}

/-- The value of the first member with this name. -/
def get? (name : String) : List (String × α) → Option α
  | [] => none
  | (key, value) :: rest => if key = name then some value else get? name rest

/-- The value of a name that stands at most once: a failure if it is repeated. -/
def only? (name : String) (members : List (String × α)) : Option (Option α) :=
  match members.filter fun m => m.1 == name with
  | [] => some none
  | [(_, value)] => some (some value)
  | _ => none

/-- The names in order. -/
def names (members : List (String × α)) : List String := members.map Prod.fst

/-- Whether some member has this name. -/
def contains (name : String) (members : List (String × α)) : Bool := (get? name members).isSome

/-- Give the name a value: in place if it is there already, else as a new last member. -/
def put (name : String) (value : α) : List (String × α) → List (String × α)
  | [] => [(name, value)]
  | (key, old) :: rest =>
    if key = name then (key, value) :: rest else (key, old) :: put name value rest

/-- Remove the member of this name; the others keep their order. -/
def erase (name : String) : List (String × α) → List (String × α)
  | [] => []
  | (key, value) :: rest => if key = name then rest else (key, value) :: erase name rest

/-- Remove the member of this name and move the last member into its place. -/
def vacate (name : String) : List (String × α) → List (String × α)
  | [] => []
  | (key, value) :: rest =>
    if key = name then
      match rest.getLast? with
      | none => []
      | some last => last :: rest.dropLast
    else (key, value) :: vacate name rest

/-- Add members one after the other. -/
def putAll (base : List (String × α)) : List (String × α) → List (String × α)
  | [] => base
  | (name, value) :: rest => putAll (put name value base) rest

/-- Keep the first place and the last value of every name. -/
def distinct (members : List (String × α)) : List (String × α) := putAll [] members

/-- Change every value, keeping names and order. -/
def mapValues (f : α → β) (members : List (String × α)) : List (String × β) :=
  members.map fun m => (m.1, f m.2)

@[simp] theorem names_nil : names ([] : List (String × α)) = [] := rfl

@[simp] theorem names_cons (m : String × α) (rest : List (String × α)) :
    names (m :: rest) = m.1 :: names rest := rfl

@[simp] theorem names_mapValues (f : α → β) (members : List (String × α)) :
    names (mapValues f members) = names members := by
  simp [names, mapValues, Function.comp_def]

theorem mem_names_put {name other : String} {value : α} {members : List (String × α)} :
    other ∈ names (put name value members) ↔ other = name ∨ other ∈ names members := by
  induction members with
  | nil => simp [put]
  | cons m rest ih =>
    obtain ⟨key, old⟩ := m
    by_cases h : key = name
    · simp [put, h]
    · simp only [put, h, if_false, names_cons, List.mem_cons, ih]
      constructor
      · rintro (h | h | h) <;> simp [h]
      · rintro (h | h | h) <;> simp [h]

theorem nodup_put {name : String} {value : α} {members : List (String × α)}
    (h : (names members).Nodup) : (names (put name value members)).Nodup := by
  induction members with
  | nil => simp [put]
  | cons m rest ih =>
    obtain ⟨key, old⟩ := m
    rw [names_cons, List.nodup_cons] at h
    by_cases hk : key = name
    · simpa [put, hk] using ⟨hk ▸ h.1, h.2⟩
    · simp only [put, hk, if_false, names_cons, List.nodup_cons]
      refine ⟨fun hm => ?_, ih h.2⟩
      rcases mem_names_put.1 hm with rfl | hm
      · exact hk rfl
      · exact h.1 hm

theorem mem_names_of_mem_erase {name other : String} {members : List (String × α)}
    (h : other ∈ names (erase name members)) : other ∈ names members := by
  induction members with
  | nil => exact h
  | cons m rest ih =>
    obtain ⟨key, old⟩ := m
    by_cases hk : key = name
    · simp only [erase, hk, if_true] at h
      simp [h]
    · simp only [erase, hk, if_false, names_cons, List.mem_cons] at h ⊢
      exact h.imp_right ih

theorem nodup_erase {name : String} {members : List (String × α)}
    (h : (names members).Nodup) : (names (erase name members)).Nodup := by
  induction members with
  | nil => exact h
  | cons m rest ih =>
    obtain ⟨key, old⟩ := m
    rw [names_cons, List.nodup_cons] at h
    by_cases hk : key = name
    · simpa [erase, hk] using h.2
    · simp only [erase, hk, if_false, names_cons, List.nodup_cons]
      exact ⟨fun hm => h.1 (mem_names_of_mem_erase hm), ih h.2⟩

theorem nodup_putAll {base members : List (String × α)}
    (h : (names base).Nodup) : (names (putAll base members)).Nodup := by
  induction members generalizing base with
  | nil => exact h
  | cons m rest ih => exact ih (nodup_put h)

theorem nodup_distinct (members : List (String × α)) : (names (distinct members)).Nodup :=
  nodup_putAll (by simp)

end RecordStore.Members
