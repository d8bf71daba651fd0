import RecordStore.Json.Basic
import RecordStore.Proofs.Members

/-!
# JSON values without repeated names

Making the names in a value distinct changes nothing where they are distinct already, at any depth,
so that it changes nothing when it is done again. Arrays stay arrays, and objects stay objects.

* `Json.distinctMembers_eq_self`, `Json.distinct_distinct`, `Json.distinct_object_iff` — values that
  stay as they are;
* `Json.isScalar` — what is neither an array nor an object.
-/

namespace RecordStore

namespace Json

theorem distinctMembers_eq_self {members : List (String × Json)}
    (h : ∀ m ∈ members, m.2.distinct = m.2) : distinctMembers members = members := by
  induction members with
  | nil => rfl
  | cons m rest ih =>
    obtain ⟨first, others⟩ := List.forall_mem_cons.1 h
    obtain ⟨name, value⟩ := m
    rw [distinctMembers, first, ih others]

mutual

/-- A value in which no name is repeated stays as it is. -/
theorem distinct_distinct (v : Json) : v.distinct.distinct = v.distinct := by
  match v with
  | .null | .bool _ | .number _ | .text _ => rfl
  | .array items => rw [distinct, distinct, distinctItems_distinctItems]
  | .object members =>
    have kept : distinctMembers (Members.distinct (distinctMembers members)) =
        Members.distinct (distinctMembers members) :=
      distinctMembers_eq_self fun m mem =>
        distinct_of_mem_distinctMembers members m (Members.mem_of_mem_distinct mem)
    rw [distinct, distinct, kept, Members.distinct_of_nodup (Members.nodup_distinct _)]

theorem distinctItems_distinctItems (items : List Json) :
    distinctItems (distinctItems items) = distinctItems items := by
  match items with
  | [] => rfl
  | item :: rest =>
    rw [distinctItems, distinctItems, distinct_distinct item, distinctItems_distinctItems rest]

theorem distinct_of_mem_distinctMembers (members : List (String × Json)) (m : String × Json)
    (mem : m ∈ distinctMembers members) : m.2.distinct = m.2 := by
  match members with
  | [] => cases mem
  | (name, value) :: rest =>
    rcases List.mem_cons.1 mem with rfl | later
    · exact distinct_distinct value
    · exact distinct_of_mem_distinctMembers rest m later

end

/-- An object stays as it is if its names are different and its values stay as they are. -/
theorem distinct_object_iff {members : List (String × Json)} :
    (object members).distinct = .object members ↔
      (Members.names members).Nodup ∧ ∀ m ∈ members, m.2.distinct = m.2 := by
  rw [distinct, object.injEq]
  constructor
  · intro kept
    refine ⟨kept ▸ Members.nodup_distinct _, fun m mem => ?_⟩
    rw [← kept] at mem
    exact distinct_of_mem_distinctMembers members m (Members.mem_of_mem_distinct mem)
  · rintro ⟨names, values⟩
    rw [distinctMembers_eq_self values, Members.distinct_of_nodup names]

/-- Whether a value is neither an array nor an object. -/
def isScalar : Json → Bool
  | .array _ => false
  | .object _ => false
  | _ => true

theorem isScalar_distinct (v : Json) : v.distinct.isScalar = v.isScalar := by
  cases v <;> rfl

end Json

end RecordStore
