import RecordStore.Proofs.Members
import RecordStore.Record

/-!
# Partial updates and stamps

What a partial update and the stamps of a write do to the value of each field. No name is repeated
in a patch, so that the one entry of a name decides.

* `Record.get?_merge` — the value of a field after a partial update;
* `Record.get?_touch` — the value of a field after a stamp;
* `Record.get?_touch_merge` — the value of a field after both.
-/

namespace RecordStore.Record

theorem get?_mergeEntry (fields : Fields) (key : String) (value : FieldValue) (name : String) :
    (mergeEntry fields (key, value)).get? name =
      if key = name ∧ key ≠ "id" then (if value.isNull then none else some value)
      else fields.get? name := by
  unfold mergeEntry
  by_cases own : key = "id"
  · rw [if_pos own, if_neg (fun h => h.2 own)]
  · rw [if_neg own]
    cases null : value.isNull with
    | true =>
      have erased : (fields.erase key).get? name = if key = name then none else fields.get? name :=
        Members.get?_erase fields.nodup key name
      simp [erased, own]
    | false =>
      have set : (fields.put key value).get? name =
          if key = name then some value else fields.get? name :=
        Members.get?_put key name value fields.entries
      simp [set, own]

/-- A partial update removes the fields that it names with `null`, sets the other ones that it
names, and leaves the name of the identifier and the fields that it does not name alone. -/
theorem get?_merge (record : Record) (patch : Patch) (name : String) :
    (record.merge patch).get? name =
      if name = "id" then record.get? name
      else match patch.get? name with
        | some value => if value.isNull then none else some value
        | none => record.get? name := by
  have folded (entries : List (String × FieldValue)) (distinct : (Members.names entries).Nodup)
      (fields : Fields) : (entries.foldl mergeEntry fields).get? name =
        if name = "id" then fields.get? name
        else match Members.get? name entries with
          | some value => if value.isNull then none else some value
          | none => fields.get? name := by
    induction entries generalizing fields with
    | nil => simp [Members.get?]
    | cons entry rest ih =>
      obtain ⟨key, value⟩ := entry
      rw [Members.names_cons, List.nodup_cons] at distinct
      rw [List.foldl_cons, ih distinct.2, get?_mergeEntry, Members.get?]
      by_cases own : name = "id"
      · rw [if_pos own, if_pos own, if_neg (fun h => h.2 (h.1.trans own))]
      · rw [if_neg own, if_neg own]
        by_cases same : key = name
        · -- no later entry has this name
          rw [Members.get?_eq_none_of_notMem (same ▸ distinct.1), if_pos same]
          exact if_pos ⟨same, fun h => own (same.symm.trans h)⟩
        · rw [if_neg same]
          cases Members.get? name rest with
          | some later => rfl
          | none => exact if_neg fun h => same h.1
  exact folded patch.entries patch.nodup record.fields

/-- A partial update leaves the name of the identifier alone. -/
theorem get?_id_merge (record : Record) (patch : Patch) :
    (record.merge patch).get? "id" = record.get? "id" := by
  rw [get?_merge, if_pos rfl]

/-- A stamp sets the time of the write, and the time of creation unless there is one. -/
theorem get?_touch (record : Record) (now : Timestamp) (name : String) :
    (record.touch now).get? name =
      if name = updatedAt then some (.instant now)
      else if name = createdAt then (record.get? createdAt).or (some (.instant now))
      else record.get? name := by
  have stamped : (record.touch now).get? name = if updatedAt = name then some (.instant now) else
      (if record.fields.contains createdAt then record.fields
        else record.fields.put createdAt (.instant now)).get? name := Members.get?_put _ _ _ _
  rw [stamped]
  by_cases updated : name = updatedAt
  · rw [if_pos updated.symm, if_pos updated]
  · rw [if_neg (Ne.symm updated), if_neg updated]
    show _ = if name = createdAt then (record.fields.get? createdAt).or _
      else record.fields.get? name
    cases known : record.fields.get? createdAt with
    | some value =>
      rw [if_pos (by rw [Fields.contains, known]; rfl)]
      by_cases created : name = createdAt
      · rw [if_pos created, created, known]
        rfl
      · rw [if_neg created]
    | none =>
      rw [if_neg (by rw [Fields.contains, known]; decide)]
      have put : (record.fields.put createdAt (.instant now)).get? name =
          if createdAt = name then some (.instant now) else record.fields.get? name :=
        Members.get?_put _ _ _ _
      rw [put]
      by_cases created : name = createdAt
      · rw [if_pos created.symm, if_pos created]
        rfl
      · rw [if_neg (Ne.symm created), if_neg created]

/-- After a partial update and a stamp of a record with a time of creation: a time of creation that
was removed is stamped again. -/
theorem get?_touch_merge {record : Record} (created : (record.get? createdAt).isSome = true)
    (patch : Patch) (now : Timestamp) {name : String} (free : name ≠ "id")
    (unstamped : name ≠ updatedAt) :
    ((record.merge patch).touch now).get? name =
      match patch.get? name with
      | some value =>
        if value.isNull then (if name = createdAt then some (.instant now) else none)
        else some value
      | none => record.get? name := by
  rw [get?_touch, if_neg unstamped]
  by_cases stamp : name = createdAt
  · subst stamp
    obtain ⟨known, held⟩ := Option.isSome_iff_exists.1 created
    rw [if_pos rfl, get?_merge, if_neg free]
    cases patch.get? createdAt with
    | none => simp [held]
    | some value => cases null : value.isNull <;> simp [null]
  · rw [if_neg stamp, get?_merge, if_neg free]
    simp only [stamp, if_false]

end RecordStore.Record
