import Mathlib.Data.Set.Defs
import RecordStore.Document.Basic

/-!
# The keys of documents

The key of a document is the name of its tenant and the identifier of its record with a colon
between them. A colon may also stand in either of the two, so that a key can be read in more than
one way.

* `documentKey_eq_iff` — when two records have the same key;
* `Tenant.Continues` — one tenant is named like another one, with a colon and more behind it;
* `Tenant.Separate` — tenants none of which continues another one;
* `documentKey_apart_iff` — keys tell the records of some tenants apart exactly if the tenants are
  separate.
-/

namespace RecordStore

/-! ### Two readings of a key -/

/-- A list that is split at a separator twice is split at the same place, or the parts between the
two places belong to the first part once and to the second part once. -/
theorem append_separator_eq_iff {α : Type} (c : α) {as bs as' bs' : List α} :
    as ++ c :: bs = as' ++ c :: bs' ↔
      (as = as' ∧ bs = bs') ∨
        (∃ s, as' = as ++ c :: s ∧ bs = s ++ c :: bs') ∨
        ∃ s, as = as' ++ c :: s ∧ bs' = s ++ c :: bs := by
  rw [List.append_eq_append_iff]
  constructor
  · rintro (⟨between, rfl, h⟩ | ⟨between, rfl, h⟩)
    · cases between with
      | nil => exact .inl ⟨by simp, (List.cons.inj h).2⟩
      | cons d s =>
        obtain ⟨rfl, rfl⟩ := List.cons.inj h
        exact .inr (.inl ⟨s, rfl, rfl⟩)
    · cases between with
      | nil => exact .inl ⟨by simp, (List.cons.inj h).2.symm⟩
      | cons d s =>
        obtain ⟨rfl, rfl⟩ := List.cons.inj h
        exact .inr (.inr ⟨s, rfl, rfl⟩)
  · rintro (⟨rfl, rfl⟩ | ⟨s, rfl, rfl⟩ | ⟨s, rfl, rfl⟩)
    · exact .inl ⟨[], by simp, rfl⟩
    · exact .inl ⟨c :: s, rfl, rfl⟩
    · exact .inr ⟨c :: s, rfl, rfl⟩

/-- Two records have the same key if they have the same tenant and identifier, or if the longer
tenant name goes on with a colon and what the identifier of the other record begins with. -/
theorem documentKey_eq_iff {t t' : Tenant} {i i' : String} :
    documentKey t i = documentKey t' i' ↔
      (t = t' ∧ i = i') ∨
        (∃ s, t'.name = t.name ++ ":" ++ s ∧ i = s ++ ":" ++ i') ∨
        ∃ s, t.name = t'.name ++ ":" ++ s ∧ i' = s ++ ":" ++ i := by
  obtain ⟨n⟩ := t
  obtain ⟨n'⟩ := t'
  have texts (p : List Char → Prop) : (∃ s, p s) ↔ ∃ s : String, p s.toList :=
    ⟨fun ⟨s, h⟩ => ⟨.ofList s, by simpa using h⟩, fun ⟨s, h⟩ => ⟨s.toList, h⟩⟩
  simp only [documentKey, ← String.toList_inj, String.toList_append, Tenant.mk.injEq,
    show ":".toList = [':'] from rfl, List.append_assoc, List.singleton_append,
    append_separator_eq_iff ':', texts]

/-! ### Tenants whose keys are apart -/

/-- A tenant is named like another one, with a colon and possibly more behind it. -/
def Tenant.Continues (longer shorter : Tenant) : Prop :=
  ∃ s, longer.name = shorter.name ++ ":" ++ s

theorem Tenant.Continues.ne {longer shorter : Tenant} (h : longer.Continues shorter) :
    longer ≠ shorter := by
  rintro rfl
  obtain ⟨s, h⟩ := h
  have length := congrArg String.length h
  simp only [String.length_append, show ":".length = 1 from rfl] at length
  omega

/-- A key can be read in another way only if one of the tenants continues the other one. -/
theorem continues_of_documentKey_eq {t t' : Tenant} {i i' : String}
    (h : documentKey t i = documentKey t' i') (other : ¬ (t = t' ∧ i = i')) :
    t'.Continues t ∨ t.Continues t' := by
  rcases documentKey_eq_iff.1 h with same | ⟨s, h, -⟩ | ⟨s, h, -⟩
  · exact absurd same other
  · exact .inl ⟨s, h⟩
  · exact .inr ⟨s, h⟩

/-- Every tenant that is continued has a record with the key of a record of the other tenant. -/
theorem Tenant.Continues.documentKey_eq {longer shorter : Tenant} (h : longer.Continues shorter)
    (id : String) : ∃ other, documentKey shorter other = documentKey longer id := by
  obtain ⟨s, h⟩ := h
  exact ⟨s ++ ":" ++ id, documentKey_eq_iff.2 (.inr (.inl ⟨s, h, rfl⟩))⟩

namespace Record

/-- The key of the document of a record. -/
theorem key_of_document {record : Record} {tenant : Tenant} {document : BsonDocument}
    (h : record.document tenant = .ok document) :
    Members.get? "_id" document = some (.text (documentKey tenant record.id)) := by
  unfold Record.document at h
  cases fields : record.fieldDocument with
  | error e => simp [fields, bind, Except.bind] at h
  | ok fields' =>
    simp only [fields, bind, Except.bind, Except.ok.injEq] at h
    rw [← h]
    rfl

/-- A record without fields has a document. -/
theorem document_new (id : String) (tenant : Tenant) :
    (new id).document tenant =
      .ok [("_id", .text (documentKey tenant id)), ("tenant_id", .text tenant.name),
        ("id", .text id), ("fields", .document [])] := rfl

end Record

/-- Tenants none of which continues another one. -/
def Tenant.Separate (tenants : Set Tenant) : Prop :=
  ∀ t ∈ tenants, ∀ t' ∈ tenants, ¬ t'.Continues t

theorem Tenant.Separate.eq_of_documentKey_eq {tenants : Set Tenant} (h : Separate tenants)
    {t t' : Tenant} (ht : t ∈ tenants) (ht' : t' ∈ tenants) {i i' : String}
    (same : documentKey t i = documentKey t' i') : t = t' ∧ i = i' := by
  by_cases eq : t = t' ∧ i = i'
  · exact eq
  · rcases continues_of_documentKey_eq same eq with continues | continues
    · exact absurd continues (h t ht t' ht')
    · exact absurd continues (h t' ht' t ht)

/-- Keys tell apart the records of some tenants exactly if no tenant of them continues another one.
Then, and only then, looking up the key of a record of one of the tenants reaches no document but
the one of that record. -/
theorem documentKey_apart_iff (tenants : Set Tenant) :
    ((∀ t ∈ tenants, ∀ t' ∈ tenants, ∀ i i',
        documentKey t i = documentKey t' i' → t = t' ∧ i = i') ↔ Tenant.Separate tenants) ∧
    ((∀ t ∈ tenants, ∀ t' ∈ tenants, ∀ (i : String) (record : Record) (document : BsonDocument),
        record.document t' = .ok document →
          Members.get? "_id" document = some (.text (documentKey t i)) →
            t' = t ∧ record.id = i) ↔ Tenant.Separate tenants) := by
  constructor
  · constructor
    · intro injective t ht t' ht' continues
      obtain ⟨other, same⟩ := continues.documentKey_eq ""
      exact continues.ne (injective t ht t' ht' other "" same).1.symm
    · intro separate t ht t' ht' i i' same
      exact separate.eq_of_documentKey_eq ht ht' same
  · constructor
    · intro reaches t ht t' ht' continues
      obtain ⟨other, same⟩ := continues.documentKey_eq ""
      have document := Record.document_new "" t'
      have found := (Record.key_of_document document).trans
        (congrArg (fun key => some (Bson.text key)) same.symm)
      exact continues.ne (reaches t ht t' ht' other _ _ document found).1
    · intro separate t ht t' ht' i record document h found
      rw [Record.key_of_document h] at found
      have same : documentKey t' record.id = documentKey t i := by simpa using found
      exact separate.eq_of_documentKey_eq ht' ht same

/-- Keys do not tell all records apart: the tenant `a` that looks up `b:c` reaches the record `c` of
the tenant `a:b`. -/
theorem documentKey_not_injective :
    let own : Tenant := ⟨"a"⟩
    let other : Tenant := ⟨"a:b"⟩
    own ≠ other ∧ documentKey own "b:c" = documentKey other "c" ∧
      ∃ document, (Record.new "c").document other = .ok document ∧
        Members.get? "_id" document = some (.text (documentKey own "b:c")) := by
  refine ⟨by decide, by decide, _, rfl, ?_⟩
  exact congrArg (fun key => some (Bson.text key)) (by decide)

end RecordStore
