import Mathlib.Data.List.Nodup
import RecordStore.Proofs.Payload
import RecordStore.Proofs.Record.Merge

/-!
# Laws of partial updates

A partial update takes out the fields that it removes, leaves the others where they are, and appends
those that are new in its own order. Two updates one after the other give the fields of the one
update in which the entries of the second lie over those of the first. The order of the fields is
the same as well, unless the second update sets a field again that the first one removes: that field
is appended, where the one update would have left it in its place. No update does so to itself, and
therefore doing it twice is doing it once.

* `Patch.sets`, `Patch.removes`, `Patch.atop` — what a patch does, and one patch over another;
* `Patch.Lasting` — a later patch that sets nothing again;
* `Record.names_merge` — the fields of an updated record in order;
* `Record.get?_merge_merge` — two updates field by field;
* `Record.merge_merge_of_lasting` — two updates in order;
* `Record.merge_laws` — all together.
-/

namespace RecordStore

/-! ### Fields in order -/

namespace Fields

variable {fields others : Fields}

theorem contains_iff {name : String} : fields.contains name = true ↔ name ∈ fields.names := by
  rw [contains, Option.isSome_iff_ne_none, ne_eq, get?, Members.get?_eq_none_iff, not_not, names]

/-- Fields with the same values under the same names are the same up to their order. -/
theorem perm_of_get? (values : ∀ name, fields.get? name = others.get? name) :
    fields.entries.Perm others.entries := by
  have distinct (fields : Fields) : fields.entries.Nodup := List.Nodup.of_map Prod.fst fields.nodup
  refine (List.perm_ext_iff_of_nodup (distinct fields) (distinct others)).2 ?_
  rintro ⟨name, value⟩
  rw [← Members.get?_eq_some_iff fields.nodup, ← Members.get?_eq_some_iff others.nodup]
  exact iff_of_eq (congrArg (· = some value) (values name))

/-- Fields with the same values under the same names in the same order are the same. -/
theorem eq_of_get? (order : fields.names = others.names)
    (values : ∀ name, fields.get? name = others.get? name) : fields = others := by
  have entries : fields.entries = others.entries := Members.ext_of_get? fields.nodup order values
  obtain ⟨_, _⟩ := fields
  obtain ⟨_, _⟩ := others
  subst entries
  rfl

end Fields

/-! ### Patches -/

namespace Patch

variable {patch earlier later : Patch} {name : String}

/-- Whether a patch has an entry with such a value for a field. The identifier is no field. -/
def assigns (patch : Patch) (such : FieldValue → Bool) (name : String) : Bool :=
  name ≠ "id" && (patch.get? name).any such

/-- Whether a patch gives a field a value. -/
def sets (patch : Patch) (name : String) : Bool := patch.assigns (fun value => !value.isNull) name

/-- Whether a patch removes a field. -/
def removes (patch : Patch) (name : String) : Bool := patch.assigns FieldValue.isNull name

theorem assigns_of_notMem (h : name ∉ patch.names) (such : FieldValue → Bool) :
    patch.assigns such name = false := by
  have missing : patch.get? name = none := Members.get?_eq_none_of_notMem h
  rw [assigns, missing, Option.any_none, Bool.and_false]

/-- The entries of a patch are its first one and the others. -/
theorem assigns_cons {key : String} {value : FieldValue} {rest : List (String × FieldValue)}
    (distinct : (Members.names ((key, value) :: rest)).Nodup) (such : FieldValue → Bool)
    (name : String) :
    assigns ⟨(key, value) :: rest, distinct⟩ such name =
      (key = name && name ≠ "id" && such value ||
        assigns ⟨rest, (List.nodup_cons.1 distinct).2⟩ such name) := by
  by_cases same : key = name
  · have later : Members.get? name rest = none :=
      Members.get?_eq_none_of_notMem (same ▸ (List.nodup_cons.1 distinct).1)
    simp [assigns, Fields.get?, Members.get?, same, later]
  · simp [assigns, Fields.get?, Members.get?, same]

/-- What a patch has an entry for is the identifier, or a field that it sets or removes. -/
theorem mem_names_iff (free : name ≠ "id") :
    name ∈ patch.names ↔ patch.sets name = true ∨ patch.removes name = true := by
  rw [← Fields.contains_iff, Fields.contains, sets, removes, assigns, assigns]
  cases patch.get? name with
  | none => simp
  | some value => cases null : value.isNull <;> simp [free, null]

theorem ne_id_of_sets (h : patch.sets name = true) : name ≠ "id" := by
  rw [sets, assigns, Bool.and_eq_true] at h
  exact of_decide_eq_true h.1

/-- A patch does not remove what it sets. -/
theorem removes_eq_false_of_sets (h : patch.sets name = true) : patch.removes name = false := by
  rw [sets, assigns] at h
  rw [removes, assigns]
  cases held : patch.get? name with
  | none => simp
  | some value => cases null : value.isNull <;> simp [held, null] at h ⊢

/-! ### One patch over another -/

/-- The entries of a patch on top of those of an earlier one. -/
def atop (later earlier : Patch) : Patch :=
  ⟨Members.putAll earlier.entries later.entries, Members.nodup_putAll earlier.nodup⟩

theorem get?_atop (later earlier : Patch) (name : String) :
    (later.atop earlier).get? name = (later.get? name).or (earlier.get? name) :=
  Members.get?_putAll later.nodup name earlier.entries

theorem names_atop (later earlier : Patch) :
    (later.atop earlier).names =
      earlier.names ++ later.names.filter fun name => decide (name ∉ earlier.names) :=
  Members.names_putAll later.nodup earlier.entries

/-- An entry of the earlier patch counts unless the later one has another entry for the field. -/
theorem assigns_atop (later earlier : Patch) (such : FieldValue → Bool) (name : String) :
    (later.atop earlier).assigns such name =
      (later.assigns such name ||
        earlier.assigns such name && !later.assigns (fun value => !such value) name) := by
  rw [assigns, assigns, assigns, assigns, get?_atop]
  by_cases own : name = "id"
  · simp [own]
  · cases later.get? name with
    | none => simp
    | some value => cases held : such value <;> simp [own, held]

theorem sets_atop (later earlier : Patch) (name : String) :
    (later.atop earlier).sets name =
      (later.sets name || earlier.sets name && !later.removes name) := by
  rw [sets, assigns_atop]
  simp only [Bool.not_not]
  rfl

theorem removes_atop (later earlier : Patch) (name : String) :
    (later.atop earlier).removes name =
      (later.removes name || earlier.removes name && !later.sets name) :=
  assigns_atop later earlier _ name

theorem sets_atop_of_notMem (new : name ∉ earlier.names) :
    (later.atop earlier).sets name = later.sets name := by
  have unset : earlier.sets name = false := assigns_of_notMem new _
  rw [sets_atop, unset, Bool.false_and, Bool.or_false]

/-- A patch over itself is that patch. -/
theorem atop_self (patch : Patch) : patch.atop patch = patch := by
  refine Fields.eq_of_get? ?_ fun name => ?_
  · have none : patch.names.filter (fun name => decide (name ∉ patch.names)) = [] := by simp
    exact (names_atop patch patch).trans (by rw [none, List.append_nil])
  · refine (get?_atop patch patch name).trans ?_
    cases held : patch.get? name <;> rfl

/-- Whether a later patch sets none of the fields that an earlier one removes. -/
def Lasting (earlier later : Patch) : Prop :=
  ∀ name, later.sets name = true → earlier.removes name = false

theorem lasting_self (patch : Patch) : Lasting patch patch :=
  fun _ set => removes_eq_false_of_sets set

namespace Lasting

theorem mem_names_iff (lasting : Lasting earlier later) (set : later.sets name = true) :
    name ∈ earlier.names ↔ earlier.sets name = true := by
  rw [Patch.mem_names_iff (ne_id_of_sets set), lasting name set]
  simp

theorem removes_atop (lasting : Lasting earlier later) (name : String) :
    (later.atop earlier).removes name = (later.removes name || earlier.removes name) := by
  rw [Patch.removes_atop]
  cases set : later.sets name with
  | true => simp [lasting name set]
  | false => simp

/-- The fields of the earlier patch that are set in the end. -/
theorem sets_atop_of_mem (lasting : Lasting earlier later) (mem : name ∈ earlier.names) :
    (later.atop earlier).sets name = (earlier.sets name && !later.removes name) := by
  rw [Patch.sets_atop]
  cases set : later.sets name with
  | true => simp [(lasting.mem_names_iff set).1 mem, removes_eq_false_of_sets set]
  | false => simp

end Lasting

end Patch

/-! ### One update -/

namespace Record

theorem names_mergeEntry (fields : Fields) (key : String) (value : FieldValue) :
    (mergeEntry fields (key, value)).names =
      fields.names.filter (fun name => !(key = name && name ≠ "id" && value.isNull)) ++
        if key ≠ "id" && !value.isNull && !fields.contains key then [key] else [] := by
  unfold mergeEntry
  by_cases own : key = "id"
  · have kept (name : String) : (decide ("id" = name) && decide (name ≠ "id")) = false := by
      by_cases same : name = "id" <;> simp [same, eq_comm]
    subst own
    simp only [kept]
    simp
  · rw [if_neg own]
    cases null : value.isNull with
    | true =>
      have erased : (fields.erase key).names = fields.names.erase key := Members.names_erase _ _
      have distinct : fields.names.Nodup := fields.nodup
      have apart (name : String) : (name != key) = !(decide (key = name) && decide (name ≠ "id")) := by
        by_cases same : key = name
        · subst same
          simp [own]
        · simp [same, Ne.symm same]
      simp only [Bool.and_true, ← apart]
      simp [erased, distinct.erase_eq_filter]
    | false =>
      have put : (fields.put key value).names = if key ∈ fields.names then fields.names
          else fields.names ++ [key] := Members.names_put key value fields.entries
      by_cases mem : key ∈ fields.names
      · simp [put, mem, Fields.contains_iff.2 mem]
      · have absent : fields.contains key = false := by
          rwa [← Fields.contains_iff, Bool.not_eq_true] at mem
        simp [put, own, mem, absent]

theorem contains_mergeEntry_of_ne {key name : String} (apart : key ≠ name) (fields : Fields)
    (value : FieldValue) : (mergeEntry fields (key, value)).contains name = fields.contains name := by
  rw [Fields.contains, Fields.contains, get?_mergeEntry, if_neg fun h => apart h.1]

/-- The fields that are left keep their order, and the new ones come behind them in the order of the
patch. -/
theorem names_merge (record : Record) (patch : Patch) :
    (record.merge patch).fields.names =
      record.fields.names.filter (fun name => !patch.removes name) ++
        patch.names.filter (fun name => patch.sets name && !record.fields.contains name) := by
  obtain ⟨entries, distinct⟩ := patch
  induction entries generalizing record with
  | nil =>
    have kept : record.fields.names.filter (fun name => !Patch.removes ⟨[], distinct⟩ name) =
        record.fields.names :=
      List.filter_eq_self.2 fun name _ => by
        rw [Patch.removes, Patch.assigns_of_notMem List.not_mem_nil, Bool.not_false]
    rw [kept]
    exact (List.append_nil _).symm
  | cons entry rest ih =>
    obtain ⟨key, value⟩ := entry
    have ⟨first, others⟩ := List.nodup_cons.1 distinct
    have notLater (such : FieldValue → Bool) : Patch.assigns ⟨rest, others⟩ such key = false :=
      Patch.assigns_of_notMem first such
    have step := ih ⟨record.id, mergeEntry record.fields (key, value)⟩ others
    -- what is new for the rest was new before the first entry, which has another name
    have appended : (Members.names rest).filter (fun name =>
          Patch.sets ⟨rest, others⟩ name &&
            !(mergeEntry record.fields (key, value)).contains name) =
        (Members.names rest).filter fun name =>
          Patch.sets ⟨(key, value) :: rest, distinct⟩ name && !record.fields.contains name := by
      refine List.filter_congr fun name mem => ?_
      have apart : key ≠ name := fun same => first (same ▸ mem)
      simp [contains_mergeEntry_of_ne apart, Patch.sets, Patch.assigns_cons distinct, apart]
    calc (record.merge ⟨(key, value) :: rest, distinct⟩).fields.names
        = (mergeEntry record.fields (key, value)).names.filter
            (fun name => !Patch.removes ⟨rest, others⟩ name) ++
          (Members.names rest).filter (fun name => Patch.sets ⟨rest, others⟩ name &&
            !(mergeEntry record.fields (key, value)).contains name) := step
      _ = record.fields.names.filter
            (fun name => !Patch.removes ⟨(key, value) :: rest, distinct⟩ name) ++
          (key :: Members.names rest).filter (fun name =>
            Patch.sets ⟨(key, value) :: rest, distinct⟩ name && !record.fields.contains name) := by
        have kept (name : String) : Patch.removes ⟨(key, value) :: rest, distinct⟩ name =
            (Patch.removes ⟨rest, others⟩ name || (key = name && name ≠ "id" && value.isNull)) := by
          rw [Patch.removes, Patch.assigns_cons distinct, Bool.or_comm, Patch.removes]
        have set : Patch.sets ⟨(key, value) :: rest, distinct⟩ key =
            (decide (key ≠ "id") && !value.isNull) := by
          simp [Patch.sets, Patch.assigns_cons distinct, notLater]
        rw [appended, names_mergeEntry, List.filter_append, List.filter_filter, List.append_assoc,
          List.filter_cons, set]
        simp only [kept, Bool.not_or]
        split <;> simp [Patch.removes, notLater]

/-! ### Two updates -/

/-- A field is there after an update if it is set, or was there and is not removed. -/
theorem contains_merge (record : Record) (patch : Patch) (name : String) :
    (record.merge patch).fields.contains name =
      (patch.sets name || record.fields.contains name && !patch.removes name) := by
  have merged : (record.merge patch).fields.contains name =
      ((record.merge patch).get? name).isSome := rfl
  have before : record.fields.contains name = (record.get? name).isSome := rfl
  rw [merged, before, get?_merge, Patch.sets, Patch.removes, Patch.assigns, Patch.assigns]
  by_cases own : name = "id"
  · simp [own]
  · cases patch.get? name with
    | none => simp [own]
    | some value => cases null : value.isNull <;> simp [own, null]

/-- Two updates give each field what the second one says, and else what the first one says. -/
theorem get?_merge_merge (record : Record) (earlier later : Patch) (name : String) :
    ((record.merge earlier).merge later).get? name =
      (record.merge (later.atop earlier)).get? name := by
  rw [get?_merge, get?_merge, get?_merge, Patch.get?_atop]
  by_cases own : name = "id"
  · rw [if_pos own, if_pos own, if_pos own]
  · rw [if_neg own, if_neg own, if_neg own]
    cases later.get? name <;> rfl

/-- Two updates of which the second one sets no field that the first one removes are the one update
in the order of the fields as well. -/
theorem merge_merge_of_lasting (record : Record) {earlier later : Patch}
    (lasting : earlier.Lasting later) :
    (record.merge earlier).merge later = record.merge (later.atop earlier) := by
  have kept (name : String) : (!later.removes name && !earlier.removes name) =
      !(later.atop earlier).removes name := by
    rw [lasting.removes_atop, Bool.not_or]
  have first : ∀ name ∈ earlier.names,
      (!later.removes name && (earlier.sets name && !record.fields.contains name)) =
        ((later.atop earlier).sets name && !record.fields.contains name) := by
    intro name mem
    rw [lasting.sets_atop_of_mem mem, ← Bool.and_assoc, Bool.and_comm (!later.removes name)]
  have second (name : String) :
      (later.sets name && !(record.merge earlier).fields.contains name) =
        ((later.atop earlier).sets name && !record.fields.contains name &&
          decide (name ∉ earlier.names)) := by
    rw [contains_merge]
    by_cases new : name ∈ earlier.names
    · cases set : later.sets name with
      | true => simp [new, (lasting.mem_names_iff set).1 new]
      | false => simp [new]
    · have unset : earlier.sets name = false := Patch.assigns_of_notMem new _
      have held : earlier.removes name = false := Patch.assigns_of_notMem new _
      simp [new, Patch.sets_atop_of_notMem new, unset, held]
  have order : ((record.merge earlier).merge later).fields.names =
      (record.merge (later.atop earlier)).fields.names := by
    rw [names_merge, names_merge, names_merge, Patch.names_atop, List.filter_append,
      List.filter_append, List.filter_filter, List.filter_filter, List.filter_filter,
      List.append_assoc, List.filter_congr first]
    simp only [kept, second]
  exact congrArg (Record.mk record.id)
    (Fields.eq_of_get? order (get?_merge_merge record earlier later))

-- a field that is removed and then set again has lost its place
example :
    let record := ((Record.new "a").set "x" (.integer 1)).set "y" (.integer 2)
    let earlier : Patch := ⟨[("x", .null)], by decide⟩
    let later : Patch := ⟨[("x", .integer 3)], by decide⟩
    ((record.merge earlier).merge later).fields.names = ["y", "x"] ∧
      (record.merge (later.atop earlier)).fields.names = ["x", "y"] := by decide

/-- **Partial updates.** A partial update keeps the identifier, gives the fields that it names their
new values, or none, and leaves all others alone, also where there is one with the name of the
identifier. The fields that were there and are not removed keep their order, and the new ones follow
in the order of the patch. Two updates give the same fields, up to their order, as the entries of
the second patch over those of the first, and an update that is done twice is done. -/
theorem merge_laws (record : Record) (earlier later : Patch) :
    (record.merge earlier).id = record.id ∧
    (∀ name, (record.merge earlier).get? name =
      if name = "id" then record.get? name
      else match earlier.get? name with
        | some value => if value.isNull then none else some value
        | none => record.get? name) ∧
    (record.merge earlier).fields.names =
      record.fields.names.filter (fun name => !earlier.removes name) ++
        earlier.names.filter (fun name => earlier.sets name && !record.fields.contains name) ∧
    ((record.merge earlier).merge later).fields.entries.Perm
      (record.merge (later.atop earlier)).fields.entries ∧
    (record.merge earlier).merge earlier = record.merge earlier := by
  refine ⟨rfl, get?_merge record earlier, names_merge record earlier,
    Fields.perm_of_get? (get?_merge_merge record earlier later), ?_⟩
  rw [merge_merge_of_lasting record earlier.lasting_self, Patch.atop_self]

end Record

end RecordStore
