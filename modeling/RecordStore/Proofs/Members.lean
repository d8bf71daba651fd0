import RecordStore.Members

/-!
# Looking up members

What each operation on a list of named members does to a look-up. No operation changes the value of
a name other than its own.

* `Members.get?_put`, `Members.get?_erase`, `Members.get?_mapValues` — one equation for each
  operation;
* `Members.get?_distinct` — where no name is repeated, nothing is lost by keeping distinct names;
* `Members.names_put`, `Members.names_erase`, `Members.names_putAll` — the order of the names;
* `Members.ext_of_get?` — names and look-ups determine the members.
-/

namespace RecordStore.Members

variable {α β : Type}

theorem get?_put (name other : String) (value : α) (members : List (String × α)) :
    get? other (put name value members) =
      if name = other then some value else get? other members := by
  induction members with
  | nil => rfl
  | cons m rest ih =>
    obtain ⟨key, old⟩ := m
    rw [put]
    by_cases hk : key = name
    · rw [if_pos hk, get?, get?, hk]
      by_cases h : name = other <;> simp [h]
    · rw [if_neg hk, get?, get?, ih]
      by_cases h : name = other
      · rw [if_neg (fun same => hk (same.trans h.symm)), if_pos h, if_pos h]
      · rw [if_neg h, if_neg h]

theorem get?_put_self (name : String) (value : α) (members : List (String × α)) :
    get? name (put name value members) = some value := by
  rw [get?_put, if_pos rfl]

theorem get?_erase_of_ne {name other : String} (h : other ≠ name) (members : List (String × α)) :
    get? other (erase name members) = get? other members := by
  induction members with
  | nil => rfl
  | cons m rest ih =>
    obtain ⟨key, old⟩ := m
    rw [erase]
    by_cases hk : key = name
    · rw [if_pos hk, get?, if_neg (fun same => h (same.symm.trans hk))]
    · rw [if_neg hk, get?, get?, ih]

theorem get?_eq_none_of_notMem {name : String} {members : List (String × α)}
    (h : name ∉ names members) : get? name members = none := by
  induction members with
  | nil => rfl
  | cons m rest ih =>
    rw [names_cons, List.mem_cons, not_or] at h
    rw [get?, if_neg (fun same => h.1 same.symm), ih h.2]

theorem get?_erase {members : List (String × α)} (distinct : (names members).Nodup)
    (name other : String) :
    get? other (erase name members) = if name = other then none else get? other members := by
  by_cases h : name = other
  · subst h
    rw [if_pos rfl]
    induction members with
    | nil => rfl
    | cons m rest ih =>
      obtain ⟨key, old⟩ := m
      rw [names_cons, List.nodup_cons] at distinct
      rw [erase]
      by_cases hk : key = name
      · rw [if_pos hk, get?_eq_none_of_notMem (hk ▸ distinct.1)]
      · rw [if_neg hk, get?, if_neg hk, ih distinct.2]
  · rw [if_neg h, get?_erase_of_ne (Ne.symm h)]

theorem get?_mapValues (f : α → β) (name : String) (members : List (String × α)) :
    get? name (mapValues f members) = (get? name members).map f := by
  induction members with
  | nil => rfl
  | cons m rest ih =>
    obtain ⟨key, value⟩ := m
    show (if key = name then some (f value) else get? name (mapValues f rest)) = _
    rw [get?, ih]
    by_cases h : key = name <;> simp [h]

/-- Members that are added later hide the ones of the same name that are there. -/
theorem get?_putAll {members : List (String × α)} (distinct : (names members).Nodup)
    (name : String) (base : List (String × α)) :
    get? name (putAll base members) = (get? name members).or (get? name base) := by
  induction members generalizing base with
  | nil => rfl
  | cons m rest ih =>
    obtain ⟨key, value⟩ := m
    rw [names_cons, List.nodup_cons] at distinct
    rw [putAll, ih distinct.2, get?, get?_put]
    by_cases h : key = name
    · rw [if_pos h, if_pos h, get?_eq_none_of_notMem (h ▸ distinct.1)]
      rfl
    · rw [if_neg h, if_neg h]

theorem get?_distinct {members : List (String × α)} (h : (names members).Nodup) (name : String) :
    get? name (distinct members) = get? name members := by
  rw [distinct, get?_putAll h, get?, Option.or_none]

theorem get?_append (name : String) (members others : List (String × α)) :
    get? name (members ++ others) = (get? name members).or (get? name others) := by
  induction members with
  | nil => rfl
  | cons m rest ih =>
    obtain ⟨key, value⟩ := m
    rw [List.cons_append, get?, get?, ih]
    by_cases h : key = name <;> simp [h]

theorem get?_eq_none_iff {name : String} {members : List (String × α)} :
    get? name members = none ↔ name ∉ names members := by
  refine ⟨fun missing mem => ?_, get?_eq_none_of_notMem⟩
  induction members with
  | nil => exact List.not_mem_nil mem
  | cons m rest ih =>
    obtain ⟨key, value⟩ := m
    rw [get?] at missing
    split at missing
    · cases missing
    · next other =>
      rcases List.mem_cons.1 mem with same | later
      · exact other same.symm
      · exact ih missing later

/-- A name that is not repeated is looked up. -/
theorem only?_eq {members : List (String × α)} (distinct : (names members).Nodup) (name : String) :
    only? name members = some (get? name members) := by
  induction members with
  | nil => rfl
  | cons m rest ih =>
    obtain ⟨key, value⟩ := m
    rw [names_cons, List.nodup_cons] at distinct
    by_cases here : key = name
    · have others : rest.filter (fun m => m.1 == name) = [] := by
        refine List.filter_eq_nil_iff.2 fun m mem same => distinct.1 ?_
        have named : m.1 ∈ names rest := List.mem_map_of_mem mem
        rwa [beq_iff_eq.1 same, ← here] at named
      rw [only?, List.filter_cons_of_pos (by simpa using here), others, get?, if_pos here]
    · rw [get?, if_neg here, ← ih distinct.2, only?, only?,
        List.filter_cons_of_neg (by simpa using here)]

/-! ### Putting a member in place -/

theorem putAll_eq_foldl (base members : List (String × α)) :
    putAll base members = members.foldl (fun rest m => put m.1 m.2 rest) base := by
  induction members generalizing base with
  | nil => rfl
  | cons m rest ih => exact ih _

theorem put_put (name : String) (value other : α) (members : List (String × α)) :
    put name value (put name other members) = put name value members := by
  induction members with
  | nil => simp [put]
  | cons m rest ih =>
    obtain ⟨key, old⟩ := m
    by_cases h : key = name
    · simp [put, h]
    · simp [put, h, ih]

theorem put_of_get? {name : String} {value : α} {members : List (String × α)}
    (h : get? name members = some value) : put name value members = members := by
  induction members with
  | nil => cases h
  | cons m rest ih =>
    obtain ⟨key, old⟩ := m
    rw [get?] at h
    rw [put]
    split at h
    · next same => rw [if_pos same, Option.some.inj h]
    · next other => rw [if_neg other, ih h]

theorem put_of_notMem {name : String} {members : List (String × α)} (h : name ∉ names members)
    (value : α) : put name value members = members ++ [(name, value)] := by
  induction members with
  | nil => rfl
  | cons m rest ih =>
    rw [names_cons, List.mem_cons, not_or] at h
    rw [put, if_neg (Ne.symm h.1), ih h.2, List.cons_append]

/-- Members with new names of their own are added behind the ones that are there. -/
theorem putAll_eq_append {base members : List (String × α)}
    (distinct : (names (base ++ members)).Nodup) : putAll base members = base ++ members := by
  induction members generalizing base with
  | nil => exact (List.append_nil base).symm
  | cons m rest ih =>
    obtain ⟨name, value⟩ := m
    have split : base ++ (name, value) :: rest = base ++ [(name, value)] ++ rest := by simp
    have new : name ∉ names base := by
      rw [names, List.map_append, List.nodup_append] at distinct
      exact fun mem => distinct.2.2 name mem name List.mem_cons_self rfl
    rw [putAll, put_of_notMem new, ih (split ▸ distinct), split]

theorem mem_of_mem_put {name : String} {value : α} {members : List (String × α)} {m : String × α}
    (h : m ∈ put name value members) : m = (name, value) ∨ m ∈ members := by
  induction members with
  | nil => exact .inl (List.mem_singleton.1 h)
  | cons other rest ih =>
    rw [put] at h
    split at h
    · next same =>
      rcases List.mem_cons.1 h with rfl | later
      · exact .inl (by rw [same])
      · exact .inr (List.mem_cons_of_mem _ later)
    · rcases List.mem_cons.1 h with rfl | later
      · exact .inr List.mem_cons_self
      · exact (ih later).imp_right (List.mem_cons_of_mem _)

theorem mem_of_mem_putAll {base members : List (String × α)} {m : String × α}
    (h : m ∈ putAll base members) : m ∈ base ∨ m ∈ members := by
  induction members generalizing base with
  | nil => exact .inl h
  | cons other rest ih =>
    rcases ih h with first | later
    · rcases mem_of_mem_put first with rfl | old
      · exact .inr List.mem_cons_self
      · exact .inl old
    · exact .inr (List.mem_cons_of_mem _ later)

/-- Keeping distinct names brings no new members. -/
theorem mem_of_mem_distinct {members : List (String × α)} {m : String × α}
    (h : m ∈ distinct members) : m ∈ members :=
  (mem_of_mem_putAll h).resolve_left List.not_mem_nil

theorem distinct_of_nodup {members : List (String × α)} (h : (names members).Nodup) :
    distinct members = members := putAll_eq_append h

/-! ### The order of the names -/

theorem names_put (name : String) (value : α) (members : List (String × α)) :
    names (put name value members) =
      if name ∈ names members then names members else names members ++ [name] := by
  by_cases mem : name ∈ names members
  · rw [if_pos mem]
    induction members with
    | nil => cases mem
    | cons m rest ih =>
      obtain ⟨key, old⟩ := m
      rw [put]
      by_cases same : key = name
      · rw [if_pos same]
        rfl
      · have later : name ∈ names rest := (List.mem_cons.1 mem).resolve_left (Ne.symm same)
        rw [if_neg same, names_cons, ih later, names_cons]
  · rw [if_neg mem, put_of_notMem mem, names, List.map_append]
    rfl

theorem names_erase (name : String) (members : List (String × α)) :
    names (erase name members) = (names members).erase name := by
  induction members with
  | nil => rfl
  | cons m rest ih =>
    obtain ⟨key, value⟩ := m
    rw [erase, names_cons, List.erase_cons]
    by_cases same : key = name
    · simp [same]
    · simp [same, ih]

/-- New names are added behind the ones that are there, in their order. -/
theorem names_putAll {members : List (String × α)} (distinct : (names members).Nodup)
    (base : List (String × α)) :
    names (putAll base members) =
      names base ++ (names members).filter fun name => decide (name ∉ names base) := by
  induction members generalizing base with
  | nil => simp [putAll]
  | cons m rest ih =>
    obtain ⟨key, value⟩ := m
    rw [names_cons, List.nodup_cons] at distinct
    have others : (names rest).filter (fun name => decide (name ∉ names (put key value base))) =
        (names rest).filter fun name => decide (name ∉ names base) := by
      refine List.filter_congr fun name mem => ?_
      have apart : name ≠ key := fun same => distinct.1 (same ▸ mem)
      simp [mem_names_put, apart]
    rw [putAll, ih distinct.2, others, names_put, names_cons]
    by_cases mem : key ∈ names base
    · rw [if_pos mem, List.filter_cons_of_neg (by simpa using mem)]
    · rw [if_neg mem, List.filter_cons_of_pos (by simpa using mem), List.append_assoc,
        List.singleton_append]

/-- Members are determined by the order of their names and by what is looked up. -/
theorem ext_of_get? {members others : List (String × α)} (distinct : (names members).Nodup)
    (order : names members = names others)
    (values : ∀ name, get? name members = get? name others) : members = others := by
  induction members generalizing others with
  | nil => exact (List.map_eq_nil_iff.1 order.symm).symm
  | cons m rest ih =>
    cases others with
    | nil => cases order
    | cons m' rest' =>
      obtain ⟨key, value⟩ := m
      obtain ⟨key', value'⟩ := m'
      rw [names_cons, names_cons, List.cons.injEq] at order
      obtain ⟨same, order⟩ := order
      rw [names_cons, List.nodup_cons] at distinct
      dsimp only at same distinct
      subst same
      have held : value = value' := by simpa [get?] using values key
      have later (name : String) : get? name rest = get? name rest' := by
        by_cases here : name = key
        · subst here
          rw [get?_eq_none_of_notMem distinct.1, get?_eq_none_of_notMem (order ▸ distinct.1)]
        · simpa [get?, Ne.symm here] using values name
      rw [held, ih distinct.2 order later]

/-! ### Removing members -/

theorem nodup_foldl_erase {members : List (String × α)} (distinct : (names members).Nodup)
    (removed : List String) :
    (names (removed.foldl (fun rest name => erase name rest) members)).Nodup := by
  induction removed generalizing members with
  | nil => exact distinct
  | cons name rest ih => exact ih (nodup_erase distinct)

theorem get?_foldl_erase {members : List (String × α)} (distinct : (names members).Nodup)
    (removed : List String) (name : String) :
    get? name (removed.foldl (fun rest name => erase name rest) members) =
      if name ∈ removed then none else get? name members := by
  induction removed generalizing members with
  | nil => rfl
  | cons other rest ih =>
    rw [List.foldl_cons, ih (nodup_erase distinct), get?_erase distinct]
    by_cases h : other = name
    · simp [h]
    · simp [h, Ne.symm h]

end RecordStore.Members
