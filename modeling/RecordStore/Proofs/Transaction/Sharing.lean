import RecordStore.Proofs.Transaction.Interleaving

/-!
# What a tenant sees of a shared database

A tenant can learn what is stored in its tables and the state of its transactions, less what others
may have entered into their journals. Deeds of others leave all of this as it is.

* `Transaction.seenBy` — a transaction as far as a tenant is concerned;
* `Shared.Orderly` — each side has transactions of its own, whose journals have entries for its own
  tables, and in those of the tenant for tables of guests;
* `Shared.Alike` — shared databases in which there is the same to be seen, with
  `Shared.Alike.change` for what keeps it so;
* `Deed.run_disturbed` — all that a deed of others can do, from which follow
  `Shared.Disturbed.alike` and `Shared.Disturbed.orderly`.
-/

namespace RecordStore

/-! ### What a tenant sees of a journal -/

/-- The entries for the tables of a tenant. -/
def Journal.seenBy (tenant : Tenant) (journal : Journal) : Journal :=
  journal.filter fun entry => decide (entry.key.place.tenant = tenant)

/-- A transaction as far as a tenant is concerned. -/
def Transaction.seenBy (tenant : Tenant) (transaction : Transaction) : Transaction :=
  { transaction with journal := transaction.journal.map (Journal.seenBy tenant) }

theorem Transaction.cleared_seenBy (tenant : Tenant) (transaction : Transaction) :
    (transaction.seenBy tenant).cleared = transaction.cleared := by
  unfold seenBy cleared
  cases transaction.journal <;> rfl

/-- A transaction with more entries in its journal. -/
def Transaction.enter (entries : Journal) (transaction : Transaction) : Transaction :=
  { transaction with journal := transaction.journal.map (entries ++ ·) }

theorem Transaction.seenBy_enter (tenant : Tenant) (entries : Journal)
    (transaction : Transaction) :
    (transaction.enter entries).seenBy tenant =
      (transaction.seenBy tenant).enter (Journal.seenBy tenant entries) := by
  unfold seenBy enter
  cases transaction.journal with
  | none => rfl
  | some journal => simp [Journal.seenBy]

theorem Transaction.enter_nil (transaction : Transaction) : transaction.enter [] = transaction := by
  obtain ⟨id, backend, journal, rollbackOnly⟩ := transaction
  cases journal <;> rfl

/-- For the tables of a tenant it is enough to undo the entries for them. -/
theorem Store.EqOn.undo_seenBy {tenant : Tenant} {a b : Store} (h : EqOn tenant.keys a b)
    (journal : Journal) :
    EqOn tenant.keys (journal.undo a) (Journal.undo (journal.seenBy tenant) b) := by
  induction journal generalizing a b with
  | nil => exact h
  | cons entry older ih =>
    by_cases seen : entry.key.place.tenant = tenant
    · have first : Journal.seenBy tenant (entry :: older) = entry :: Journal.seenBy tenant older :=
        List.filter_cons_of_pos (decide_eq_true seen)
      rw [first]
      refine ih ?_
      rw [entry.restore_eq_set, entry.restore_eq_set]
      exact h.set _ _
    · have first : Journal.seenBy tenant (entry :: older) = Journal.seenBy tenant older :=
        List.filter_cons_of_neg (by rw [decide_eq_true_eq]; exact seen)
      rw [first]
      refine ih ?_
      rw [entry.restore_eq_set]
      exact (eqOn_set seen a _).trans h

/-- Journals that a tenant sees alike bring the same back for the tenant. -/
theorem Store.EqOn.undo_of_seenBy {tenant : Tenant} {a b : Store} (h : EqOn tenant.keys a b)
    {journal journal' : Journal} (same : journal.seenBy tenant = journal'.seenBy tenant) :
    EqOn tenant.keys (journal.undo a) (journal'.undo b) := by
  have left := h.undo_seenBy journal
  rw [same] at left
  exact left.trans (EqOn.undo_seenBy (.refl _ b) journal').symm

/-- A journal without entries for the tables of a tenant is not seen. -/
theorem Journal.seenBy_eq_nil {tenant : Tenant} {journal : Journal}
    (h : ∀ entry ∈ journal, entry.key ∉ tenant.keys) : journal.seenBy tenant = [] := by
  refine List.filter_eq_nil_iff.2 fun entry mem => ?_
  rw [decide_eq_true_eq]
  exact h entry mem

/-! ### Shared databases -/

namespace Shared

variable {tenant : Tenant} {guests : Set Tenant} {shared : Shared}
  {name other handle : Handle}

theorem handle_of_known (known : shared.own[name.number]? = some handle) :
    shared.handle name = handle := by
  rw [Shared.handle, Database.meant, known]
  rfl

/-- The state of a transaction by its place among the own ones. -/
theorem transaction?_eq (shared : Shared) (name : Handle) :
    shared.transaction? name = shared.own[name.number]?.bind shared.database.transaction? := by
  cases known : shared.own[name.number]? with
  | some handle => rw [transaction?, handle_of_known known]; rfl
  | none =>
    rw [transaction?, Shared.handle, Database.meant, known]
    exact List.getElem?_eq_none (Nat.le_add_right _ _)

/-- Each side has transactions of its own. The journals of others have no entries for the tables of
the tenant, and those of the tenant have no other ones than for it and its guests. -/
structure Orderly (tenant : Tenant) (guests : Set Tenant) (shared : Shared) : Prop where
  known : ∀ handle ∈ shared.own ++ shared.others,
    handle.number < shared.database.transactions.length
  distinct : (shared.own ++ shared.others).Nodup
  others : ∀ handle ∈ shared.others, ∀ entry ∈ shared.database.entries handle,
    entry.key ∉ tenant.keys
  own : ∀ handle ∈ shared.own, ∀ entry ∈ shared.database.entries handle,
    entry.key ∈ tenant.keys ∨ entry.key.place.tenant ∈ guests

namespace Orderly

/-- Only the transactions matter. -/
theorem of_transactions (h : shared.Orderly tenant guests) {after : Database}
    (same : after.transactions = shared.database.transactions) :
    Orderly tenant guests { shared with database := after } := by
  have entries (handle : Handle) : after.entries handle = shared.database.entries handle := by
    simp only [Database.entries, Database.transaction?, same]
  exact ⟨fun handle mem => same ▸ h.known handle mem, h.distinct,
    fun handle mem entry here => h.others handle mem entry (entries handle ▸ here),
    fun handle mem entry here => h.own handle mem entry (entries handle ▸ here)⟩

theorem handle_inj (h : shared.Orderly tenant guests) :
    shared.handle name = shared.handle other ↔ name = other :=
  Database.meant_inj (List.nodup_append.1 h.distinct).1
    fun handle mem => h.known handle (List.mem_append_left _ mem)

/-- A context of the tenant is in the transaction of the name that it has. -/
theorem inner_eq_iff (h : shared.Orderly tenant guests) (context : Context) :
    (shared.inner context).transaction = some (shared.handle name) ↔
      context.transaction = some name := by
  simp only [inner, Context.among]
  cases context.transaction with
  | none => simp
  | some other =>
    simp only [Option.map_some, Option.some.injEq]
    exact h.handle_inj

theorem not_mem_others (h : shared.Orderly tenant guests) (name : Handle) :
    shared.handle name ∉ shared.others := by
  intro mem
  rcases Database.meant_cases shared.database shared.own name with own | future
  · exact (List.nodup_append.1 h.distinct).2.2 _ own _ mem rfl
  · exact absurd (h.known _ (List.mem_append_right _ mem)) (Nat.not_lt.2 future)

theorem not_mem_own (h : shared.Orderly tenant guests) (name : Handle) :
    shared.database.meant shared.others name ∉ shared.own := by
  intro mem
  rcases Database.meant_cases shared.database shared.others name with others | future
  · exact (List.nodup_append.1 h.distinct).2.2 _ mem _ others rfl
  · exact absurd (h.known _ (List.mem_append_left _ mem)) (Nat.not_lt.2 future)

/-- The journals of a side may get entries that do not harm the other side. -/
theorem change (h : shared.Orderly tenant guests) {after : Database}
    (length : after.transactions.length = shared.database.transactions.length)
    (others : ∀ handle ∈ shared.others, ∀ entry ∈ after.entries handle,
      entry ∈ shared.database.entries handle ∨ entry.key ∉ tenant.keys)
    (own : ∀ handle ∈ shared.own, ∀ entry ∈ after.entries handle,
      entry ∈ shared.database.entries handle ∨
        entry.key ∈ tenant.keys ∨ entry.key.place.tenant ∈ guests) :
    Orderly tenant guests { shared with database := after } where
  known handle mem := length ▸ h.known handle mem
  distinct := h.distinct
  others handle mem entry here := (others handle mem entry here).elim (h.others handle mem entry) id
  own handle mem entry here := (own handle mem entry here).elim (h.own handle mem entry) id

theorem ending (h : shared.Orderly tenant guests) {after : Database}
    (ending : shared.database.Ending handle after) :
    Orderly tenant guests { shared with database := after } :=
  h.change ending.length_transactions (fun _ _ _ mem => .inl (ending.mem_entries mem))
    fun _ _ _ mem => .inl (ending.mem_entries mem)

theorem push (h : shared.Orderly tenant guests) {opened : Transaction} (empty : opened.entries = [])
    {own others : List Handle}
    (sides : (own ++ others).Perm (shared.database.nextHandle :: (shared.own ++ shared.others)))
    (ours : ∀ handle ∈ own, handle = shared.database.nextHandle ∨ handle ∈ shared.own)
    (theirs : ∀ handle ∈ others, handle = shared.database.nextHandle ∨ handle ∈ shared.others) :
    Orderly tenant guests ⟨shared.database.push opened, own, others⟩ := by
  -- the transaction that has been opened had no entries, and has none
  have none (entry : UndoEntry) : entry ∉ shared.database.entries shared.database.nextHandle := by
    simp [Database.entries, Database.transaction?, Database.nextHandle]
  have unknown : shared.database.nextHandle ∉ shared.own ++ shared.others :=
    fun mem => Nat.lt_irrefl _ (h.known _ mem)
  refine ⟨fun handle mem => ?_, ?_, fun handle mem entry here => ?_,
    fun handle mem entry here => ?_⟩
  · rw [Database.length_transactions_push]
    rcases List.mem_cons.1 (sides.mem_iff.1 mem) with rfl | mem
    · exact Nat.lt_succ_self _
    · exact Nat.lt_succ_of_lt (h.known handle mem)
  · exact sides.nodup_iff.2 (List.nodup_cons.2 ⟨unknown, h.distinct⟩)
  · have before := Database.mem_entries_push empty here
    rcases theirs handle mem with rfl | mem
    · exact absurd before (none entry)
    · exact h.others handle mem entry before
  · have before := Database.mem_entries_push empty here
    rcases ours handle mem with rfl | mem
    · exact absurd before (none entry)
    · exact h.own handle mem entry before

/-- The tenant has opened a transaction. -/
theorem push_own (h : shared.Orderly tenant guests) {opened : Transaction}
    (empty : opened.entries = []) :
    Orderly tenant guests ⟨shared.database.push opened,
      shared.own ++ [shared.database.nextHandle], shared.others⟩ := by
  refine h.push empty ?_ (fun handle mem => ?_) fun _ mem => .inr mem
  · simp [List.perm_middle]
  · simpa [or_comm] using mem

/-- Others have opened a transaction. -/
theorem push_others (h : shared.Orderly tenant guests) {opened : Transaction}
    (empty : opened.entries = []) :
    Orderly tenant guests ⟨shared.database.push opened, shared.own,
      shared.others ++ [shared.database.nextHandle]⟩ := by
  refine h.push empty ?_ (fun _ mem => .inr mem) fun handle mem => ?_
  · rw [← List.append_assoc]
    exact List.perm_append_singleton _ _
  · simpa [or_comm] using mem

/-- A call of the tenant in a transaction of its own. -/
theorem call (h : shared.Orderly tenant guests) (surroundings : Surroundings) {context : Context}
    (mine : context.tenant = tenant) (operation : Operation) :
    (shared.call surroundings context operation).2.Orderly tenant guests := by
  refine h.change (Database.length_transactions_run _ _ _ _) (fun handle mem entry here => ?_)
    fun handle mem entry here => ?_
  · rcases Database.mem_entries_run here with known | ⟨inside, -⟩
    · exact .inl known
    · obtain ⟨name, -, rfl⟩ := Option.map_eq_some_iff.1 inside
      exact absurd mem (h.not_mem_others name)
  · rcases Database.mem_entries_run here with known | ⟨-, new⟩
    · exact .inl known
    · exact .inr (.inl (mine ▸ Operation.key_mem_of_entries _ _ operation _ entry new))

/-- The end of a unit of work of the tenant. -/
theorem leave (h : shared.Orderly tenant guests) (manager : Manager) (context inside : Context)
    (outcome : Outcome) :
    (shared.leave manager context inside outcome).2.Orderly tenant guests := by
  rcases manager.leave_cases (shared.inner context) (shared.inner inside) outcome shared.database
    with same | ⟨handle, -, ending⟩
  · show Orderly tenant guests { shared with
      database := (manager.leave (shared.inner context) (shared.inner inside) outcome
        shared.database).2 }
    rw [same]
    exact h
  · exact h.ending ending

/-- The entries of an own transaction. -/
theorem own_entries (h : shared.Orderly tenant guests) (name : Handle) :
    ∀ entry ∈ shared.database.entries (shared.handle name),
      entry.key ∈ tenant.keys ∨ entry.key.place.tenant ∈ guests := by
  rcases Database.meant_cases shared.database shared.own name with own | future
  · exact h.own _ own
  · have none : shared.database.transaction? (shared.handle name) = none :=
      List.getElem?_eq_none future
    simp [Database.entries, none]

/-- A call on the tables of another tenant, which is a guest if the context is in a transaction of
the tenant. -/
theorem run (h : shared.Orderly tenant guests) (surroundings : Surroundings) {context : Context}
    (foreign : context.tenant ≠ tenant)
    (invited : ∀ handle ∈ shared.own, context.transaction = some handle → context.tenant ∈ guests)
    (operation : Operation) :
    Orderly tenant guests
      { shared with database := (operation.run surroundings context shared.database).2 } := by
  refine h.change (Database.length_transactions_run _ _ _ _) (fun handle mem entry here => ?_)
    fun handle mem entry here => ?_
  · rcases Database.mem_entries_run here with known | ⟨-, new⟩
    · exact .inl known
    · have theirs := Operation.key_mem_of_entries _ _ operation _ entry new
      exact .inr fun mine => foreign (theirs.symm.trans mine)
  · rcases Database.mem_entries_run here with known | ⟨inside, new⟩
    · exact .inl known
    · have theirs : entry.key.place.tenant = context.tenant :=
        Operation.key_mem_of_entries _ _ operation _ entry new
      exact .inr (.inr (theirs ▸ invited handle mem inside))

end Orderly

/-! ### The same to be learned -/

/-- The tables of the tenant are the same, and so are the own transactions, as far as they are
seen. -/
structure Alike (tenant : Tenant) (a b : Shared) : Prop where
  stores : Store.EqOn tenant.keys a.database.store b.database.store
  names : a.own.length = b.own.length
  transactions : ∀ name, (a.transaction? name).map (Transaction.seenBy tenant) =
    (b.transaction? name).map (Transaction.seenBy tenant)

/-- What becomes of the own transactions in another database, by their names. -/
def Changes (shared : Shared) (after : Database) (change : Handle → Transaction → Transaction) :
    Prop :=
  ∀ name handle, shared.own[name.number]? = some handle →
    after.transaction? handle = (shared.database.transaction? handle).map (change name)

theorem changes_refl (shared : Shared) : shared.Changes shared.database fun _ => id := by
  intro name handle _
  rw [Option.map_id]
  rfl

/-- An effect in a context is entered into the journal of its transaction. -/
theorem changes_settle {α : Type} (shared : Shared) (context : Context) (effect : Effect α) :
    shared.Changes (shared.database.tick.settle context effect) fun name t =>
      if context.transaction = some (shared.handle name) then t.enter effect.entries else t := by
  intro name handle known
  simp only [Database.transaction?_settle, handle_of_known known]
  rfl

theorem changes_settle_inner {α : Type} (h : shared.Orderly tenant guests) (context : Context)
    (effect : Effect α) :
    shared.Changes (shared.database.tick.settle (shared.inner context) effect) fun name t =>
      if context.transaction = some name then t.enter effect.entries else t := by
  simpa only [h.inner_eq_iff] using shared.changes_settle (shared.inner context) effect

theorem changes_push (h : shared.Orderly tenant guests) (opened : Transaction) :
    shared.Changes (shared.database.push opened) fun _ => id := by
  intro name handle known
  have less := h.known handle (List.mem_append_left _ (List.mem_of_getElem? known))
  have apart : handle ≠ shared.database.nextHandle := fun same =>
    Nat.lt_irrefl _ (same ▸ less)
  rw [Database.transaction?_push, if_neg apart, Option.map_id]
  rfl

theorem changes_ending (foreign : handle ∉ shared.own) {after : Database}
    (ending : shared.database.Ending handle after) : shared.Changes after fun _ => id := by
  intro name other known
  have apart : handle ≠ other := fun same => foreign (same ▸ List.mem_of_getElem? known)
  rw [ending.transaction?_eq apart, Option.map_id]
  rfl

theorem changes_modify (h : shared.Orderly tenant guests) (name : Handle)
    (change : Transaction → Transaction) {database : Database}
    (same : database.transactions = shared.database.transactions) :
    shared.Changes (database.modify (shared.handle name) change) fun other t =>
      if name = other then change t else t := by
  intro other handle known
  have found : database.transaction? handle = shared.database.transaction? handle := by
    rw [Database.transaction?, same]
    rfl
  rw [Database.transaction?_modify, found]
  by_cases here : name = other
  · subst here
    rw [if_pos (handle_of_known known)]
    simp
  · have apart : shared.handle name ≠ handle := fun same =>
      here (h.handle_inj.1 (same.trans (handle_of_known known).symm))
    rw [if_neg apart]
    simp [here]

namespace Alike

variable {a b c : Shared}

theorem refl (tenant : Tenant) (shared : Shared) : Alike tenant shared shared :=
  ⟨.refl _ _, rfl, fun _ => rfl⟩

theorem trans (h : Alike tenant a b) (h' : Alike tenant b c) : Alike tenant a c :=
  ⟨h.stores.trans h'.stores, h.names.trans h'.names,
    fun name => (h.transactions name).trans (h'.transactions name)⟩

theorem symm (h : Alike tenant a b) : Alike tenant b a :=
  ⟨h.stores.symm, h.names.symm, fun name => (h.transactions name).symm⟩

/-- Changes after which each transaction is seen alike. -/
theorem change (h : Alike tenant a b) {left right : Database}
    (stores : Store.EqOn tenant.keys left.store right.store)
    {f g : Handle → Transaction → Transaction} (changesLeft : a.Changes left f)
    (changesRight : b.Changes right g)
    (same : ∀ name t t', t.seenBy tenant = t'.seenBy tenant →
      (f name t).seenBy tenant = (g name t').seenBy tenant) :
    Alike tenant { a with database := left } { b with database := right } := by
  refine ⟨stores, h.names, fun name => ?_⟩
  have before := h.transactions name
  rw [transaction?_eq, transaction?_eq] at before ⊢
  dsimp only
  cases known : a.own[name.number]? with
  | none =>
    have unknown := List.getElem?_eq_none (h.names ▸ List.getElem?_eq_none_iff.1 known)
    rw [unknown]
    rfl
  | some handle =>
    have less := h.names ▸ (List.getElem?_eq_some_iff.1 known).1
    have known' := List.getElem?_eq_getElem less
    rw [known, known'] at before
    rw [known', Option.bind_some, Option.bind_some, changesLeft name _ known,
      changesRight name _ known']
    simp only [Option.bind_some] at before
    cases here : a.database.transaction? handle with
    | none =>
      rw [here] at before
      rw [Option.map_eq_none_iff.1 before.symm]
      rfl
    | some t =>
      rw [here] at before
      obtain ⟨t', there, seen⟩ := Option.map_eq_some_iff.1 before.symm
      rw [there]
      exact congrArg some (same name t t' seen.symm)

/-! ### Deeds of others -/

/-- An effect that leaves the tables of the tenant alone is not seen, wherever it is entered. -/
theorem settle_foreign {α : Type} (shared : Shared) (context : Context) {effect : Effect α}
    (stores : Store.EqOn tenant.keys effect.store shared.database.store)
    (unseen : Journal.seenBy tenant effect.entries = []) :
    Alike tenant { shared with database := shared.database.tick.settle context effect } shared := by
  refine (refl tenant shared).change ?_ (changes_settle _ context effect) shared.changes_refl
    fun name t t' seen => ?_
  · rw [Database.store_settle]
    exact stores
  · split
    · rw [Transaction.seenBy_enter, unseen, Transaction.enter_nil, seen]
      rfl
    · exact seen

theorem run_foreign (shared : Shared) (surroundings : Surroundings) {context : Context}
    (foreign : context.tenant ≠ tenant) (operation : Operation) :
    Alike tenant { shared with database := (operation.run surroundings context shared.database).2 }
      shared := by
  have apart : tenant.keys ⊆ context.tenant.keysᶜ := Tenant.keys_subset_compl foreign.symm
  rcases operation.run_cases surroundings context shared.database with ⟨e, refused⟩ | settled
  · rw [refused]
    exact ⟨.refl _ _, rfl, fun _ => rfl⟩
  · rw [settled]
    refine settle_foreign shared context ((Operation.eqOn_effect _ _ operation _).mono apart) ?_
    refine Journal.seenBy_eq_nil fun entry mem mine => ?_
    exact apart mine (Operation.key_mem_of_entries _ _ operation _ entry mem)

/-- The end of a transaction of others. -/
theorem ending_foreign (h : shared.Orderly tenant guests) (foreign : handle ∈ shared.others)
    {after : Database} (ending : shared.database.Ending handle after) :
    Alike tenant { shared with database := after } shared := by
  have notOwn : handle ∉ shared.own := fun mem =>
    (List.nodup_append.1 h.distinct).2.2 _ mem _ foreign rfl
  refine (refl tenant shared).change ?_ (changes_ending notOwn ending) shared.changes_refl
    fun name t t' seen => seen
  rcases ending.store_cases with same | undone
  · rw [same]
    exact .refl _ _
  · rw [undone]
    exact Store.eqOn_undo (h.others handle foreign) _

/-- Others have opened a transaction. -/
theorem push_foreign (h : shared.Orderly tenant guests) (opened : Transaction)
    (others : List Handle) :
    Alike tenant ⟨shared.database.push opened, shared.own, others⟩ shared := by
  have same : Alike tenant { shared with database := shared.database.push opened } shared :=
    (refl tenant shared).change (.refl _ _) (changes_push h opened) shared.changes_refl
      fun name t t' seen => seen
  exact ⟨same.stores, same.names, same.transactions⟩

end Alike

/-- What deeds of others can do to a shared database. -/
inductive Disturbed (tenant : Tenant) (guests : Set Tenant) (shared : Shared) : Shared → Prop where
  | none (calls : Calls) :
    Disturbed tenant guests shared { shared with database := { shared.database with calls } }
  | call (surroundings : Surroundings) (context : Context) (operation : Operation)
    (foreign : context.tenant ≠ tenant)
    (invited : ∀ handle ∈ shared.own,
      context.transaction = some handle → context.tenant ∈ guests) :
    Disturbed tenant guests shared
      { shared with database := (operation.run surroundings context shared.database).2 }
  | opened (calls : Calls) (opened : Transaction) (empty : opened.entries = []) :
    Disturbed tenant guests shared
      ⟨{ shared.database with calls }.push opened, shared.own,
        shared.others ++ [shared.database.nextHandle]⟩
  | ended {handle : Handle} (foreign : handle ∈ shared.others) {after : Database}
    (ending : shared.database.Ending handle after) :
    Disturbed tenant guests shared { shared with database := after }

namespace Disturbed

variable {after : Shared}

/-- What others do is not seen. -/
theorem alike (disturbed : Disturbed tenant guests shared after)
    (h : shared.Orderly tenant guests) : after.Alike tenant shared := by
  cases disturbed with
  | none calls => exact ⟨.refl _ _, rfl, fun _ => rfl⟩
  | call surroundings context operation foreign =>
    exact .run_foreign shared surroundings foreign operation
  | opened calls opened =>
    have asked : Orderly tenant guests { shared with database := { shared.database with calls } } :=
      h.of_transactions rfl
    have pushed := Alike.push_foreign asked opened (shared.others ++ [shared.database.nextHandle])
    exact ⟨pushed.stores, pushed.names, pushed.transactions⟩
  | ended foreign ending => exact .ending_foreign h foreign ending

theorem orderly (disturbed : Disturbed tenant guests shared after)
    (h : shared.Orderly tenant guests) : after.Orderly tenant guests := by
  cases disturbed with
  | none calls => exact h.of_transactions rfl
  | call surroundings context operation foreign invited =>
    exact h.run surroundings foreign invited operation
  | opened calls opened empty =>
    have asked : Orderly tenant guests { shared with database := { shared.database with calls } } :=
      h.of_transactions rfl
    exact asked.push_others empty
  | ended foreign ending => exact h.ending ending

end Disturbed

end Shared

namespace Deed

variable {tenant : Tenant} {guests : Set Tenant} {shared : Shared}

/-- All that a deed of others can do. -/
theorem run_disturbed {deed : Deed} (spares : deed.Spares tenant)
    (invited : ∀ guest, deed.Visits guest → guest ∈ guests)
    (h : shared.Orderly tenant guests) : shared.Disturbed tenant guests (deed.run shared) := by
  -- without the transaction that is named nothing is done
  have idle : shared.Disturbed tenant guests shared := .none shared.database.calls
  cases deed with
  | call surroundings context operation =>
    refine .call surroundings (shared.outer context) operation spares fun handle mine inside => ?_
    obtain ⟨name, -, rfl⟩ := Option.map_eq_some_iff.1 inside
    exact absurd mine (h.not_mem_own name)
  | join surroundings context operation =>
    exact .call surroundings (shared.inner context) operation spares fun _ _ _ =>
      invited context.tenant rfl
  | openTransaction surroundings backend =>
    rw [run, Database.openTransaction]
    cases backend.openFault with
    | some e => exact .none _
    | none => exact .opened _ _ rfl
  | adopt surroundings backend => exact .opened shared.database.calls _ rfl
  | mark place =>
    rw [run]
    cases known : shared.others[place]? with
    | none => exact idle
    | some handle => exact .ended (List.mem_of_getElem? known) .marked
  | commit backend place =>
    rw [run]
    cases known : shared.others[place]? with
    | none => exact idle
    | some handle => exact .ended (List.mem_of_getElem? known) (.committed backend)
  | rollBack backend place =>
    rw [run]
    cases known : shared.others[place]? with
    | none => exact idle
    | some handle => exact .ended (List.mem_of_getElem? known) (.rolledBack backend)
  | spoil place => exact spares.elim

end Deed

/-- What others do one after the other is not seen, and each side keeps to itself. -/
theorem Shared.after_alike {tenant : Tenant} {guests : Set Tenant} {shared : Shared}
    {deeds : List Deed} (spares : ∀ deed ∈ deeds, deed.Spares tenant)
    (invited : ∀ deed ∈ deeds, ∀ guest, deed.Visits guest → guest ∈ guests)
    (h : shared.Orderly tenant guests) :
    (shared.after deeds).Alike tenant shared ∧ (shared.after deeds).Orderly tenant guests := by
  induction deeds generalizing shared with
  | nil => exact ⟨.refl tenant shared, h⟩
  | cons deed rest ih =>
    rw [List.forall_mem_cons] at spares invited
    have disturbed := deed.run_disturbed spares.1 invited.1 h
    obtain ⟨alike, orderly⟩ := ih spares.2 invited.2 (disturbed.orderly h)
    exact ⟨alike.trans (disturbed.alike h), orderly⟩

end RecordStore
