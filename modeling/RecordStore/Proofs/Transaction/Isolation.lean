import RecordStore.Proofs.Transaction.Session
import RecordStore.Proofs.Transaction.Sharing
import RecordStore.Proofs.Transaction.Tables

/-!
# Isolation of tenants

What a tenant sees of a shared database settles what its steps answer and what it sees after them,
and what others do is not seen. So the tenant has the same answers whatever others do, unless they
spoil a transaction of the tenant. The order in which records are handed over is another thing that
may differ between two runs; it is not seen either, unless a list sorts by values that are not in
order.

* `Shared.Linked` — two shared databases that are seen alike;
* `Shared.Linked.call`, `Shared.Linked.enter`, `Shared.Linked.leave` — the steps of the tenant;
* `Work.Settled` — the moves of a run do not depend on the order of the records;
* `Work.runAmong_sameFor` — two runs among different deeds, and with records in different orders;
* `Work.tenant_isolated` — what follows for the answers and for the tables;
* `Work.visited_not_isolated` — what becomes of guests, of units that others spoil, and of lists by
  values that are not in order.
-/

namespace RecordStore

/-- What the surroundings contribute to a step, however many steps others have made. -/
structure Reading where
  moment : Moment
  transactionId : String

namespace Reading

/-- Surroundings with only one reading. -/
def surroundings (reading : Reading) : Surroundings :=
  ⟨fun _ => reading.moment, fun _ => reading.transactionId⟩

/-- The same reading, but for the order in which records are handed over. -/
def arranged (reading : Reading) (arrangement : Arrangement) : Reading :=
  { reading with moment := { reading.moment with arrangement } }

end Reading

namespace Shared

variable {tenant : Tenant} {guests guests' : Set Tenant} {shared a b : Shared}

/-! ### What is settled by what is seen -/

namespace Alike

theorem cleared_transaction? (h : a.Alike tenant b) (context : Context) :
    (context.transaction.bind a.transaction?).map Transaction.cleared =
      (context.transaction.bind b.transaction?).map Transaction.cleared := by
  cases context.transaction with
  | none => rfl
  | some name =>
    have seen := congrArg (Option.map Transaction.cleared) (h.transactions name)
    simp only [Option.map_map, Function.comp_def, Transaction.cleared_seenBy] at seen
    exact seen

/-- What is settled by what is seen of an own transaction is the same. -/
theorem seen_congr (h : a.Alike tenant b) {α : Type} (known : Option Transaction → α)
    (same : ∀ t, known (t.map (Transaction.seenBy tenant)) = known t) (name : Handle) :
    known (a.database.transaction? (a.handle name)) =
      known (b.database.transaction? (b.handle name)) := by
  rw [← same, ← same (b.database.transaction? _)]
  exact congrArg known (h.transactions name)

theorem checkHandle_eq (h : a.Alike tenant b) (name : Handle) :
    a.database.checkHandle (a.handle name) = b.database.checkHandle (b.handle name) := by
  let check (known : Option Transaction) : Except StoreError Unit :=
    known.elim (.ok ()) fun t =>
      if t.journal.isSome then .ok () else .error (Database.foreignHandle t)
  have checked (database : Database) (handle : Handle) :
      database.checkHandle handle = check (database.transaction? handle) := by
    unfold Database.checkHandle
    cases database.transaction? handle <;> rfl
  rw [checked, checked]
  refine h.seen_congr check ?_ name
  rintro (_ | ⟨id, backend, _ | journal, rollbackOnly⟩) <;> rfl

theorem checkWritable_eq (h : a.Alike tenant b) (context : Context) :
    a.database.checkWritable (a.inner context) = b.database.checkWritable (b.inner context) := by
  simp only [Database.checkWritable, inner, Context.among]
  cases context.transaction with
  | none => rfl
  | some name => exact h.checkHandle_eq name

theorem transactionId_eq (h : a.Alike tenant b) (name : Handle) :
    a.database.transactionId (a.handle name) = b.database.transactionId (b.handle name) :=
  h.seen_congr (fun t => (t.map Transaction.id).getD "") (by rintro (_ | _) <;> rfl) name

theorem isRollbackOnly_eq (h : a.Alike tenant b) (name : Handle) :
    a.database.isRollbackOnly (a.handle name) = b.database.isRollbackOnly (b.handle name) :=
  h.seen_congr (fun t => (t.map Transaction.rollbackOnly).getD false)
    (by rintro (_ | _) <;> rfl) name

theorem seenBy_entries (h : a.Alike tenant b) (name : Handle) :
    Journal.seenBy tenant (a.database.entries (a.handle name)) =
      Journal.seenBy tenant (b.database.entries (b.handle name)) := by
  let seen (t : Option Transaction) : Journal :=
    Journal.seenBy tenant ((t.bind Transaction.journal).getD [])
  refine h.seen_congr seen ?_ name
  rintro (_ | ⟨id, backend, journal, rollbackOnly⟩)
  · rfl
  · cases journal with
    | none => rfl
    | some journal => simp [seen, Transaction.seenBy, Journal.seenBy]

end Alike

/-! ### Steps of the tenant -/

/-- Two shared databases that a tenant sees alike. -/
structure Linked (tenant : Tenant) (guests guests' : Set Tenant) (a b : Shared) : Prop where
  alike : a.Alike tenant b
  left : a.Orderly tenant guests
  right : b.Orderly tenant guests'

namespace Linked

theorem after (h : Linked tenant guests guests' a b) {deeds deeds' : List Deed}
    (spares : ∀ deed ∈ deeds, deed.Spares tenant) (spares' : ∀ deed ∈ deeds', deed.Spares tenant)
    (invited : ∀ deed ∈ deeds, ∀ guest, deed.Visits guest → guest ∈ guests)
    (invited' : ∀ deed ∈ deeds', ∀ guest, deed.Visits guest → guest ∈ guests') :
    Linked tenant guests guests' (a.after deeds) (b.after deeds') := by
  obtain ⟨seen, left⟩ := after_alike spares invited h.left
  obtain ⟨seen', right⟩ := after_alike spares' invited' h.right
  exact ⟨(seen.trans h.alike).trans seen'.symm, left, right⟩

/-- A backend has been asked for something. -/
theorem ask (h : Linked tenant guests guests' a b) (calls calls' : Calls) :
    Linked tenant guests guests' { a with database := { a.database with calls } }
      { b with database := { b.database with calls := calls' } } :=
  ⟨⟨h.alike.stores, h.alike.names, h.alike.transactions⟩, h.left.of_transactions rfl,
    h.right.of_transactions rfl⟩

/-- Effects in a context of the tenant that are alike for the tenant. -/
theorem settle (h : Linked tenant guests guests' a b) (context : Context) {α : Type}
    {left right : Effect α} (stores : Store.EqOn tenant.keys left.store right.store)
    (entries : left.entries = right.entries) :
    Alike tenant { a with database := a.database.tick.settle (a.inner context) left }
      { b with database := b.database.tick.settle (b.inner context) right } := by
  refine h.alike.change ?_ (changes_settle_inner h.left context left)
    (changes_settle_inner h.right context right) fun name t t' seen => ?_
  · rw [Database.store_settle, Database.store_settle]
    exact stores
  · by_cases here : context.transaction = some name
    · rw [if_pos here, if_pos here, Transaction.seenBy_enter, Transaction.seenBy_enter, seen,
        entries]
    · rw [if_neg here, if_neg here, seen]

/-- What is seen settles the answer of a call and what is seen after it. The order in which the
records come does not matter if the call is in order. -/
theorem call (h : Linked tenant guests guests' a b) (reading : Reading) {context : Context}
    (mine : context.tenant = tenant) {operation : Operation} {arrangement : Arrangement}
    (settled : arrangement = reading.moment.arrangement ∨
      a.database.store.Has Key.Identifies ∧ operation.InOrder tenant a.database.store) :
    (a.call reading.surroundings context operation).1 =
        (b.call (reading.arranged arrangement).surroundings context operation).1 ∧
      Linked tenant guests guests' (a.call reading.surroundings context operation).2
        (b.call (reading.arranged arrangement).surroundings context operation).2 := by
  suffices alike : (a.call reading.surroundings context operation).1 =
        (b.call (reading.arranged arrangement).surroundings context operation).1 ∧
      Alike tenant (a.call reading.surroundings context operation).2
        (b.call (reading.arranged arrangement).surroundings context operation).2 from
    ⟨alike.1, alike.2, h.left.call _ mine operation, h.right.call _ mine operation⟩
  subst mine
  have rearranged : operation.effect (reading.arranged arrangement).moment context.tenant
      a.database.store = operation.effect reading.moment context.tenant a.database.store := by
    rcases settled with rfl | ⟨identified, ordered⟩
    · rfl
    · exact Operation.effect_rearranged identified ordered reading.moment arrangement
  obtain ⟨reply, undo, stores⟩ :=
    Operation.effect_congr h.alike.stores (reading.arranged arrangement).moment operation
  rw [rearranged] at reply undo stores
  have entered := h.settle context stores (congrArg Option.toList undo)
  have run (s : Shared) (reading : Reading) : s.call reading.surroundings context operation =
      let answered := operation.runAt reading.moment (s.inner context) s.database.tick
      (answered.1, { s with database := answered.2 }) := rfl
  rw [run a, run b]
  cases writes : operation.writes with
  | false =>
    rw [Operation.runAt_of_reading (a.inner context) (Operation.alteration_eq_none writes _ _),
      Operation.runAt_of_reading (b.inner context) (Operation.alteration_eq_none writes _ _)]
    exact ⟨reply, entered⟩
  | true =>
    -- both contexts may write, or none
    have same := h.alike.checkWritable_eq context
    cases writable : a.database.checkWritable (a.inner context) with
    | ok u =>
      have written (s : Shared) (reading : Reading)
          (writable : s.database.tick.checkWritable (s.inner context) = .ok ()) :=
        Operation.runAt_eq_of_writable writable reading.moment operation
      rw [written a _ writable, written b _ (same.symm.trans writable)]
      exact ⟨reply, entered⟩
    | error e =>
      obtain ⟨_, alters⟩ := Operation.exists_alteration writes reading.moment context.tenant
      obtain ⟨_, alters'⟩ := Operation.exists_alteration writes
        (reading.arranged arrangement).moment context.tenant
      rw [Operation.runAt_of_refused (a.inner context) alters a.database.tick writable,
        Operation.runAt_of_refused (b.inner context) alters' b.database.tick
          (same.symm.trans writable)]
      exact ⟨rfl, h.alike.stores, h.alike.names, h.alike.transactions⟩

/-- An own transaction that is changed alike. -/
theorem modify (h : Linked tenant guests guests' a b) (name : Handle)
    {change : Transaction → Transaction}
    (same : ∀ t t' : Transaction, t.seenBy tenant = t'.seenBy tenant →
      (change t).seenBy tenant = (change t').seenBy tenant)
    {left right : Database} (keepsLeft : left.transactions = a.database.transactions)
    (keepsRight : right.transactions = b.database.transactions)
    (stores : Store.EqOn tenant.keys left.store right.store) :
    Alike tenant { a with database := left.modify (a.handle name) change }
      { b with database := right.modify (b.handle name) change } := by
  refine h.alike.change stores (changes_modify h.left name change keepsLeft)
    (changes_modify h.right name change keepsRight) fun other t t' seen => ?_
  by_cases here : name = other
  · rw [if_pos here, if_pos here]
    exact same t t' seen
  · rw [if_neg here, if_neg here]
    exact seen

theorem mark (h : Linked tenant guests guests' a b) (name : Handle) :
    Alike tenant { a with database := a.database.mark (a.handle name) }
      { b with database := b.database.mark (b.handle name) } := by
  refine h.modify name (fun t t' seen => ?_) rfl rfl h.alike.stores
  exact congrArg (fun t : Transaction => { t with rollbackOnly := true }) seen

theorem cleared (h : Linked tenant guests guests' a b) (name : Handle) {left right : Database}
    (keepsLeft : left.transactions = a.database.transactions)
    (keepsRight : right.transactions = b.database.transactions)
    (stores : Store.EqOn tenant.keys left.store right.store) :
    Alike tenant { a with database := left.modify (a.handle name) .cleared }
      { b with database := right.modify (b.handle name) .cleared } := by
  refine h.modify name (fun t t' seen => ?_) keepsLeft keepsRight stores
  rw [← t.cleared_seenBy tenant, ← t'.cleared_seenBy tenant, seen]

theorem commit (h : Linked tenant guests guests' a b) (backend : Backend) (name : Handle) :
    (a.database.commit backend (a.handle name)).1 = (b.database.commit backend (b.handle name)).1 ∧
      Alike tenant { a with database := (a.database.commit backend (a.handle name)).2 }
        { b with database := (b.database.commit backend (b.handle name)).2 } := by
  unfold Database.commit
  rw [h.alike.checkHandle_eq name]
  cases backend.commitFault with
  | some e => exact ⟨rfl, (h.ask _ _).alike⟩
  | none =>
    dsimp only
    cases b.database.checkHandle (b.handle name) with
    | error e => exact ⟨rfl, (h.ask _ _).alike⟩
    | ok u => exact ⟨rfl, h.cleared name rfl rfl h.alike.stores⟩

theorem rollBack (h : Linked tenant guests guests' a b) (backend : Backend) (name : Handle) :
    Alike tenant { a with database := a.database.rollBack backend (a.handle name) }
      { b with database := b.database.rollBack backend (b.handle name) } := by
  unfold Database.rollBack
  cases backend.rollbackFault with
  | some e => exact (h.ask _ _).alike
  | none =>
    exact h.cleared name rfl rfl (h.alike.stores.undo_of_seenBy (h.alike.seenBy_entries name))

theorem close (h : Linked tenant guests guests' a b) (backend : Backend) (name : Handle)
    (outcome : Outcome) :
    (Manager.close backend (a.handle name) outcome a.database).1 =
        (Manager.close backend (b.handle name) outcome b.database).1 ∧
      Alike tenant
        { a with database := (Manager.close backend (a.handle name) outcome a.database).2 }
        { b with database := (Manager.close backend (b.handle name) outcome b.database).2 } := by
  have rolled := h.rollBack backend name
  unfold Manager.close
  rw [h.alike.transactionId_eq name]
  cases outcome with
  | failed | panicked => exact ⟨rfl, rolled⟩
  | done =>
    dsimp only
    rw [h.alike.isRollbackOnly_eq name]
    cases b.database.isRollbackOnly (b.handle name) with
    | true => exact ⟨rfl, rolled⟩
    | false =>
      have committed := h.commit backend name
      generalize a.database.commit backend (a.handle name) = left at committed
      generalize b.database.commit backend (b.handle name) = right at committed
      obtain ⟨answer, left⟩ := left
      obtain ⟨answer', right⟩ := right
      obtain ⟨same, alike⟩ := committed
      obtain rfl : answer = answer' := same
      cases answer with
      | ok u => exact ⟨rfl, alike⟩
      | error e => exact ⟨rfl, alike⟩

/-- Both have opened a transaction. -/
theorem push (h : Linked tenant guests guests' a b) {opened : Transaction}
    (empty : opened.entries = []) :
    Linked tenant guests guests'
      ⟨a.database.push opened, a.own ++ [a.database.nextHandle], a.others⟩
      ⟨b.database.push opened, b.own ++ [b.database.nextHandle], b.others⟩ := by
  have alike : Alike tenant { a with database := a.database.push opened }
      { b with database := b.database.push opened } :=
    h.alike.change h.alike.stores (changes_push h.left opened) (changes_push h.right opened)
      fun _ _ _ seen => seen
  have names := h.alike.names
  refine ⟨⟨h.alike.stores, by simp [names], fun name => ?_⟩, h.left.push_own empty,
    h.right.push_own empty⟩
  have before := alike.transactions name
  rw [transaction?_eq, transaction?_eq] at before ⊢
  dsimp only at before ⊢
  by_cases known : name.number < a.own.length
  · rw [List.getElem?_append_left known, List.getElem?_append_left (names ▸ known)]
    exact before
  · have unknown : a.own.length ≤ name.number := Nat.le_of_not_lt known
    rw [List.getElem?_append_right unknown, List.getElem?_append_right (names ▸ unknown), names]
    -- the name that is new, or one that is not given yet
    cases name.number - b.own.length with
    | zero => simp [Database.transaction?_push]
    | succ n => rfl

theorem markIn (h : Linked tenant guests guests' a b) (context : Context) :
    Linked tenant guests guests' (a.mark context) (b.mark context) := by
  unfold Shared.mark
  cases context.transaction with
  | none => exact h
  | some name => exact ⟨h.mark name, h.left.ending .marked, h.right.ending .marked⟩

theorem adopt (h : Linked tenant guests guests' a b) (reading : Reading)
    (arrangement : Arrangement) (backend : String) :
    Linked tenant guests guests' (a.adopt reading.surroundings backend)
      (b.adopt (reading.arranged arrangement).surroundings backend) := by
  let opened : Transaction := ⟨reading.transactionId, backend, none, false⟩
  have empty : opened.entries = [] := rfl
  exact h.push empty

/-- The begin of a unit of work. -/
theorem enter (h : Linked tenant guests guests' a b) (manager : Manager) (reading : Reading)
    (arrangement : Arrangement) (context : Context) :
    (a.enter manager reading.surroundings context).1 =
        (b.enter manager (reading.arranged arrangement).surroundings context).1 ∧
      Linked tenant guests guests' (a.enter manager reading.surroundings context).2
        (b.enter manager (reading.arranged arrangement).surroundings context).2 := by
  cases manager with
  | direct =>
    rw [enter_direct, enter_direct]
    exact ⟨rfl, h⟩
  | transactional backend =>
    cases around : context.transaction with
    | some name =>
      rw [enter_of_inside _ _ around, enter_of_inside _ _ around]
      exact ⟨rfl, h⟩
    | none =>
      cases opens : backend.openFault with
      | some e =>
        rw [enter_of_fault _ _ around opens, enter_of_fault _ _ around opens]
        exact ⟨rfl, h.ask _ _⟩
      | none =>
        rw [enter_of_opens _ _ around opens, enter_of_opens _ _ around opens, h.alike.names]
        let opened : Transaction := ⟨reading.transactionId, memoryBackend, some [], false⟩
        have empty : opened.entries = [] := rfl
        let asked (s : Shared) : Calls :=
          { s.database.calls with opened := s.database.calls.opened + 1 }
        exact ⟨rfl, (h.ask (asked a) (asked b)).push empty⟩

/-- The end of a unit of work. -/
theorem leave (h : Linked tenant guests guests' a b) (manager : Manager) (context inside : Context)
    (outcome : Outcome) :
    (a.leave manager context inside outcome).1 = (b.leave manager context inside outcome).1 ∧
      Linked tenant guests guests' (a.leave manager context inside outcome).2
        (b.leave manager context inside outcome).2 := by
  suffices alike : (a.leave manager context inside outcome).1 =
        (b.leave manager context inside outcome).1 ∧
      Alike tenant (a.leave manager context inside outcome).2
        (b.leave manager context inside outcome).2 from
    ⟨alike.1, alike.2, h.left.leave manager context inside outcome,
      h.right.leave manager context inside outcome⟩
  cases manager with
  | direct => exact ⟨rfl, h.alike⟩
  | transactional backend =>
    cases around : context.transaction with
    | some name =>
      rw [leave_of_inside a around, leave_of_inside b around]
      cases outcome with
      | failed e => exact ⟨rfl, h.mark name⟩
      | done | panicked => exact ⟨rfl, h.alike⟩
    | none =>
      cases own : inside.transaction with
      | none =>
        rw [leave_of_outside a around own, leave_of_outside b around own]
        exact ⟨rfl, h.alike⟩
      | some name =>
        rw [leave_of_opened a around own, leave_of_opened b around own]
        exact h.close backend name outcome

end Linked

/-! ### What the tenant leaves alone -/

theorem store_enter (shared : Shared) (manager : Manager) (surroundings : Surroundings)
    (context : Context) :
    (shared.enter manager surroundings context).2.database.store = shared.database.store := by
  rcases shared.enter_cases surroundings manager context with same | ⟨e, calls, fault⟩ | opened
  · rw [same]
  · rw [fault]
  · rw [opened]
    rfl

theorem tenant_enter (shared : Shared) (manager : Manager) (surroundings : Surroundings)
    (context inside : Context)
    (entered : (shared.enter manager surroundings context).1 = .ok inside) :
    inside.tenant = context.tenant := by
  rcases shared.enter_cases surroundings manager context with same | ⟨e, calls, fault⟩ | opened
  · rw [same] at entered
    exact Except.ok.inj entered ▸ rfl
  · rw [fault] at entered
    exact nomatch entered
  · rw [opened] at entered
    exact Except.ok.inj entered ▸ rfl

theorem eqOn_call (shared : Shared) (surroundings : Surroundings) (context : Context)
    (operation : Operation) :
    Store.EqOn context.tenant.keysᶜ (shared.call surroundings context operation).2.database.store
      shared.database.store := by
  show Store.EqOn _ (operation.run surroundings (shared.inner context) shared.database).2.store _
  rcases operation.run_cases surroundings (shared.inner context) shared.database with
    ⟨e, refused⟩ | settled
  · rw [refused]
    exact .refl _ _
  · rw [settled]
    dsimp only
    rw [Database.store_settle]
    exact Operation.eqOn_effect _ _ operation _

/-- The end of a unit leaves the tables of everybody alone who is no guest. -/
theorem eqOn_leave (h : shared.Orderly tenant guests) (manager : Manager)
    (context inside : Context) (outcome : Outcome) {other : Tenant} (foreign : other ≠ tenant)
    (absent : other ∉ guests) :
    Store.EqOn other.keys (shared.leave manager context inside outcome).2.database.store
      shared.database.store := by
  show Store.EqOn _
    (manager.leave (shared.inner context) (shared.inner inside) outcome shared.database).2.store _
  rcases manager.leave_cases (shared.inner context) (shared.inner inside) outcome shared.database
    with same | ⟨handle, meant, ending⟩
  · rw [same]
    exact .refl _ _
  · rcases ending.store_cases with same | undone
    · rw [same]
      exact .refl _ _
    · obtain ⟨name, rfl⟩ : ∃ name, shared.handle name = handle := by
        rcases meant with around | within
        · obtain ⟨name, -, same⟩ := Option.map_eq_some_iff.1 around
          exact ⟨name, same⟩
        · obtain ⟨name, -, same⟩ := Option.map_eq_some_iff.1 within
          exact ⟨name, same⟩
      have entered : ∀ entry ∈ shared.database.entries (shared.handle name),
          entry.key ∉ other.keys := by
        rintro entry mem (rfl : entry.key.place.tenant = other)
        exact (h.own_entries name entry mem).elim foreign absent
      rw [undone]
      exact Store.eqOn_undo entered _

end Shared

/-! ### Runs -/

/-- The answer of a call. -/
def Answer.IsCall : Answer → Prop
  | call _ _ => True
  | _ => False

/-- A move that leaves the tables of other tenants alone. A call does so for all of them, but the
end of a unit takes back what guests have entered into its journal. -/
def Move.Confined (tenant : Tenant) (guests : Set Tenant) (move : Move) : Prop :=
  ∀ other ≠ tenant, move.answer.IsCall ∨ other ∉ guests →
    Store.EqOn other.keys move.after move.before

theorem Move.Confined.of_eq {tenant : Tenant} {guests : Set Tenant} {before after : Store}
    (same : after = before) (answer : Answer) :
    Move.Confined tenant guests ⟨before, answer, after⟩ :=
  fun _ _ _ => same ▸ .refl _ _

/-- A move whose answer has nothing to do with the order in which records are handed over. -/
def Move.InOrder (tenant : Tenant) (move : Move) : Prop :=
  match move.answer with
  | .call operation _ => operation.InOrder tenant move.before
  | _ => True

/-- A step whose answer has nothing to do with that order in any store. -/
def Answer.ignoresOrder : Answer → Bool
  | call operation _ => operation.ignoresOrder
  | _ => true

theorem Move.inOrder_of_ignoresOrder {move : Move} (ignores : move.answer.ignoresOrder = true)
    (tenant : Tenant) : move.InOrder tenant := by
  obtain ⟨before, answer, after⟩ := move
  cases answer with
  | call operation reply => exact Operation.inOrder_of_ignoresOrder ignores tenant before
  | begun | ended => trivial

/-- The moves of a unit, with those of its work between its begin and its end. -/
theorem Move.confined_unit {tenant : Tenant} {guests : Set Tenant}
    {before start ready closed : Store} {moves : List Move} (same : start = before)
    (inner : ∀ move ∈ moves, move.Confined tenant guests)
    (kept : ∀ other ≠ tenant, other ∉ guests → Store.EqOn other.keys closed ready)
    (outcome : Outcome) :
    ∀ move ∈ ⟨before, .begun none, start⟩ :: moves ++ [⟨ready, .ended outcome, closed⟩],
      move.Confined tenant guests :=
  List.forall_mem_append.2 ⟨List.forall_mem_cons.2 ⟨.of_eq same _, inner⟩,
    List.forall_mem_singleton.2 fun other foreign allowed =>
      kept other foreign (allowed.resolve_left id)⟩

/-- Sessions that are the same for the tenant. -/
structure Session.SameFor {σ : Type} (tenant : Tenant) (guests guests' : Set Tenant)
    (a b : Session σ) : Prop where
  outcome : a.outcome = b.outcome
  own : a.own = b.own
  steps : a.steps = b.steps
  answers : a.moves.map Move.answer = b.moves.map Move.answer
  shared : Shared.Linked tenant guests guests' a.shared b.shared
  confined : ∀ move ∈ a.moves, move.Confined tenant guests

theorem Session.SameFor.follow {σ : Type} {tenant : Tenant} {guests guests' : Set Tenant}
    {a b : Session σ} (h : SameFor tenant guests guests' a b) {before before' : List Move}
    (answers : before.map Move.answer = before'.map Move.answer)
    (confined : ∀ move ∈ before, move.Confined tenant guests) :
    SameFor tenant guests guests' (a.follow before) (b.follow before') where
  outcome := h.outcome
  own := h.own
  steps := h.steps
  answers := by simp only [Session.follow, List.map_append, answers, h.answers]
  shared := h.shared
  confined move mem := (List.mem_append.1 mem).elim (confined move) (h.confined move)

namespace Work

variable {σ : Type}

/-- Work of a tenant: its calls are made on the tables of the tenant, and it goes on without regard
to what is in the journals of transactions. -/
def MadeBy (tenant : Tenant) : Work σ → Prop
  | done => True
  | fail _ => True
  | panic _ => True
  | crash _ => True
  | note _ next => ∀ own, (next own).MadeBy tenant
  | call context _ next => context.tenant = tenant ∧ ∀ reply, (next reply).MadeBy tenant
  | look _ next => ∀ transaction,
    next (transaction.map .cleared) = next transaction ∧ (next transaction).MadeBy tenant
  | mark _ next => next.MadeBy tenant
  | foreign _ next => ∀ handle, (next handle).MadeBy tenant
  | unit context body next => context.tenant = tenant ∧
    (∀ inside : Context, inside.tenant = tenant → (body inside).MadeBy tenant) ∧
      ∀ reply, (next reply).MadeBy tenant

/-- The order in which records are handed over is the same in both sessions, or it does not matter for
any of some moves. -/
def Settled (tenant : Tenant) (readings : Nat → Reading) (arrangements : Nat → Arrangement)
    (moves : List Move) : Prop :=
  (∀ n, arrangements n = (readings n).moment.arrangement) ∨
    ∀ move ∈ moves, move.before.Has Key.Identifies ∧ move.InOrder tenant

theorem Settled.mono {tenant : Tenant} {readings : Nat → Reading} {arrangements : Nat → Arrangement}
    {moves moves' : List Move} (h : Settled tenant readings arrangements moves)
    (subset : moves' ⊆ moves) : Settled tenant readings arrangements moves' :=
  h.imp_right fun ordered move mem => ordered move (subset mem)

/-- Among any deeds of others work of a tenant makes the same session for the tenant. -/
theorem runAmong_sameFor {tenant : Tenant} {work : Work σ} (made : work.MadeBy tenant)
    (manager : Manager) (readings : Nat → Reading) (arrangements : Nat → Arrangement)
    {guests guests' : Set Tenant} {deeds deeds' : Nat → List Deed}
    (spares : ∀ n, ∀ deed ∈ deeds n, deed.Spares tenant)
    (spares' : ∀ n, ∀ deed ∈ deeds' n, deed.Spares tenant)
    (invited : ∀ n, ∀ deed ∈ deeds n, ∀ guest, deed.Visits guest → guest ∈ guests)
    (invited' : ∀ n, ∀ deed ∈ deeds' n, ∀ guest, deed.Visits guest → guest ∈ guests')
    (step : Nat) (own : σ) {a b : Shared} (h : Shared.Linked tenant guests guests' a b)
    (settled : Settled tenant readings arrangements
      (work.runAmong manager (fun n => (readings n).surroundings) deeds step own a).moves) :
    Session.SameFor tenant guests guests'
      (work.runAmong manager (fun n => (readings n).surroundings) deeds step own a)
      (work.runAmong manager (fun n => ((readings n).arranged (arrangements n)).surroundings) deeds'
        step own b) := by
  -- what others do before a step of the tenant
  have found (n : Nat) {a b : Shared} (h : Shared.Linked tenant guests guests' a b) :
      Shared.Linked tenant guests guests' (a.after (deeds n)) (b.after (deeds' n)) :=
    h.after (spares n) (spares' n) (invited n) (invited' n)
  induction work generalizing step own a b with
  | done | fail | panic | crash => exact ⟨rfl, rfl, rfl, rfl, found step h, nofun⟩
  | note change next ih => exact ih _ (made _) step _ h settled
  | call context operation next ih =>
    have here : arrangements step = (readings step).moment.arrangement ∨
        (a.after (deeds step)).database.store.Has Key.Identifies ∧
          operation.InOrder tenant (a.after (deeds step)).database.store :=
      settled.imp (· step) fun ordered => ordered _ List.mem_cons_self
    obtain ⟨reply, linked⟩ := (found step h).call (readings step) made.1 here
    have kept := (a.after (deeds step)).eqOn_call (readings step).surroundings context operation
    simp only [runAmong] at settled ⊢
    rw [← reply]
    refine (ih _ (made.2 _) (step + 1) own linked
      (settled.mono (List.subset_append_right _ _))).follow rfl ?_
    exact List.forall_mem_singleton.2 fun other foreign _ =>
      kept.mono (Tenant.keys_subset_compl (made.1 ▸ foreign))
  | look context next ih =>
    have linked := found step h
    simp only [runAmong] at settled ⊢
    have same : next (context.transaction.bind (b.after (deeds' step)).transaction?) =
        next (context.transaction.bind (a.after (deeds step)).transaction?) := by
      rw [← (made _).1, ← linked.alike.cleared_transaction? context, (made _).1]
    rw [same]
    exact ih _ (made _).2 (step + 1) own linked settled
  | mark context next ih =>
    exact ih made (step + 1) own ((found step h).markIn context) settled
  | foreign backend next ih =>
    have linked := found step h
    simp only [runAmong] at settled ⊢
    rw [← linked.alike.names]
    exact ih _ (made _) (step + 1) own
      (linked.adopt (readings step) (arrangements step) backend) settled
  | unit context body next ihBody ihNext =>
    have linked := found step h
    obtain ⟨entered, begun⟩ :=
      linked.enter manager (readings step) (arrangements step) context
    have same := (a.after (deeds step)).store_enter manager (readings step).surroundings context
    simp only [runAmong] at settled ⊢
    rw [← entered]
    cases answer : ((a.after (deeds step)).enter manager (readings step).surroundings context).1 with
    | error e =>
      rw [answer] at settled
      refine (ihNext _ (made.2.2 _) (step + 1) own begun
        (settled.mono (List.subset_append_right _ _))).follow rfl ?_
      exact List.forall_mem_singleton.2 (.of_eq same _)
    | ok inside =>
      rw [answer] at settled
      dsimp only at settled ⊢
      cases crashes : (body inside).crash? with
      | some message =>
        exact ⟨rfl, rfl, rfl, rfl, begun, List.forall_mem_singleton.2 (.of_eq same _)⟩
      | none =>
        have inner := (a.after (deeds step)).tenant_enter manager (readings step).surroundings
          context inside answer
        have worked := ihBody inside (made.2.1 inside (inner.trans made.1)) (step + 1) own begun
        simp only [crashes] at settled ⊢
        generalize (body inside).runAmong manager (fun n => (readings n).surroundings) deeds
          (step + 1) own _ = session at worked settled
        generalize (body inside).runAmong manager
          (fun n => ((readings n).arranged (arrangements n)).surroundings) deeds'
            (step + 1) own _ = session' at worked
        have within : Settled tenant readings arrangements session.moves := by
          refine settled.mono ?_
          cases ((session.shared.after (deeds session.steps)).leave manager context inside
            session.outcome).1 with
          | done | failed =>
            exact fun move mem =>
              List.mem_append_left _ (List.mem_append_left _ (List.mem_cons_of_mem _ mem))
          | panicked message =>
            exact fun move mem => List.mem_append_left _ (List.mem_cons_of_mem _ mem)
        have worked := worked within
        rw [← worked.outcome, ← worked.own, ← worked.steps]
        have ready := found session.steps worked.shared
        obtain ⟨ended, closed⟩ := ready.leave manager context inside session.outcome
        have kept (other : Tenant) (foreign : other ≠ tenant) (absent : other ∉ guests) :=
          Shared.eqOn_leave ready.left manager context inside session.outcome foreign absent
        have confined := Move.confined_unit same worked.confined kept
        rw [← ended]
        cases result : ((session.shared.after (deeds session.steps)).leave manager context inside
          session.outcome).1 with
        | done | failed =>
          rw [result] at settled
          refine (ihNext _ (made.2.2 _) (session.steps + 1) session.own closed
            (settled.mono (List.subset_append_right _ _))).follow ?_ (confined _)
          simp [worked.answers]
        | panicked message =>
          exact ⟨rfl, rfl, rfl, by simp [worked.answers], closed, confined _⟩

/-- Work of a tenant that begins without transactions of its own has the same end, the same answers
and the same tables whatever others do before each of its steps, and whatever the tables of others
have in them, as long as its steps have the same readings and others spoil none of its transactions.
The order in which records are handed over may be another one where every record is stored under its
identifier and no answer depends on that order. The calls of the tenant change no table of another
one, and its units of work change those of guests only, which have made calls in its transactions. -/
theorem tenant_isolated {tenant : Tenant} {work : Work σ} (made : work.MadeBy tenant)
    (manager : Manager) (readings : Nat → Reading) (arrangements : Nat → Arrangement) (own : σ)
    {deeds deeds' : Nat → List Deed} (spares : ∀ n, ∀ deed ∈ deeds n, deed.Spares tenant)
    (spares' : ∀ n, ∀ deed ∈ deeds' n, deed.Spares tenant) {database database' : Database}
    (agree : Store.EqOn tenant.keys database.store database'.store) :
    let session := work.runAmong manager (fun n => (readings n).surroundings) deeds 0 own
      ⟨database, [], []⟩
    let session' := work.runAmong manager
      (fun n => ((readings n).arranged (arrangements n)).surroundings) deeds' 0 own
      ⟨database', [], []⟩
    ((∀ n, arrangements n = (readings n).moment.arrangement) ∨
        (database.Has Key.Identifies ∧ ∀ move ∈ session.moves, move.InOrder tenant) →
      session.outcome = session'.outcome ∧ session.own = session'.own ∧
        session.moves.map Move.answer = session'.moves.map Move.answer ∧
        Store.EqOn tenant.keys session.shared.database.store session'.shared.database.store) ∧
      ∀ move ∈ session.moves, ∀ other ≠ tenant,
        (move.answer.IsCall ∨ ∀ n, ∀ deed ∈ deeds n, ¬ deed.Visits other) →
          Store.EqOn other.keys move.after move.before := by
  intro session session'
  let guests (deeds : Nat → List Deed) : Set Tenant :=
    {guest | ∃ n, ∃ deed ∈ deeds n, deed.Visits guest}
  have invited (deeds : Nat → List Deed) (n : Nat) :
      ∀ deed ∈ deeds n, ∀ guest, deed.Visits guest → guest ∈ guests deeds :=
    fun deed mem _ visits => ⟨n, deed, mem, visits⟩
  have orderly (guests : Set Tenant) (database : Database) :
      Shared.Orderly tenant guests ⟨database, [], []⟩ :=
    ⟨nofun, List.nodup_nil, nofun, nofun⟩
  have alike : Shared.Alike tenant ⟨database, [], []⟩ ⟨database', [], []⟩ :=
    ⟨agree, rfl, fun name => by rw [Shared.transaction?_eq, Shared.transaction?_eq]; rfl⟩
  constructor
  · intro ordered
    have settled : Settled tenant readings arrangements session.moves := by
      refine ordered.imp_right fun ⟨identified, ordered⟩ => ?_
      have begun : Database.Has Key.Identifies (Shared.mk database [] []).database := identified
      have has := work.runAmong_has Operation.preserves_identified manager
        (fun n => (readings n).surroundings) deeds 0 own begun
      exact fun move mem => ⟨has.moves move mem, ordered move mem⟩
    have same := runAmong_sameFor made manager readings arrangements spares spares'
      (invited deeds) (invited deeds') 0 own ⟨alike, orderly _ database, orderly _ database'⟩
      settled
    exact ⟨same.outcome, same.own, same.answers, same.shared.alike.stores⟩
  · -- the session is compared with itself
    intro move mem other foreign allowed
    have same := runAmong_sameFor made manager readings (fun n => (readings n).moment.arrangement)
      spares spares (invited deeds) (invited deeds) 0 own
      ⟨.refl tenant ⟨database, [], []⟩, orderly _ database, orderly _ database⟩
      (.inl fun _ => rfl)
    refine same.confined move mem other foreign (allowed.imp_right ?_)
    rintro absent ⟨n, deed, here, visits⟩
    exact absent n deed here visits

/-- Work that creates two orders in a unit, which then goes on as `last` says, and at last lists the
orders. -/
def attempting (context : Context) (last : Work (List String)) : Work (List String) :=
  unit context (fun inside =>
    call inside (.create "orders" (.new "o-2")) fun _ =>
      call inside (.create "orders" (.new "o-1")) fun _ => last) fun _ =>
    call context (.list "orders" ⟨[], [], none, .unpaged⟩) fun
      | .ok (some listed) => note (fun _ => listed.records.map Record.id) fun _ => done
      | .ok none => panic SortSpec.disorder
      | .error e => fail e

/-- A unit of work that fails. -/
def failing : Work (List String) := fail (.notFound "orders" "o-3")

/-- While the unit is open others create an order outside of it, and one in its transaction; they
open a transaction, remove the first order in it, and roll it back. -/
def intruding (step : Nat) : List Deed :=
  let outside : Context := .new ⟨"globex"⟩
  let inside : Context := outside.within ⟨0⟩
  if step = 2 then
    [.call .counting outside (.create "orders" (.new "o-1")),
      .join .counting inside (.create "orders" (.new "o-3")), .openTransaction .counting .reliable,
      .call .counting inside (.delete "orders" "o-1"), .rollBack .reliable 0]
  else []

/-- A database that is empty but for an order of others, if they have one. -/
def holding (theirs : Option Record) : Database :=
  { Database.empty with store := Store.empty.set ⟨⟨⟨"globex"⟩, "orders"⟩, "o-1"⟩ theirs }

/-- The readings of a session in which records are handed over in an order. -/
def numbered (arrangement : Arrangement) (step : Nat) : Reading :=
  ⟨⟨.ofSeconds step, "o-9", arrangement⟩, "t-1"⟩

/-- A session of the work above on such a database. -/
def attempted (last : Work (List String)) (theirs : Option Record) (deeds : Nat → List Deed)
    (arrangement : Arrangement) : Session (List String) :=
  (attempting (.new ⟨"acme"⟩) last).runAmong (.transactional .reliable)
    (fun n => (numbered arrangement n).surroundings) deeds 0 ["none"] ⟨holding theirs, [], []⟩

/-- The same orders are left among others and where they have an order and do nothing. -/
theorem attempted_is_isolated :
    let session := attempted done none intruding .byId
    let session' := attempted done (some (.new "o-1")) (fun _ => []) .reversed
    session.own = ["o-1", "o-2"] ∧ session'.own = ["o-1", "o-2"] ∧
      session.moves.map Move.answer = session'.moves.map Move.answer ∧
      (session.shared.database.store.get? ⟨⟨⟨"globex"⟩, "orders"⟩, "o-1"⟩).isSome = true := by
  have made : (attempting (.new ⟨"acme"⟩) done).MadeBy ⟨"acme"⟩ := by
    refine ⟨rfl, fun inside mine => ⟨mine, fun _ => ⟨mine, fun _ => trivial⟩⟩,
      fun _ => ⟨rfl, fun reply => ?_⟩⟩
    match reply with
    | .ok (some listed) => exact fun _ => trivial
    | .ok none => exact trivial
    | .error e => exact trivial
  have foreign : (⟨"globex"⟩ : Tenant) ≠ ⟨"acme"⟩ := by decide
  have spares : ∀ n, ∀ deed ∈ intruding n, deed.Spares ⟨"acme"⟩ := by
    intro n
    unfold intruding
    split
    · simp only [List.forall_mem_cons]
      exact ⟨foreign, foreign, trivial, foreign, trivial, nofun⟩
    · nofun
  have agree (a b : Option Record) :
      Store.EqOn (Tenant.keys ⟨"acme"⟩) (holding a).store (holding b).store :=
    (Store.eqOn_set foreign _ a).trans (Store.eqOn_set foreign _ b).symm
  have identified : (holding none).Has Key.Identifies :=
    ⟨(Database.has_empty _).store.set fun _ => nofun, (Database.has_empty _).entries⟩
  have ignored : ∀ move ∈ (attempted done none intruding .byId).moves,
      move.answer.ignoresOrder = true := by decide +kernel
  have isolated := (tenant_isolated made (.transactional .reliable) (numbered .byId)
    (fun _ => .reversed) ["none"] spares (fun _ _ none => absurd none List.not_mem_nil)
    (agree none (some (.new "o-1")))).1
    (.inr ⟨identified, fun move mem => Move.inOrder_of_ignoresOrder (ignored move mem) _⟩)
  have own : (attempted done none intruding .byId).own = ["o-1", "o-2"] := by decide +kernel
  exact ⟨own, isolated.2.1.symm.trans own, isolated.2.2.1, by decide +kernel⟩

/-- A guest creates an order in the transaction of the unit. -/
def visiting (step : Nat) : List Deed :=
  if step = 2 then
    [.join .counting (Context.within (.new ⟨"globex"⟩) ⟨0⟩) (.create "orders" (.new "o-3"))]
  else []

/-- Others fail in the transaction of the unit. -/
def spoiling (step : Nat) : List Deed := if step = 2 then [.spoil 0] else []

/-- Three orders, each of which precedes the next one by its weight or its identifier, and the last
one the first one: the weights are `2 ^ 53 + 1`, a float `2 ^ 53`, and `2 ^ 53`. -/
def weighed : Database :=
  let order (id : String) (weight : FieldValue) : Record := ⟨id, .ofList [("weight", weight)]⟩
  let put (store : Store) (record : Record) : Store :=
    store.put ⟨⟨⟨"acme"⟩, "orders"⟩, record.id⟩ record
  { Database.empty with
    store := put (put (put .empty (order "a" (.integer 9007199254740993)))
      (order "b" (.float (.ofInt 9007199254740992)))) (order "c" (.integer 9007199254740992)) }

/-- The orders by their weight, in a session without others. -/
def weighing (arrangement : Arrangement) : Session (List String) :=
  let listing : Work (List String) :=
    call (.new ⟨"acme"⟩) (.list "orders" ⟨[], [⟨"weight", .ascending⟩], none, .unpaged⟩) fun
      | .ok (some listed) => note (fun _ => listed.records.map Record.id) fun _ => done
      | .ok none => panic SortSpec.disorder
      | .error e => fail e
  listing.runAmong .direct (fun n => (numbered arrangement n).surroundings) (fun _ => []) 0 []
    ⟨weighed, [], []⟩

/-- In a transaction that is shared nobody is isolated. If the unit fails, its end takes back the
order of a guest, which stays if the unit does not fail; and a unit that others spoil leaves no
order, where it leaves two without them. And a list by values that are not in order depends on the
order in which its records are handed over. -/
theorem visited_not_isolated :
    let theirs : Key := ⟨⟨⟨"globex"⟩, "orders"⟩, "o-3"⟩
    (∃ move ∈ (attempted failing none visiting .byId).moves,
      (move.before.get? theirs).isSome = true ∧ (move.after.get? theirs).isSome = false) ∧
    ((attempted done none visiting .byId).shared.database.store.get? theirs).isSome = true ∧
    (attempted done none (fun _ => []) .byId).own = ["o-1", "o-2"] ∧
    (attempted done none spoiling .byId).own = [] ∧
    (weighing .byId).own ≠ (weighing .reversed).own := by
  decide +kernel

end Work

end RecordStore
