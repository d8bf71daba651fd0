import RecordStore.Transaction.Manager

/-!
# Units of work

Work is a program over a database: it makes calls and goes on according to their answers, keeps
variables of its own, may fail or panic, and may contain units of work, whose failures it may
swallow. A panic ends every unit around it up to the one that opened the transaction. A program that
panics before it has given its work ends that one, too, and its transaction is left open.

* `Work` — the programs;
* `Work.crash?` — the panic of a program that has not given its work;
* `Work.run` — running one with a manager.
-/

namespace RecordStore

/-- What is done with a database. The variables of the caller have the type `σ`. -/
inductive Work (σ : Type) where
  /-- Nothing is left to do. -/
  | done
  /-- Give up with an error. -/
  | fail (error : StoreError)
  /-- Give up with a panic. -/
  | panic (message : String)
  /-- Panic before the work is given; later on it is a panic like others. -/
  | crash (message : String)
  /-- Change the variables. -/
  | note (change : σ → σ) (next : σ → Work σ)
  /-- Make a call. -/
  | call (context : Context) (operation : Operation)
    (next : Except StoreError operation.Reply → Work σ)
  /-- Look at the state of the transaction of a context. -/
  | look (context : Context) (next : Option Transaction → Work σ)
  /-- Forbid that the transaction of a context is committed. -/
  | mark (context : Context) (next : Work σ)
  /-- Learn of a transaction that another backend has opened. -/
  | foreign (backend : String) (next : Handle → Work σ)
  /-- Run a unit of work, in the context that it is given. -/
  | unit (context : Context) (body : Context → Work σ) (next : Except StoreError Unit → Work σ)

namespace Work

instance {σ : Type} : Inhabited (Work σ) := ⟨.done⟩

/-- The panic of a program that has not given its work. -/
def crash? {σ : Type} : Work σ → Option String
  | crash message => some message
  | _ => none

/-- Run work with a manager, on the variables `own` and a database. -/
def run {σ : Type} (manager : Manager) (surroundings : Surroundings) :
    Work σ → σ → Database → Outcome × σ × Database
  | done, own, database => (.done, own, database)
  | fail error, own, database => (.failed error, own, database)
  | panic message, own, database => (.panicked message, own, database)
  | crash message, own, database => (.panicked message, own, database)
  | note change next, own, database =>
    run manager surroundings (next (change own)) (change own) database
  | call context operation next, own, database =>
    let (reply, database) := operation.run surroundings context database
    run manager surroundings (next reply) own database
  | look context next, own, database =>
    run manager surroundings (next (context.transaction.bind database.transaction?)) own database
  | mark context next, own, database =>
    let marked := match context.transaction with
      | none => database
      | some handle => database.mark handle
    run manager surroundings next own marked
  | foreign backend next, own, database =>
    let (database, handle) := database.adopt surroundings backend none
    run manager surroundings (next handle) own database
  | unit context body next, own, database =>
    match manager.enter surroundings context database with
    | (.error e, database) => run manager surroundings (next (.error e)) own database
    | (.ok inner, database) =>
      match (body inner).crash? with
      | some message => (.panicked message, own, database)
      | none =>
        let (outcome, own, database) := run manager surroundings (body inner) own database
        match manager.leave context inner outcome database with
        | (.done, database) => run manager surroundings (next (.ok ())) own database
        | (.failed e, database) => run manager surroundings (next (.error e)) own database
        | (.panicked message, database) => (.panicked message, own, database)

end Work

end RecordStore
