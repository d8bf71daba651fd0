import RecordStore.Binary64.Text

/-!
# SQL texts

A statement is made of fixed text and of placeholders, each with the value that is bound to it. A
value is never part of the text: the text of a statement depends on its pieces of code and on the
number of placeholders between them.

* `SqlText.render` — the text with the placeholders numbered from one in their order;
* `SqlText.values` — the bound values in the same order.
-/

namespace RecordStore

/-- A value bound to a placeholder. -/
inductive SqlValue where
  | text (value : String)
  | float (value : Binary64)
  | boolean (value : Bool)
  deriving DecidableEq

/-- A piece of a statement: fixed text, or a placeholder with the value bound to it. -/
inductive SqlPiece where
  | code (text : String)
  | bind (value : SqlValue)
  deriving DecidableEq

/-- A statement or a part of one. -/
abbrev SqlText := List SqlPiece

namespace SqlText

/-- The placeholder of a number. -/
def placeholder (n : Nat) : String := String.ofList ('$' :: decimalDigits n)

/-- The text with the placeholders numbered from `first`. -/
def renderFrom (first : Nat) : SqlText → String
  | [] => ""
  | .code text :: rest => text ++ renderFrom first rest
  | .bind _ :: rest => placeholder first ++ renderFrom (first + 1) rest

/-- The text of a statement. -/
def render (sql : SqlText) : String := renderFrom 1 sql

/-- The bound values in the order of their placeholders. -/
def values : SqlText → List SqlValue
  | [] => []
  | .code _ :: rest => values rest
  | .bind value :: rest => value :: values rest

@[simp] theorem values_nil : values [] = [] := rfl

@[simp] theorem values_append (a b : SqlText) : values (a ++ b) = values a ++ values b := by
  induction a with
  | nil => rfl
  | cons piece rest ih => cases piece <;> simp [values, ih]

/-- The numbering goes on after the placeholders of the first part. -/
theorem renderFrom_append (first : Nat) (a b : SqlText) :
    renderFrom first (a ++ b) =
      renderFrom first a ++ renderFrom (first + (values a).length) b := by
  induction a generalizing first with
  | nil => simp [renderFrom, values]
  | cons piece rest ih =>
    cases piece with
    | code text => simp [renderFrom, values, ih, String.append_assoc]
    | bind value =>
      simp only [List.cons_append, renderFrom, values, List.length_cons, ih, String.append_assoc]
      rw [Nat.add_assoc, Nat.add_comm 1]

end SqlText

end RecordStore
