import RecordStore.Sql.Selection

/-!
# The texts of selections

What a caller supplies never becomes text of a statement. The names of fields, the operands, the
tenant and the table are bound to placeholders, and the text is made of fixed pieces, which ones
depends on the shape of the filters alone.

* `SqlText.renderFrom_congr` — statements with the same code have the same text;
* `SqlText.placeholders_renderFrom` — the placeholders of a text are numbered in their order;
* `SqlPredicate.isPlain_sql`, `SqlPredicate.nesting?_sql` — the code of a predicate, constructor by
  constructor;
* `Filter.shape`, `Filter.boundValues` — on what the text of a filter depends, and what it binds;
* `ListParams.statement_of_same_shape` — two selections of the same shape.
-/

namespace RecordStore

/-! ### Code and values -/

namespace SqlText

/-- The code of a statement, with the places of its placeholders. -/
def outline (sql : SqlText) : List (Option String) :=
  sql.map fun
    | .code text => some text
    | .bind _ => none

@[simp] theorem outline_append (a b : SqlText) : outline (a ++ b) = outline a ++ outline b :=
  List.map_append

@[simp] theorem outline_code (text : String) (rest : SqlText) :
    outline (.code text :: rest) = some text :: outline rest := rfl

@[simp] theorem outline_bind (value : SqlValue) (rest : SqlText) :
    outline (.bind value :: rest) = none :: outline rest := rfl

/-- The text of a statement has nothing of its values. -/
theorem renderFrom_congr {a b : SqlText} (same : outline a = outline b) (first : Nat) :
    renderFrom first a = renderFrom first b := by
  induction a generalizing b first with
  | nil =>
    cases b with
    | nil => rfl
    | cons piece rest => exact nomatch same
  | cons piece rest ih =>
    cases b with
    | nil => exact nomatch same
    | cons piece' rest' =>
      cases piece <;> cases piece' <;> simp at same
      · rw [renderFrom, renderFrom, same.1, ih same.2]
      · rw [renderFrom, renderFrom, ih same]

/-! ### Placeholders -/

/-- The digits of the placeholders in a text. -/
def placeholders : List Char → List (List Char)
  | [] => []
  | c :: cs => if c = '$' then cs.takeWhile Char.isDigit :: placeholders cs else placeholders cs

theorem placeholders_append {cs : List Char} (none : '$' ∉ cs) (ds : List Char) :
    placeholders (cs ++ ds) = placeholders ds := by
  induction cs with
  | nil => rfl
  | cons c cs ih =>
    rw [List.mem_cons, not_or] at none
    rw [List.cons_append, placeholders, if_neg (Ne.symm none.1), ih none.2]

end SqlText

/-- Code is plain if it does not begin with a digit, which would go on a placeholder before it, and
has no placeholder. -/
def SqlPiece.isPlain : SqlPiece → Bool
  | .code text =>
    match text.toList with
    | [] => false
    | c :: cs => !c.isDigit && !(c :: cs).contains '$'
  | .bind _ => true

namespace SqlText

variable {sql : SqlText}

theorem isPlain_code_iff {text : String} :
    (SqlPiece.code text).isPlain = true ↔
      ∃ c cs, text.toList = c :: cs ∧ c.isDigit = false ∧ '$' ∉ c :: cs := by
  cases chars : text.toList with
  | nil => simp [SqlPiece.isPlain, chars]
  | cons c cs => simp [SqlPiece.isPlain, chars, and_assoc]

/-- No text goes on a placeholder before it. -/
theorem takeWhile_renderFrom (plain : sql.all SqlPiece.isPlain = true) (first : Nat) :
    (renderFrom first sql).toList.takeWhile Char.isDigit = [] := by
  cases sql with
  | nil => rfl
  | cons piece rest =>
    rw [List.all_cons, Bool.and_eq_true] at plain
    cases piece with
    | code text =>
      obtain ⟨c, cs, chars, noDigit, -⟩ := isPlain_code_iff.1 plain.1
      rw [renderFrom, String.toList_append, chars, List.cons_append,
        List.takeWhile_cons_of_neg (by simp [noDigit])]
    | bind value =>
      rw [renderFrom, String.toList_append, placeholder, String.toList_ofList, List.cons_append,
        List.takeWhile_cons_of_neg (by decide)]

theorem isDigit_of_mem_decimalDigits {n : Nat} {c : Char} (h : c ∈ decimalDigits n) :
    c.isDigit = true :=
  Nat.isDigit_of_mem_toDigits (by decide) (by decide) h

theorem dollar_notMem_decimalDigits (n : Nat) : '$' ∉ decimalDigits n :=
  fun mem => absurd (isDigit_of_mem_decimalDigits mem) (by decide)

/-- The placeholders of a text are numbered in their order, one for each bound value. -/
theorem placeholders_renderFrom (plain : sql.all SqlPiece.isPlain = true) (first : Nat) :
    placeholders (renderFrom first sql).toList =
      (List.range' first sql.values.length).map decimalDigits := by
  induction sql generalizing first with
  | nil => rfl
  | cons piece rest ih =>
    rw [List.all_cons, Bool.and_eq_true] at plain
    cases piece with
    | code text =>
      obtain ⟨c, cs, chars, -, noPlaceholder⟩ := isPlain_code_iff.1 plain.1
      rw [renderFrom, String.toList_append, chars, placeholders_append noPlaceholder,
        ih plain.2, values]
    | bind value =>
      have digits : (decimalDigits first ++ (renderFrom (first + 1) rest).toList).takeWhile
          Char.isDigit = decimalDigits first := by
        rw [List.takeWhile_append_of_pos fun c mem => isDigit_of_mem_decimalDigits mem,
          takeWhile_renderFrom plain.2, List.append_nil]
      rw [renderFrom, String.toList_append, placeholder, String.toList_ofList, List.cons_append,
        placeholders, if_pos rfl, digits, placeholders_append (dollar_notMem_decimalDigits first),
        ih plain.2, values, List.length_cons, List.range'_succ, List.map_cons]

/-! ### Parentheses -/

/-- The depth of parentheses after a character, none if it closes one that was not open. -/
def nest (depth : Nat) (c : Char) : Option Nat :=
  if c = '(' then some (depth + 1)
  else if c = ')' then (if depth = 0 then none else some (depth - 1))
  else some depth

/-- The depth of parentheses after a text, none if one is closed that was not open. -/
def nestingOf? (depth : Nat) (cs : List Char) : Option Nat := cs.foldlM nest depth

/-- The depth of parentheses after the code of a statement. -/
def nesting? (depth : Nat) : SqlText → Option Nat
  | [] => some depth
  | .code text :: rest => (nestingOf? depth text.toList).bind (nesting? · rest)
  | .bind _ :: rest => nesting? depth rest

@[simp] theorem nesting?_append (depth : Nat) (a b : SqlText) :
    nesting? depth (a ++ b) = (nesting? depth a).bind (nesting? · b) := by
  induction a generalizing depth with
  | nil => rfl
  | cons piece rest ih =>
    cases piece with
    | code text =>
      rw [List.cons_append, nesting?, nesting?, Option.bind_assoc]
      exact congrArg _ (funext fun _ => ih _)
    | bind value => exact ih depth

theorem nestingOf?_of_notMem {cs : List Char} (h : '(' ∉ cs) (h' : ')' ∉ cs) (depth : Nat) :
    nestingOf? depth cs = some depth := by
  induction cs with
  | nil => rfl
  | cons c cs ih =>
    rw [List.mem_cons, not_or] at h h'
    have step : nest depth c = some depth := by
      rw [nest, if_neg (Ne.symm h.1), if_neg (Ne.symm h'.1)]
    rw [nestingOf?, List.foldlM_cons, step]
    exact ih h.2 h'.2

/-- Placeholders have no parentheses. -/
theorem nestingOf?_renderFrom (depth first : Nat) (sql : SqlText) :
    nestingOf? depth (renderFrom first sql).toList = nesting? depth sql := by
  induction sql generalizing depth first with
  | nil => rfl
  | cons piece rest ih =>
    have split (cs ds : List Char) :
        nestingOf? depth (cs ++ ds) = (nestingOf? depth cs).bind (nestingOf? · ds) :=
      List.foldlM_append
    cases piece with
    | code text =>
      rw [renderFrom, String.toList_append, split, nesting?]
      exact congrArg _ (funext fun _ => ih _ _)
    | bind value =>
      have noParenthesis (c : Char) (noDigit : c.isDigit = false) (other : c ≠ '$') :
          c ∉ (placeholder first).toList := by
        rw [placeholder, String.toList_ofList, List.mem_cons, not_or]
        refine ⟨other, fun mem => ?_⟩
        rw [isDigit_of_mem_decimalDigits mem] at noDigit
        exact absurd noDigit (by decide)
      have flat := nestingOf?_of_notMem (noParenthesis '(' rfl (by decide))
        (noParenthesis ')' rfl (by decide)) depth
      rw [renderFrom, String.toList_append, split, flat]
      exact ih depth (first + 1)

end SqlText

/-! ### Predicates -/

section Code

open SqlText

theorem JsonColumn.isPlain_sql (column : JsonColumn) : column.sql.all SqlPiece.isPlain = true := by
  cases column <;> rfl

theorem JsonColumn.nesting?_sql (column : JsonColumn) (depth : Nat) :
    nesting? depth column.sql = some depth := by
  cases column <;> rfl

theorem TextExpr.isPlain_sql (text : TextExpr) : text.sql.all SqlPiece.isPlain = true := by
  induction text with
  | operand value => rfl
  | unquoted column =>
    simp only [sql, List.all_cons, List.all_append, column.isPlain_sql]
    rfl
  | left text measure ih ih' | right text measure ih ih' =>
    simp only [sql, List.all_cons, List.all_append, ih, ih']
    rfl

theorem TextExpr.nesting?_sql (text : TextExpr) (depth : Nat) :
    nesting? depth text.sql = some depth := by
  induction text generalizing depth with
  | operand value => rfl
  | unquoted column => simp [sql, nesting?, nestingOf?, nest, column.nesting?_sql]
  | left text measure ih ih' | right text measure ih ih' =>
    simp [sql, nesting?, nestingOf?, nest, ih, ih']

/-- The code of a predicate has no placeholder, and goes on no placeholder of what it is put in. -/
theorem SqlPredicate.isPlain_sql (predicate : SqlPredicate) :
    predicate.sql.all SqlPiece.isPlain = true := by
  induction predicate with
  | tenantIs tenant => rfl
  | tableIs table => rfl
  | typeIs column type =>
    simp only [sql, List.all_cons, List.all_append, column.isPlain_sql]
    cases type <;> rfl
  | textEqual a b | textUnequal a b | textOccurs a b =>
    simp only [sql, List.all_cons, List.all_append, a.isPlain_sql, b.isPlain_sql]
    rfl
  | number column comparison operand =>
    simp only [sql, List.all_cons, List.all_append, column.isPlain_sql]
    cases comparison <;> rfl
  | numberBetween column low high =>
    simp only [sql, List.all_cons, List.all_append, column.isPlain_sql]
    rfl
  | booleanIs column operand =>
    simp only [sql, List.all_cons, List.all_append, column.isPlain_sql]
    rfl
  | and a b ih ih' | guarded a b ih ih' =>
    simp only [sql, List.all_cons, List.all_append, ih, ih']
    rfl
  | parenthesized a ih =>
    simp only [sql, List.all_cons, List.all_append, ih]
    rfl

/-- The parentheses in the code of a predicate are balanced. -/
theorem SqlPredicate.nesting?_sql (predicate : SqlPredicate) (depth : Nat) :
    nesting? depth predicate.sql = some depth := by
  induction predicate generalizing depth with
  | tenantIs tenant => rfl
  | tableIs table => rfl
  | typeIs column type =>
    cases type <;>
      simp [sql, JsonType.name, nesting?, nestingOf?, nest, column.nesting?_sql]
  | textEqual a b | textUnequal a b | textOccurs a b =>
    simp [sql, nesting?, nestingOf?, nest, a.nesting?_sql, b.nesting?_sql]
  | number column comparison operand =>
    cases comparison <;>
      simp [sql, Comparison.sign, nesting?, nestingOf?, nest, column.nesting?_sql]
  | numberBetween column low high =>
    simp [sql, nesting?, nestingOf?, nest, column.nesting?_sql]
  | booleanIs column operand => simp [sql, nesting?, nestingOf?, nest, column.nesting?_sql]
  | and a b ih ih' | guarded a b ih ih' => simp [sql, nesting?, nestingOf?, nest, ih, ih']
  | parenthesized a ih => simp [sql, nesting?, nestingOf?, nest, ih]

end Code

/-! ### Shapes -/

/-- An operator on numbers without its operands. -/
inductive NumericForm where
  | equals
  | greaterThan
  | lessThan
  | greaterOrEqual
  | lessOrEqual
  | between
  deriving DecidableEq

/-- The form of an operator. -/
def NumericOperator.form : NumericOperator → NumericForm
  | .equals _ => .equals
  | .greaterThan _ => .greaterThan
  | .lessThan _ => .lessThan
  | .greaterOrEqual _ => .greaterOrEqual
  | .lessOrEqual _ => .lessOrEqual
  | .between .. => .between

/-- A condition without its operands. -/
inductive ConditionShape where
  | text (operator : TextOperator) (ignoreCase : Bool)
  | numeric (form : NumericForm)
  | boolean
  deriving DecidableEq

/-- The shape of a condition. -/
def Condition.shape : Condition → ConditionShape
  | .text operator _ ignoreCase => .text operator ignoreCase
  | .numeric operator => .numeric operator.form
  | .boolean _ => .boolean

/-- A filter without its operands, and with no more of the name of its field than whether it is the
identifier. -/
structure FilterShape where
  isIdentifier : Bool
  condition : ConditionShape
  deriving DecidableEq

/-- The shape of a filter. -/
def Filter.shape (filter : Filter) : FilterShape := ⟨filter.field == "id", filter.condition.shape⟩

/-- The values that are bound for a filter: the name of its field at each place where the field is
read, unless this is the identifier, and then the operands. Of a text, its beginning and its end are
compared by the length of the operand and the operand. Where the case is ignored there is no
operand, for the row is selected by the type of the field alone. -/
def Filter.boundValues (filter : Filter) : List SqlValue :=
  let field := if filter.field = "id" then [] else [SqlValue.text filter.field]
  match filter.condition with
  | .text _ _ true => field
  | .text .startsWith operand false => field ++ field ++ [.text operand, .text operand]
  | .text .endsWith operand false => field ++ field ++ [.text operand, .text operand]
  | .text _ operand false => field ++ field ++ [.text operand]
  | .numeric operator => field ++ field ++ operator.operands.map .float
  | .boolean operand => field ++ field ++ [.boolean operand]

namespace Filter

variable {filter filter' : Filter}

theorem outline_ofField {field field' : String} (same : (field == "id") = (field' == "id")) :
    SqlText.outline (JsonColumn.ofField field).sql =
      SqlText.outline (JsonColumn.ofField field').sql := by
  have iff : field = "id" ↔ field' = "id" := by rw [← beq_iff_eq, same, beq_iff_eq]
  unfold JsonColumn.ofField
  by_cases own : field = "id"
  · rw [if_pos own, if_pos (iff.1 own)]
  · rw [if_neg own, if_neg fun own' => own (iff.2 own')]
    rfl

/-- The code of a filter depends on its shape alone. -/
theorem outline_rowPredicate (same : filter.shape = filter'.shape) :
    SqlText.outline filter.rowPredicate.sql = SqlText.outline filter'.rowPredicate.sql := by
  obtain ⟨field, condition⟩ := filter
  obtain ⟨field', condition'⟩ := filter'
  rw [shape, shape, FilterShape.mk.injEq] at same
  have column := outline_ofField same.1
  have shapes := same.2
  cases condition with
  | text operator operand ignoreCase =>
    cases condition' with
    | text operator' operand' ignoreCase' =>
      rw [Condition.shape, Condition.shape, ConditionShape.text.injEq] at shapes
      obtain ⟨rfl, rfl⟩ := shapes
      cases ignoreCase with
      | true => simp [rowPredicate, SqlPredicate.sql, column]
      | false =>
        cases operator <;>
          simp [rowPredicate, TextOperator.rowPredicate, SqlPredicate.sql, TextExpr.sql, column]
    | numeric operator' | boolean operand' => cases shapes
  | numeric operator =>
    cases condition' with
    | numeric operator' =>
      rw [Condition.shape, Condition.shape, ConditionShape.numeric.injEq] at shapes
      cases operator <;> cases operator' <;> simp [NumericOperator.form] at shapes <;>
        simp [rowPredicate, NumericOperator.rowPredicate, SqlPredicate.sql, column]
    | text operator' operand' ignoreCase' | boolean operand' => cases shapes
  | boolean operand =>
    cases condition' with
    | boolean operand' => simp [rowPredicate, SqlPredicate.sql, column]
    | text operator' operand' ignoreCase' | numeric operator' => cases shapes

theorem values_ofField (field : String) :
    SqlText.values (JsonColumn.ofField field).sql =
      if field = "id" then [] else [.text field] := by
  unfold JsonColumn.ofField
  split <;> rfl

theorem values_rowPredicate (filter : Filter) :
    SqlText.values filter.rowPredicate.sql = filter.boundValues := by
  obtain ⟨field, condition⟩ := filter
  cases condition with
  | text operator operand ignoreCase =>
    cases ignoreCase with
    | true => simp [rowPredicate, SqlPredicate.sql, SqlText.values, boundValues, values_ofField]
    | false =>
      cases operator <;>
        simp [rowPredicate, TextOperator.rowPredicate, SqlPredicate.sql, TextExpr.sql,
          SqlText.values, boundValues, values_ofField]
  | numeric operator =>
    cases operator <;>
      simp [rowPredicate, NumericOperator.rowPredicate, NumericOperator.operands, SqlPredicate.sql,
        SqlText.values, boundValues, values_ofField]
  | boolean operand =>
    simp [rowPredicate, SqlPredicate.sql, SqlText.values, boundValues, values_ofField]

end Filter

/-! ### Selections -/

namespace ListParams

/-- The code of a conjunction of filters depends on their shapes alone. -/
theorem outline_foldl {filters filters' : FilterSet}
    (same : filters.map Filter.shape = filters'.map Filter.shape) {start start' : SqlPredicate}
    (alike : SqlText.outline start.sql = SqlText.outline start'.sql) :
    SqlText.outline (filters.foldl (fun predicate filter => .and predicate filter.rowPredicate)
        start).sql =
      SqlText.outline (filters'.foldl (fun predicate filter => .and predicate filter.rowPredicate)
        start').sql := by
  induction filters generalizing filters' start start' with
  | nil =>
    rw [List.map_eq_nil_iff.1 same.symm]
    exact alike
  | cons filter rest ih =>
    obtain ⟨filter', rest', rfl, first, later⟩ := List.map_eq_cons_iff.1 same.symm
    rw [List.foldl_cons, List.foldl_cons]
    refine ih later.symm ?_
    simp [SqlPredicate.sql, alike, Filter.outline_rowPredicate first.symm]

theorem values_foldl (filters : FilterSet) (start : SqlPredicate) :
    SqlText.values (filters.foldl (fun predicate filter => .and predicate filter.rowPredicate)
        start).sql =
      SqlText.values start.sql ++ filters.flatMap Filter.boundValues := by
  induction filters generalizing start with
  | nil => simp
  | cons filter rest ih =>
    rw [List.foldl_cons, ih, SqlPredicate.sql, SqlText.values_append, SqlText.values,
      Filter.values_rowPredicate, List.flatMap_cons, List.append_assoc]

/-- **Selections of the same shape have the same text.** Whatever the tenant, the table, the names
of the fields and the operands are, the text behind the clause of columns is the same. Its
placeholders are numbered from one in their order, as many as there are bound values, and its
parentheses are balanced. Bound are the tenant, the table and the values of each filter. -/
theorem statement_of_same_shape {params params' : ListParams}
    (same : params.filters.map Filter.shape = params'.filters.map Filter.shape)
    (columns : String) (tenant tenant' : Tenant) (table table' : String) :
    ∃ text : String,
      (params.statement columns tenant table).render = columns ++ text ∧
      (params'.statement columns tenant' table').render = columns ++ text ∧
      SqlText.placeholders text.toList =
        (List.range' 1 (params.statement columns tenant table).values.length).map decimalDigits ∧
      SqlText.nestingOf? 0 text.toList = some 0 ∧
      (params.statement columns tenant table).values =
        .text tenant.name :: .text table :: params.filters.flatMap Filter.boundValues := by
  have values : (params.statement columns tenant table).values =
      .text tenant.name :: .text table :: params.filters.flatMap Filter.boundValues :=
    values_foldl params.filters _
  have outlines : SqlText.outline (params.scope tenant table).sql =
      SqlText.outline (params'.scope tenant' table').sql := outline_foldl same rfl
  refine ⟨SqlText.renderFrom 1 (.code " FROM records WHERE " :: (params.scope tenant table).sql),
    rfl, ?_, ?_, ?_, values⟩
  · have congr := SqlText.renderFrom_congr outlines.symm 1
    simp only [statement, SqlText.render, SqlText.renderFrom, congr]
  · refine SqlText.placeholders_renderFrom ?_ 1
    rw [List.all_cons, SqlPredicate.isPlain_sql]
    rfl
  · rw [SqlText.nestingOf?_renderFrom]
    exact SqlPredicate.nesting?_sql _ 0

/-- A list of the doctors between two numbers. -/
def doctors : ListParams :=
  ⟨[⟨"name", .text .startsWith "Dr. " false⟩, ⟨"id", .numeric (.between (.ofInt 1) (.ofInt 2))⟩],
    [], none, .unpaged⟩

/-- A list of the same shape whose names and operands look like code. -/
def hostile : ListParams :=
  ⟨[⟨"') = '') OR ($1 = $1", .text .startsWith "'; DROP TABLE records; --" false⟩,
    ⟨"id", .numeric (.between (.ofInt 0) (.ofInt 9))⟩], [⟨"name", .ascending⟩], none, ⟨5, 1⟩⟩

theorem render_hostile :
    doctors.filters.map Filter.shape = hostile.filters.map Filter.shape ∧
      (hostile.statement "SELECT id" ⟨"$9"⟩ "(").render =
        (doctors.statement "SELECT id" ⟨"acme"⟩ "people").render := by
  have same : doctors.filters.map Filter.shape = hostile.filters.map Filter.shape := by decide
  obtain ⟨text, first, second, -⟩ :=
    statement_of_same_shape same "SELECT id" ⟨"acme"⟩ ⟨"$9"⟩ "people" "("
  exact ⟨same, second.trans first.symm⟩

/-- The operand of a filter that ignores case is not among the bound values. -/
theorem folded_operand_not_bound :
    let params : ListParams := ⟨[⟨"name", .text .equals "Émile" true⟩], [], none, .unpaged⟩
    (params.statement "SELECT id, data" ⟨"acme"⟩ "tbl").values =
        [.text "acme", .text "tbl", .text "name"] ∧
      SqlValue.text "Émile" ∉ (params.statement "SELECT id, data" ⟨"acme"⟩ "tbl").values := by
  decide

end ListParams

end RecordStore
