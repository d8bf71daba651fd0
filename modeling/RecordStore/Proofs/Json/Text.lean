import Mathlib.Tactic.SplitIfs
import RecordStore.Json.Parser
import RecordStore.Json.Printer
import RecordStore.Proofs.Json.Distinct

/-!
# Reading what was written

The text of a string is read as that string, whatever characters are escaped in it, and so is the
text of an object whose members are texts and truth values.

* `Json.stringBody?_escaped` — the characters of a string;
* `Json.valueAt?_chars` — a text or a truth value, with whatever follows it;
* `Json.parse?_print_object` — an object of texts and truth values.
-/

namespace RecordStore.Json

/-! ### Strings -/

theorem hexUnit?_of_lt : ∀ n < 32,
    hexUnit? '0' '0' (hexDigit (n / 16)) (hexDigit (n % 16)) = some n := by
  decide

/-- A character is read from its form inside a string. -/
theorem stringBody?_escapeChar (c : Char) (rest : List Char) :
    stringBody? (escapeChar c ++ rest) = prependTo c (stringBody? rest) := by
  unfold escapeChar
  split_ifs with quote backslash _ _ _ _ _ control
  iterate 7
    · subst c
      rfl
  · have unit := hexUnit?_of_lt c.toNat control
    simp only [List.cons_append, List.nil_append]
    rw [stringBody?, unit]
    simp only
    rw [if_pos (by omega), Char.ofNat_toNat]
  · rw [List.singleton_append, stringBody?]
    · simp [quote, backslash, control]
    · simp [backslash]
    · simp [backslash]

/-- The characters of a string are read up to its closing quote. -/
theorem stringBody?_escaped (cs rest : List Char) :
    stringBody? (cs.flatMap escapeChar ++ '"' :: rest) = some (cs, rest) := by
  induction cs with
  | nil => rfl
  | cons c cs ih =>
    rw [List.flatMap_cons, List.append_assoc, stringBody?_escapeChar, ih]
    rfl

theorem stringChars_append (s : String) (rest : List Char) :
    stringChars s ++ rest = '"' :: (s.toList.flatMap escapeChar ++ '"' :: rest) := by
  simp [stringChars]

/-! ### Members -/

/-- Texts and truth values. -/
def isOperand : Json → Bool
  | .text _ => true
  | .bool _ => true
  | _ => false

theorem isOperand_iff {v : Json} :
    v.isOperand = true ↔ (∃ s, v = .text s) ∨ ∃ b, v = .bool b := by
  cases v <;> simp [isOperand]

theorem distinct_of_isOperand {v : Json} (h : v.isOperand = true) : v.distinct = v := by
  obtain ⟨s, rfl⟩ | ⟨b, rfl⟩ := isOperand_iff.1 h <;> rfl

theorem valueAt?_chars {v : Json} (operand : v.isOperand = true) {fuel : Nat} (fueled : 0 < fuel)
    (depth : Nat) (rest : List Char) :
    valueAt? fuel depth .whole (v.chars ++ rest) = some (v, rest) := by
  obtain ⟨fuel, rfl⟩ := Nat.exists_eq_succ_of_ne_zero (Nat.pos_iff_ne_zero.1 fueled)
  obtain ⟨s, rfl⟩ | ⟨b, rfl⟩ := isOperand_iff.1 operand
  · have text : skipSpace ((Json.text s).chars ++ rest) =
        '"' :: (s.toList.flatMap escapeChar ++ '"' :: rest) := by
      rw [chars, stringChars_append]
      rfl
    rw [valueAt?, text]
    simp only [stringBody?_escaped, Option.map_some, String.ofList_toList]
  · rw [valueAt?]
    cases b <;> rfl

/-- The first member of an object, and what its end makes of what follows. -/
theorem membersAt?_first (name : String) {v : Json} (operand : v.isOperand = true) {fuel : Nat}
    (fueled : 0 < fuel) (depth : Nat) (rest : List Char) :
    membersAt? (fuel + 1) depth .whole (stringChars name ++ (':' :: (v.chars ++ rest))) =
      match skipSpace rest with
      | ',' :: rest =>
        (membersAt? fuel depth .whole rest).map fun (members, rest) =>
          ((name, v) :: members, rest)
      | '\x7d' :: rest => some ([(name, v)], rest)
      | _ => none := by
  have opened (tail : List Char) : skipSpace ('"' :: tail) = '"' :: tail := rfl
  have parted (tail : List Char) : skipSpace (':' :: tail) = ':' :: tail := rfl
  rw [membersAt?, stringChars_append, opened]
  simp only [stringBody?_escaped, parted, Shape.member?, valueAt?_chars operand fueled,
    Option.map_some, String.ofList_toList]
  rfl

/-- The members of an object are read up to its closing brace. -/
theorem membersAt?_chars {members : List (String × Json)}
    (operands : ∀ m ∈ members, m.2.isOperand = true) (name : String) {v : Json}
    (operand : v.isOperand = true) {fuel : Nat} (fueled : members.length + 1 < fuel)
    (depth : Nat) (rest : List Char) :
    membersAt? fuel depth .whole
        (stringChars name ++ (':' :: (v.chars ++ (memberChars members ++ rest)))) =
      some ((name, v) :: members, rest) := by
  induction members generalizing fuel name v with
  | nil =>
    obtain ⟨fuel, rfl⟩ := Nat.exists_eq_succ_of_ne_zero (show fuel ≠ 0 by omega)
    rw [membersAt?_first name operand (by simpa using fueled)]
    rfl
  | cons m members ih =>
    obtain ⟨other, w⟩ := m
    obtain ⟨first, others⟩ := List.forall_mem_cons.1 operands
    rw [List.length_cons] at fueled
    obtain ⟨fuel, rfl⟩ := Nat.exists_eq_succ_of_ne_zero (show fuel ≠ 0 by omega)
    have more : skipSpace (memberChars ((other, w) :: members) ++ rest) =
        ',' :: (stringChars other ++ (':' :: (w.chars ++ (memberChars members ++ rest)))) := by
      simp [memberChars, skipSpace, isSpace]
    rw [membersAt?_first name operand (by omega), more]
    simp only [ih others other first (show members.length + 1 < fuel by omega), Option.map_some]

theorem length_lt_length_memberChars (members : List (String × Json)) :
    members.length < (memberChars members).length := by
  induction members with
  | nil => simp [memberChars]
  | cons m members ih =>
    obtain ⟨name, v⟩ := m
    simp only [memberChars, List.length_cons, List.length_append]
    omega

theorem valueAt?_object {members : List (String × Json)}
    (operands : ∀ m ∈ members, m.2.isOperand = true) {fuel : Nat} (fueled : members.length < fuel)
    (depth : Nat) (rest : List Char) :
    valueAt? (fuel + 1) (depth + 1) .whole ((Json.object members).chars ++ rest) =
      some (.object members, rest) := by
  rw [valueAt?]
  cases members with
  | nil => rfl
  | cons m members =>
    obtain ⟨name, v⟩ := m
    obtain ⟨operand, others⟩ := List.forall_mem_cons.1 operands
    have read := membersAt?_chars others name operand fueled depth rest
    have written : skipSpace ((Json.object ((name, v) :: members)).chars ++ rest) =
        '\x7b' :: (stringChars name ++ (':' :: (v.chars ++ (memberChars members ++ rest)))) := by
      simp [chars, skipSpace, isSpace]
    -- the reader looks for the closing brace first
    have quoted (tail : List Char) : skipSpace ('"' :: tail) = '"' :: tail := rfl
    rw [stringChars_append] at read written
    simp only [written, quoted]
    exact congrArg (Option.map fun read => (Json.object read.1, read.2)) read

/-- The text of an object of texts and truth values is read as that object. -/
theorem parse?_print_object {members : List (String × Json)}
    (distinct : (Members.names members).Nodup) (operands : ∀ m ∈ members, m.2.isOperand = true) :
    parse? (Json.object members).print = some (.object members) := by
  have fueled : members.length < 2 * (Json.object members).chars.length + 1 := by
    cases members with
    | nil => simp [chars]
    | cons m members =>
      obtain ⟨name, v⟩ := m
      have rest := length_lt_length_memberChars members
      simp only [chars, List.length_cons, List.length_append]
      omega
  have document : parseDocument? (Json.object members).print = some (.object members) := by
    have read := valueAt?_object operands fueled 126 []
    rw [List.append_nil] at read
    rw [parseDocument?, parseShape?, print, String.toList_ofList]
    simp only [maxDepth, read]
    rfl
  have kept : distinctMembers members = members :=
    distinctMembers_eq_self fun m mem => distinct_of_isOperand (operands m mem)
  rw [parse?, document, Option.map_some, Json.distinct, kept, Members.distinct_of_nodup distinct]

end RecordStore.Json
