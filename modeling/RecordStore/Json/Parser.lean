import RecordStore.Json.Lexeme

/-!
# JSON texts: reading

The reader of strict JSON. It refuses anything before or after the value but white space, missing
or superfluous commas, more than 127 nested arrays and objects, and malformed strings and numbers.

A text may be read for some of its parts only, which a *shape* tells. The members of an object that
the shape does not name are skipped: they have to follow the grammar, but may be nested at will,
and their strings and numbers need not have values.

* `Json.Shape` — the parts of a value that are read;
* `Json.parseShape?` — the value as written, without the parts that are skipped;
* `Json.parseDocument?` — the whole value as written, with repeated names;
* `Json.parse?` — the value in which of a repeated name the first place and the last value is kept.
-/

namespace RecordStore.Json

/-- The parts of a value that are read: all of it, the members of some names, or parts of the items
of an array. -/
inductive Shape where
  | whole
  | record (slots : List (String × Shape))
  | list (item : Shape)

namespace Shape

/-- The shape of the member of a name; there is none if the member is skipped. -/
def member? (name : String) : Shape → Option Shape
  | record slots => Members.get? name slots
  | _ => some whole

/-- The shape of an item of an array; a record may be written as an array of its slots. -/
def item (index : Nat) : Shape → Shape
  | whole => whole
  | record slots => (slots[index]?.map Prod.snd).getD whole
  | list shape => shape

/-- The shape of a record all of whose slots are read as a whole. -/
def flat (names : List String) : Shape := .record (names.map fun name => (name, .whole))

end Shape

/-! ## Skipping -/

mutual

/-- Skip the value at the front. Every step uses up a unit of fuel and a character of the text. -/
def skipValue? : (fuel : Nat) → List Char → Option (List Char)
  | 0, _ => none
  | fuel + 1, cs =>
    match skipSpace cs with
    | [] => none
    | 'n' :: 'u' :: 'l' :: 'l' :: rest => some rest
    | 't' :: 'r' :: 'u' :: 'e' :: rest => some rest
    | 'f' :: 'a' :: 'l' :: 's' :: 'e' :: rest => some rest
    | '"' :: rest => skipString? rest
    | '[' :: rest =>
      match skipSpace rest with
      | ']' :: rest => some rest
      | rest => skipItems? fuel rest
    | '\x7b' :: rest =>
      match skipSpace rest with
      | '\x7d' :: rest => some rest
      | rest => skipMembers? fuel rest
    | cs => (numeral? cs).map Prod.snd

/-- Skip the items of an array and its closing bracket. -/
def skipItems? : (fuel : Nat) → List Char → Option (List Char)
  | 0, _ => none
  | fuel + 1, cs =>
    match skipValue? fuel cs with
    | none => none
    | some rest =>
      match skipSpace rest with
      | ',' :: rest => skipItems? fuel rest
      | ']' :: rest => some rest
      | _ => none

/-- Skip the members of an object and its closing brace. -/
def skipMembers? : (fuel : Nat) → List Char → Option (List Char)
  | 0, _ => none
  | fuel + 1, cs =>
    match skipSpace cs with
    | '"' :: rest =>
      match (skipString? rest).map skipSpace with
      | some (':' :: rest) =>
        match (skipValue? fuel rest).map skipSpace with
        | some (',' :: rest) => skipMembers? fuel rest
        | some ('\x7d' :: rest) => some rest
        | _ => none
      | _ => none
    | _ => none

end

/-! ## Reading -/

/-- The largest number of arrays and objects around a value. -/
def maxDepth : Nat := 127

mutual

/-- The value at the front, with at most `depth` arrays and objects in each other. Every step uses
up a unit of fuel and a character of the text. -/
def valueAt? : (fuel depth : Nat) → Shape → List Char → Option (Json × List Char)
  | 0, _, _, _ => none
  | fuel + 1, depth, shape, cs =>
    match skipSpace cs with
    | [] => none
    | 'n' :: 'u' :: 'l' :: 'l' :: rest => some (.null, rest)
    | 't' :: 'r' :: 'u' :: 'e' :: rest => some (.bool true, rest)
    | 'f' :: 'a' :: 'l' :: 's' :: 'e' :: rest => some (.bool false, rest)
    | '"' :: rest => (stringBody? rest).map fun (body, rest) => (.text (String.ofList body), rest)
    | '[' :: rest =>
      match depth with
      | 0 => none
      | depth + 1 =>
        match skipSpace rest with
        | ']' :: rest => some (.array [], rest)
        | rest => (itemsAt? fuel depth shape 0 rest).map fun (items, rest) => (.array items, rest)
    | '\x7b' :: rest =>
      match depth with
      | 0 => none
      | depth + 1 =>
        match skipSpace rest with
        | '\x7d' :: rest => some (.object [], rest)
        | rest =>
          (membersAt? fuel depth shape rest).map fun (members, rest) => (.object members, rest)
    | cs =>
      match numeral? cs with
      | none => none
      | some (n, rest) => n.number?.map fun number => (.number number, rest)

/-- The items of an array up to its closing bracket, the first of which has a given index. -/
def itemsAt? : (fuel depth : Nat) → Shape → (index : Nat) → List Char →
    Option (List Json × List Char)
  | 0, _, _, _, _ => none
  | fuel + 1, depth, shape, index, cs =>
    match valueAt? fuel depth (shape.item index) cs with
    | none => none
    | some (item, rest) =>
      match skipSpace rest with
      | ',' :: rest =>
        (itemsAt? fuel depth shape (index + 1) rest).map fun (items, rest) => (item :: items, rest)
      | ']' :: rest => some ([item], rest)
      | _ => none

/-- The members of an object that are read, up to its closing brace. -/
def membersAt? : (fuel depth : Nat) → Shape → List Char →
    Option (List (String × Json) × List Char)
  | 0, _, _, _ => none
  | fuel + 1, depth, shape, cs =>
    match skipSpace cs with
    | '"' :: rest =>
      match stringBody? rest with
      | none => none
      | some (name, rest) =>
        match skipSpace rest with
        | ':' :: rest =>
          let name := String.ofList name
          let read := match shape.member? name with
            | some inner =>
              (valueAt? fuel depth inner rest).map fun (value, rest) => ([(name, value)], rest)
            | none => (skipValue? fuel rest).map fun rest => ([], rest)
          match read with
          | none => none
          | some (first, rest) =>
            match skipSpace rest with
            | ',' :: rest =>
              (membersAt? fuel depth shape rest).map fun (members, rest) =>
                (first ++ members, rest)
            | '\x7d' :: rest => some (first, rest)
            | _ => none
        | _ => none
    | _ => none

end

/-- The parts of the value of a JSON text that a shape asks for, or nothing if the text is not
JSON. -/
def parseShape? (shape : Shape) (s : String) : Option Json :=
  let cs := s.toList
  match valueAt? (2 * cs.length + 2) maxDepth shape cs with
  | none => none
  | some (value, rest) => if (skipSpace rest).isEmpty then some value else none

/-- The value of a JSON text as it is written, or nothing if the text is not JSON. -/
def parseDocument? (s : String) : Option Json := parseShape? .whole s

/-- The value of a JSON text, of repeated names the last value. -/
def parse? (s : String) : Option Json := (parseDocument? s).map distinct

end RecordStore.Json
