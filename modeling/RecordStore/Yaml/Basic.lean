import RecordStore.Binary64.Text
import RecordStore.Members

/-!
# YAML documents

A YAML document as data, and the rules by which values of a fixed type are read from it. A scalar
is a text; how it was written decides if it may stand for a number or for nothing. A node may be
marked by an anchor, and an alias stands for the marked node. The tags of collections, and which of
the two kinds of quotes was used, make no difference and are not kept.

* `Yaml`, `Yaml.Document` — the types;
* `Yaml.Document.text?`, `Yaml.Document.integer?`, `Yaml.Document.items?`,
  `Yaml.Document.members?`, … — reading.
-/

namespace RecordStore

/-- How a scalar is written. -/
inductive Yaml.Style where
  | plain
  | quoted
  | literal
  | folded
  deriving DecidableEq

/-- A YAML node. -/
inductive Yaml where
  | scalar (style : Yaml.Style) (tag : Option String) (text : String)
  | sequence (items : List Yaml)
  | mapping (entries : List (Yaml × Yaml))
  | alias (anchor : Nat)

namespace Yaml

/-- The node of which nothing is written. -/
def nothing : Yaml := .scalar .plain none ""

instance : Inhabited Yaml := ⟨nothing⟩

/-- A document: its node, and the nodes that are marked by anchors, none of which is an alias. -/
structure Document where
  root : Yaml
  anchored : List (Nat × Yaml)

/-- The names of the null value. -/
def nullNames : List String := ["~", "null", "Null", "NULL"]

/-- The tag of the null value. -/
def nullTag : String := "tag:yaml.org,2002:null"

/-- The tag of integers. -/
def integerTag : String := "tag:yaml.org,2002:int"

/-- The value of a digit in a base of at most 16. -/
def digitIn? (base : Nat) (c : Char) : Option Nat :=
  let value :=
    if '0' ≤ c ∧ c ≤ '9' then some (c.toNat - '0'.toNat)
    else if 'a' ≤ c ∧ c ≤ 'f' then some (c.toNat - 'a'.toNat + 10)
    else if 'A' ≤ c ∧ c ≤ 'F' then some (c.toNat - 'A'.toNat + 10)
    else none
  value.filter (· < base)

/-- The number of a list of digits, which must not be empty. -/
def digits? (base : Nat) : List Char → Option Nat
  | [] => none
  | cs => (cs.mapM (digitIn? base)).map fun ds => ds.foldl (fun n d => base * n + d) 0

/-- The number of digits with an optional mark of the base. Decimal digits with a zero in front
are no number. -/
def unsigned? : List Char → Option Nat
  | '0' :: 'x' :: cs => digits? 16 cs
  | '0' :: 'o' :: cs => digits? 8 cs
  | '0' :: 'b' :: cs => digits? 2 cs
  | ['0'] => some 0
  | '0' :: _ => none
  | cs => digits? 10 cs

/-- The integer of a text. -/
def integerOfText? (text : String) : Option Int :=
  match text.toList with
  | '+' :: cs => (unsigned? cs).map Int.ofNat
  | '-' :: cs => (unsigned? cs).map fun n => -(n : Int)
  | cs => (unsigned? cs).map Int.ofNat

/-- The name that a tag of the document's own gives to a value. -/
def nameOfTag? (tag : String) : Option String :=
  match tag.toList with
  | ['!'] => some tag
  | '!' :: name => some (String.ofList name)
  | _ => none

namespace Document

variable (document : Document)

/-- The node that is meant: for an alias the one that it stands for. -/
def resolve : Yaml → Yaml
  | .alias anchor => (document.anchored.lookup anchor).getD nothing
  | node => node

/-- The text of a scalar, however it is written. -/
def text? (node : Yaml) : Option String :=
  match document.resolve node with
  | .scalar _ _ text => some text
  | _ => none

/-- A text that may be the null value. Without quotes and a tag the names of the null value and the
empty text are null. With the tag of the null value only its names are allowed, and any other tag
makes all of them texts. -/
def optionalText? (node : Yaml) : Option (Option String) :=
  match document.resolve node with
  | .scalar .plain (some tag) text =>
    if tag = nullTag then (if nullNames.contains text then some none else none)
    else some (some text)
  | .scalar .plain none text =>
    some (if text = "" ∨ nullNames.contains text then none else some text)
  | .scalar _ _ text => some (some text)
  | _ => none

/-- The name of a constant: the text of a scalar, or the name of its tag if it has one of the
document's own. Nothing but the null value may go with such a tag, even if it is the bare one. -/
def name? (node : Yaml) : Option String :=
  match document.resolve node with
  | .scalar style tag text =>
    match tag.bind nameOfTag? with
    | some name =>
      if style = .plain ∧ (text = "" ∨ nullNames.contains text) then some name else none
    | none => some text
  | _ => none

/-- The integer of a scalar without quotes, or of a literal one with the tag of integers. -/
def integer? (node : Yaml) : Option Int :=
  match document.resolve node with
  | .scalar .plain _ text => integerOfText? text
  | .scalar .literal (some tag) text => if tag = integerTag then integerOfText? text else none
  | _ => none

/-- The items of a sequence; an empty node is one without items. -/
def items? (node : Yaml) : Option (List Yaml) :=
  match document.resolve node with
  | .sequence items => some items
  | .scalar .plain _ "" => some []
  | _ => none

/-- The members of a mapping whose keys are scalars; an empty node is one without members. -/
def members? (node : Yaml) : Option (List (String × Yaml)) :=
  match document.resolve node with
  | .mapping entries =>
    entries.mapM fun (key, value) => (document.text? key).map fun name => (name, value)
  | .scalar .plain _ "" => some []
  | _ => none

end Document

end Yaml

end RecordStore
