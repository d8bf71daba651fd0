import RecordStore.Binary64.Rounding
import RecordStore.Record
import RecordStore.Text.Lowercase
import RecordStore.Text.Word

/-!
# Full-text search

A search looks for a query in the searchable fields of a record, ignoring case. An occurrence is
graded: the whole field counts most, then one at the beginning of a word, then any other. A record
is found if some field has an occurrence; its score is that of its best field.

* `Search.bestMatch?` — the best occurrence in a text, of equally good ones the first;
* `Search.hit?` — the score and the highlights of a record;
* `Search.hits` — the records found, in their order.
-/

namespace RecordStore

/-- A query and the fields in which it is looked for. -/
structure SearchSpec where
  query : String
  fields : List String
  deriving DecidableEq

/-- The score and the highlights of a record that was found. -/
structure SearchHit where
  recordId : String
  score : Binary64
  highlights : List String
  deriving DecidableEq

/-- The grades of an occurrence, from worst to best. -/
inductive Grade where
  | inside
  | wordStart
  | exact
  deriving DecidableEq

namespace Grade

/-- The place of a grade. -/
def rank : Grade → Nat
  | .inside => 0
  | .wordStart => 1
  | .exact => 2

/-- The score of a grade: one half, four fifths or one. -/
def score : Grade → Binary64
  | .inside => .ofRatio false 1 2
  | .wordStart => .ofRatio false 4 5
  | .exact => .ofRatio false 1 1

/-- The better of two grades. -/
def max (a b : Grade) : Grade := if a.rank < b.rank then b else a

end Grade

namespace Search

/-- A search with a blank query is no search. -/
def isActive (spec : SearchSpec) : Bool := !Text.isBlankText spec.query

/-- The characters at the front that equal the query up to case, and the rest. -/
def matchFront? : (query text : List Char) → Option (List Char × List Char)
  | [], text => some ([], text)
  | _ :: _, [] => none
  | q :: query, c :: text =>
    if Text.equalIgnoringCase c q then
      (matchFront? query text).map fun (found, rest) => (c :: found, rest)
    else none

/-- The grade of an occurrence between the character before it and the text after it. -/
def grade (previous : Option Char) (rest : List Char) : Grade :=
  match previous with
  | none => if rest.isEmpty then .exact else .wordStart
  | some c => if Text.isAlphanumeric c then .inside else .wordStart

/-- The best occurrence in a text that follows the character `previous`. An occurrence at the
beginning of a word ends the search, since only the whole text would be better. -/
def bestFrom? (query : List Char) (previous : Option Char) :
    List Char → Option (Grade × List Char)
  | [] => none
  | c :: cs =>
    match matchFront? query (c :: cs) with
    | none => bestFrom? query (some c) cs
    | some (found, rest) =>
      let here := grade previous rest
      if here = .inside then
        match bestFrom? query (some c) cs with
        | some (later, other) =>
          if here.rank < later.rank then some (later, other) else some (here, found)
        | none => some (here, found)
      else some (here, found)

/-- The best occurrence of a query in a text and the text of that occurrence. -/
def bestMatch? (text query : String) : Option (Grade × String) :=
  (bestFrom? query.toList none text.toList).map fun (grade, found) =>
    (grade, String.ofList found)

/-- The best occurrences in the fields that have one, in the order of the fields. -/
def occurrences (record : Record) (query : String) (fields : List String) :
    List (Grade × String) :=
  fields.filterMap fun field =>
    ((record.fieldValue? field).bind FieldValue.searchableText?).bind (bestMatch? · query)

/-- The best of the grades, if there are any. -/
def bestGrade? : List (Grade × String) → Option Grade
  | [] => none
  | (g, _) :: rest =>
    match bestGrade? rest with
    | none => some g
    | some other => some (g.max other)

/-- The score and the highlights of a record, if the query occurs in it. -/
def hit? (query : String) (fields : List String) (record : Record) : Option SearchHit :=
  let found := occurrences record query fields
  (bestGrade? found).map fun grade => ⟨record.id, grade.score, found.map Prod.snd⟩

/-- The records in which the query occurs, in their order; none if the search is not active. -/
def hits (records : List Record) (spec : SearchSpec) : List SearchHit :=
  if isActive spec then records.filterMap (hit? (Text.trim spec.query) spec.fields) else []

end Search

end RecordStore
