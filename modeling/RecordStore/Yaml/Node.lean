import RecordStore.Yaml.Token

/-!
# The documents of YAML texts

The grammar of documents over their tokens. A text holds one document at most, which may be given
between its marks.

* `Yaml.Composer` — the tokens that are left and the anchors that were found;
* `Yaml.parse?` — the document of a text.
-/

namespace RecordStore.Yaml

/-- The tokens that are left, the numbers of the anchors by their names, and the nodes that are
marked by them, as far as they are complete; of those the one that begins last comes first. -/
structure Composer where
  tokens : List Token
  numbers : List (String × Nat)
  complete : List (Nat × Yaml)

/-- A step of composing, which may fail. -/
abbrev Compose := StateT Composer Option

namespace Compose

/-- The token at the front. -/
def peek : Compose (Option Token) := do return (← get).tokens.head?

/-- Drop the token at the front. -/
def advance : Compose Unit :=
  modify fun composer => { composer with tokens := composer.tokens.tail }

/-- Drop the token at the front if it is the expected one, and tell whether it was. -/
def accept (expected : Token) : Compose Bool := do
  if (← peek) = some expected then
    advance
    return true
  else return false

/-- The token at the front has to be the expected one, and is dropped. -/
def expect (expected : Token) : Compose Unit := do
  if !(← accept expected) then failure

/-- Whether the token at the front is one of some tokens. -/
def isAmong (tokens : List Token) : Compose Bool := do
  return ((← peek).map tokens.contains).getD false

end Compose

open Compose

/-- The handles that stand for the beginning of a tag in every document. -/
def usualHandles : List (String × String) := [("!", "!"), ("!!", "tag:yaml.org,2002:")]

/-- The tag of a handle and a suffix. -/
def fullTag? (handles : List (String × String)) (handle suffix : String) : Option String :=
  if handle.isEmpty then some suffix
  else (handles.lookup handle).map fun beginning => beginning ++ suffix

/-- The marks in front of a node. -/
structure Properties where
  anchor : Option String
  tag : Option String

namespace Properties

/-- Whether there are no marks. -/
def isEmpty (properties : Properties) : Bool :=
  properties.anchor.isNone && properties.tag.isNone

/-- An optional anchor. -/
def readAnchor : Compose (Option String) := do
  match ← peek with
  | some (.anchor name) =>
    advance
    return some name
  | _ => return none

/-- An optional tag. -/
def readTag (handles : List (String × String)) : Compose (Option String) := do
  match ← peek with
  | some (.tag handle suffix) =>
    advance
    return some (← fullTag? handles handle suffix)
  | _ => return none

/-- An anchor and a tag in either order, both of which may be missing. -/
def read (handles : List (String × String)) : Compose Properties := do
  match ← readAnchor with
  | some name => return ⟨some name, ← readTag handles⟩
  | none =>
    let tag ← readTag handles
    return ⟨← if tag.isSome then readAnchor else pure none, tag⟩

end Properties

/-- Compose a node that may be marked by an anchor. The anchor is known inside the node, too. Its
number is how many names there were before it; as a name that is given again does not count twice,
two anchors may share a number, and an alias then stands for the node that begins later. -/
def anchored (anchor : Option String) (content : Compose Yaml) : Compose Yaml := do
  match anchor with
  | none => content
  | some name =>
    let outside ← get
    let number := outside.numbers.length
    set { outside with
      numbers := (name, number) :: outside.numbers.filter fun (other, _) => other != name }
    let node ← content
    modify fun composer =>
      let within := composer.complete.length - outside.complete.length
      { composer with
        complete :=
          composer.complete.take within ++ (number, node) :: composer.complete.drop within }
    return node

mutual

/-- The node at the front. A block collection may only begin where `block` allows it, and a sequence
without indentation only as the key or the value of a block mapping. -/
def node (handles : List (String × String)) (block unindented : Bool) :
    (fuel : Nat) → Compose Yaml
  | 0 => failure
  | fuel + 1 => do
    match ← peek with
    | some (.alias name) =>
      advance
      return .alias (← (← get).numbers.lookup name)
    | _ =>
      let properties ← Properties.read handles
      anchored properties.anchor do
        match ← peek with
        | some (.scalar style text) =>
          advance
          return .scalar style properties.tag text
        | some .flowSequence =>
          advance
          return .sequence (← flowItems handles true fuel)
        | some .flowMapping =>
          advance
          return .mapping (← flowEntries handles true fuel)
        | some .item =>
          if unindented then return .sequence (← unindentedItems handles fuel)
          else if properties.isEmpty then failure
          else return .scalar .plain properties.tag ""
        | some .blockSequence =>
          if block then
            advance
            return .sequence (← blockItems handles fuel)
          else if properties.isEmpty then failure
          else return .scalar .plain properties.tag ""
        | some .blockMapping =>
          if block then
            advance
            return .mapping (← blockEntries handles fuel)
          else if properties.isEmpty then failure
          else return .scalar .plain properties.tag ""
        | _ =>
          if properties.isEmpty then failure
          else return .scalar .plain properties.tag ""

/-- The node at the front, or nothing if one of the tokens that end it is there. -/
def nodeUnless (ends : List Token) (handles : List (String × String)) (block unindented : Bool) :
    (fuel : Nat) → Compose Yaml
  | 0 => failure
  | fuel + 1 => do
    if ← isAmong ends then return nothing else node handles block unindented fuel

/-- The node after a token, or nothing if the token is not there. -/
def nodeAfter (first : Token) (ends : List Token) (handles : List (String × String))
    (block : Bool) : (fuel : Nat) → Compose Yaml
  | 0 => failure
  | fuel + 1 => do
    if ← accept first then nodeUnless ends handles block block fuel else return nothing

/-- The items of a block sequence up to its end. -/
def blockItems (handles : List (String × String)) : (fuel : Nat) → Compose (List Yaml)
  | 0 => failure
  | fuel + 1 => do
    if ← accept .item then
      let item ← nodeUnless [.item, .blockEnd] handles true false fuel
      return item :: (← blockItems handles fuel)
    else
      expect .blockEnd
      return []

/-- The items of a sequence without indentation. -/
def unindentedItems (handles : List (String × String)) : (fuel : Nat) → Compose (List Yaml)
  | 0 => failure
  | fuel + 1 => do
    if ← accept .item then
      let item ← nodeUnless [.item, .key, .value, .blockEnd] handles true false fuel
      return item :: (← unindentedItems handles fuel)
    else return []

/-- The entries of a block mapping up to its end. -/
def blockEntries (handles : List (String × String)) : (fuel : Nat) → Compose (List (Yaml × Yaml))
  | 0 => failure
  | fuel + 1 => do
    if ← accept .key then
      let ends : List Token := [.key, .value, .blockEnd]
      let key ← nodeUnless ends handles true true fuel
      let value ← nodeAfter .value ends handles true fuel
      return (key, value) :: (← blockEntries handles fuel)
    else
      expect .blockEnd
      return []

/-- The items of a flow sequence up to its end. An item that is marked as a key is a mapping with
one entry; a missing key takes the next token with it. -/
def flowItems (handles : List (String × String)) (first : Bool) :
    (fuel : Nat) → Compose (List Yaml)
  | 0 => failure
  | fuel + 1 => do
    if ← accept .flowSequenceEnd then return []
    else
      if !first then expect .separator
      if !first && (← accept .flowSequenceEnd) then return []
      else if ← accept .key then
        let missing ← isAmong [.value, .separator, .flowSequenceEnd]
        let key ← if missing then (do advance; return nothing) else node handles false false fuel
        let value ← nodeAfter .value [.separator, .flowSequenceEnd] handles false fuel
        return .mapping [(key, value)] :: (← flowItems handles false fuel)
      else
        let item ← node handles false false fuel
        return item :: (← flowItems handles false fuel)

/-- The entries of a flow mapping up to its end. What is not marked as a key has no value. -/
def flowEntries (handles : List (String × String)) (first : Bool) :
    (fuel : Nat) → Compose (List (Yaml × Yaml))
  | 0 => failure
  | fuel + 1 => do
    if ← accept .flowMappingEnd then return []
    else
      if !first then expect .separator
      if !first && (← accept .flowMappingEnd) then return []
      else if ← accept .key then
        let key ← nodeUnless [.value, .separator, .flowMappingEnd] handles false false fuel
        let value ← nodeAfter .value [.separator, .flowMappingEnd] handles false fuel
        return (key, value) :: (← flowEntries handles false fuel)
      else
        let key ← node handles false false fuel
        return (key, nothing) :: (← flowEntries handles false fuel)

end

/-- The directives at the front: at most one version, which has to be 1.1 or 1.2, and handles, each
of which is given once. -/
def directives (versioned : Bool) (handles : List (String × String)) :
    (fuel : Nat) → Compose (List (String × String))
  | 0 => failure
  | fuel + 1 => do
    match ← peek with
    | some (.version major minor) =>
      if versioned || major != 1 || (minor != 1 && minor != 2) then failure
      else
        advance
        directives true handles fuel
    | some (.tagHandle handle beginning) =>
      if (handles.lookup handle).isSome then failure
      else
        advance
        directives versioned (handles ++ [(handle, beginning)]) fuel
    | _ => return handles

/-- Whether a token begins a document that is given between its marks. -/
def Token.opensDocument : Token → Bool
  | .version .. => true
  | .tagHandle .. => true
  | .documentStart => true
  | _ => false

/-- The node of the document at the front; a text without tokens has an empty one. -/
def documentNode (fuel : Nat) : Compose Yaml := do
  match ← peek with
  | none => return nothing
  | some token =>
    if token.opensDocument then
      let handles ← directives false [] fuel
      expect .documentStart
      match ← peek with
      | none => return nothing
      | some token =>
        if token.opensDocument || token = .documentEnd then return nothing
        else node (handles ++ usualHandles) true false fuel
    else node usualHandles true false fuel

/-- The document of a list of tokens, after which there may only be marks of its end. -/
def ofTokens? (tokens : List Token) : Option Document := do
  let (root, composer) ← (documentNode (4 * tokens.length + 8)).run ⟨tokens, [], []⟩
  if composer.tokens.all (· == .documentEnd) then some ⟨root, composer.complete⟩ else none

/-- The document of a text. -/
def parse? (s : String) : Option Document := do
  ofTokens? (← tokens? (← Source.ofText? s))

end RecordStore.Yaml
