import RecordStore.Yaml.Basic
import RecordStore.Yaml.Character

/-!
# Anchors and tags of YAML texts

The marks in front of a node: the name of an anchor, and a tag, which is a handle and a suffix. The
handle stands for the beginning of the tag; it is empty if the suffix is the whole tag.

* `Yaml.anchorName?`, `Yaml.tag?`, `Yaml.handle?`, `Yaml.uri?` — what is at the front, and the rest
  of the source.
-/

namespace RecordStore.Yaml

/-- The name of an anchor: letters, digits, underscores and hyphens, at least one of them. -/
def anchorName? (source : Source) : Option (String × Source) :=
  let (name, rest) := source.split isWordChar
  let ends := ['?', ':', ',', ']', '\x7d', '%', '@', '\x60']
  if !name.isEmpty && (rest.isSeparated || rest.startsWith ends.contains) then
    some (String.ofList name, rest)
  else none

/-- A character of a tag. Commas and square brackets are allowed where the tag has an end mark. -/
def isUriChar (enclosed : Bool) (c : Char) : Bool :=
  isWordChar c ||
    [';', '/', '?', ':', '@', '&', '=', '+', '$', '.', '%', '!', '~', '*', '\'', '(', ')'].contains
      c ||
    (enclosed && (c = ',' || c = '[' || c = ']'))

/-- The value of a byte that is written as a percent sign and two hexadecimal digits. -/
def uriByte? : Source → Option (Nat × Source)
  | a :: b :: c :: rest =>
    if a.char = '%' then (digits? 16 [b.char, c.char]).map fun byte => (byte, rest) else none
  | _ => none

/-- A code point that is continued by `count` bytes of six bits each. -/
def uriCode? (code : Nat) : (count : Nat) → Source → Option (Nat × Source)
  | 0, source => some (code, source)
  | count + 1, source => do
    let (byte, rest) ← uriByte? source
    if byte / 64 = 2 then uriCode? (code * 64 + byte % 64) count rest else none

/-- A character that is written as the bytes of its UTF-8 form. What is no character is replaced. -/
def uriEscape? (source : Source) : Option (Char × Source) := do
  let (byte, rest) ← uriByte? source
  let (code, rest) ←
    if byte < 0x80 then some (byte, rest)
    else if byte < 0xc0 then none
    else if byte < 0xe0 then uriCode? (byte % 32) 1 rest
    else if byte < 0xf0 then uriCode? (byte % 16) 2 rest
    else if byte < 0xf8 then uriCode? (byte % 8) 3 rest
    else none
  some (if code.isValidChar then Char.ofNat code else '\ufffd', rest)

/-- The characters of a tag. -/
def uriChars? (enclosed : Bool) : (fuel : Nat) → Source → Option (List Char × Source)
  | 0, _ => none
  | _ + 1, [] => some ([], [])
  | fuel + 1, c :: rest => do
    if !isUriChar enclosed c.char then some ([], c :: rest)
    else
      let (x, rest) ← if c.char = '%' then uriEscape? (c :: rest) else some (c.char, rest)
      let (xs, rest) ← uriChars? enclosed fuel rest
      some (x :: xs, rest)

/-- The text of a tag. -/
def uri? (enclosed : Bool) (source : Source) : Option (String × Source) :=
  (uriChars? enclosed (source.length + 1) source).map fun (cs, rest) => (String.ofList cs, rest)

/-- An exclamation mark and a word, after which another exclamation mark may follow. -/
def handle? (source : Source) : Option (String × Source) :=
  if source.front? = some '!' then
    let (name, rest) := (source.after 1).split isWordChar
    if rest.front? = some '!' then some (String.ofList ('!' :: name ++ ['!']), rest.after 1)
    else some (String.ofList ('!' :: name), rest)
  else none

/-- Whether a handle stands for the beginning of a tag: it has two exclamation marks. -/
def isHandle (handle : String) : Bool := 1 < handle.length && handle.endsWith "!"

/-- The handle and the suffix of a tag that begins with an exclamation mark. -/
def tagParts? (source : Source) : Option (String × String × Source) := do
  if (source.after 1).front? = some '<' then
    let (uri, rest) ← uri? true (source.after 2)
    if uri.isEmpty || rest.front? != some '>' then none else some ("", uri, rest.after 1)
  else
    let (handle, rest) ← handle? source
    let (uri, rest) ← uri? false rest
    if isHandle handle then (if uri.isEmpty then none else some (handle, uri, rest))
    else
      let suffix := String.ofList (handle.toList.drop 1) ++ uri
      if suffix.isEmpty then some ("", "!", rest) else some ("!", suffix, rest)

/-- The handle and the suffix of a tag, which a blank or, inside a flow collection, a comma ends. -/
def tag? (flow : Bool) (source : Source) : Option (String × String × Source) := do
  let (handle, suffix, rest) ← tagParts? source
  if rest.isSeparated || (flow && rest.front? = some ',') then some (handle, suffix, rest) else none

end RecordStore.Yaml
