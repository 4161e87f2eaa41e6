import ByteMachine.Json.Lexer

/-!
# Reading a JSON document

The tokens of a document are read from left to right with a stack of the arrays and objects that
are still open, so the depth of a document costs no recursion.

## Main definitions

- `Json.Frame` — an open array or object
- `Json.Expect` — what the reader waits for
- `Json.build` — the document that tokens spell
- `Json.parse?` — the document of a text
-/

namespace ByteMachine.Json

/-- An array or object that is still open, with its finished parts in reverse. -/
inductive Frame where
  | items (done : List Json)
  | fields (done : List (JsonText × Json)) (key : JsonText)

/-- What the reader waits for. -/
inductive Expect where
  | value
  /-- The first item of an array, or its end. -/
  | firstItem
  /-- The key of a further field of an object. -/
  | key (done : List (JsonText × Json))
  /-- The key of the first field of an object, or its end. -/
  | firstKey
  /-- The colon behind a key. -/
  | colon (done : List (JsonText × Json)) (key : JsonText)
  /-- Whatever may come behind a complete value. -/
  | behind (value : Json)

/-- The token as the beginning of a value. -/
def Token.begin? (frames : List Frame) : Token → Option (Expect × List Frame)
  | .openArray => some (.firstItem, frames)
  | .openObject => some (.firstKey, frames)
  | .null => some (.behind .null, frames)
  | .bool b => some (.behind (.bool b), frames)
  | .nat n => some (.behind (.nat n), frames)
  | .numeral spelling => some (.behind (.numeral spelling), frames)
  | .str text => some (.behind (.str text), frames)
  | .closeArray | .closeObject | .colon | .comma => none

/-- What the reader waits for after a token, and what is open then. -/
def Expect.next : Expect → List Frame → Token → Option (Expect × List Frame)
  | .value, frames, t => t.begin? frames
  | .firstItem, frames, .closeArray => some (.behind (.arr []), frames)
  | .firstItem, frames, t => t.begin? (.items [] :: frames)
  | .firstKey, frames, .closeObject => some (.behind (.obj []), frames)
  | .firstKey, frames, .str name => some (.colon [] name, frames)
  | .key done, frames, .str name => some (.colon done name, frames)
  | .colon done name, frames, .colon => some (.value, .fields done name :: frames)
  | .behind v, .items done :: frames, .comma => some (.value, .items (v :: done) :: frames)
  | .behind v, .items done :: frames, .closeArray =>
    some (.behind (.arr (v :: done).reverse), frames)
  | .behind v, .fields done name :: frames, .comma => some (.key ((name, v) :: done), frames)
  | .behind v, .fields done name :: frames, .closeObject =>
    some (.behind (.obj ((name, v) :: done).reverse), frames)
  | _, _, _ => none

/-- The document that tokens spell, read with the given frames open. -/
def build : Expect → List Frame → List Token → Option Json
  | .behind v, [], [] => some v
  | _, _, [] => none
  | expect, frames, t :: rest => do
    let (expect', frames') ← expect.next frames t
    build expect' frames' rest

def parse? (text : String) : Option Json := do
  build .value [] (← Token.ofText? text.toList)

end ByteMachine.Json
