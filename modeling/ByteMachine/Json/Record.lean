import ByteMachine.Json

/-!
# Typed reading of documents

A structure is read from an object with its fields in any order, or from an array with its fields
in their own order.  An object may have fields of other names; they are ignored whatever they hold.
A tagged value is an object with the tag as its only key, or, if the tag stands for itself, just a
string.

## Main definitions

- `Json.word?` — a natural number below a bound
- `Json.list?` — an array whose items are all of one type
- `Json.record?` — the fields of a structure
- `Json.tagged?` — tag and contents of a tagged value
-/

namespace ByteMachine.Json

/-- A natural number below `bound`. -/
def word? (bound : Nat) : Json → Option Nat
  | .nat n => if n < bound then some n else none
  | _ => none

/-- The items of an array, each read by `item`. -/
def list? {α : Type} (item : Json → Option α) : Json → Option (List α)
  | .arr items => items.mapM item
  | _ => none

/-- The value of the field `name`: inner `none` if there is no such field, outer `none` if there
are several. -/
def field? (fields : List (JsonText × Json)) (name : String) : Option (Option Json) :=
  match fields.filter fun (key, _) => key = some name.toList with
  | [] => some none
  | [(_, value)] => some (some value)
  | _ => none

/-- The fields `names` of a structure, each of them where it is present.  Only an object can lack
fields. -/
def record? (names : List String) : Json → Option (List (Option Json))
  | .arr items => if items.length = names.length then some (items.map some) else none
  | .obj fields => if fields.all (·.1.isSome) then names.mapM (field? fields) else none
  | _ => none

/-- The fields `names` of a structure that has all of them. -/
def fullRecord? (names : List String) (j : Json) : Option (List Json) := do
  (← record? names j).mapM id

/-- The tag of a tagged value, and what it is put to. -/
def tagged? : Json → Option (List Char × Option Json)
  | .str (some tag) => some (tag, none)
  | .obj [(some tag, contents)] => some (tag, some contents)
  | _ => none

/-- Whether a tag stands for itself: it comes alone, or with `null`. -/
def isBare : Option Json → Bool
  | none | some .null => true
  | some _ => false

end ByteMachine.Json
