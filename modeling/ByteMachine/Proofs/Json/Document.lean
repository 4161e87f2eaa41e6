import ByteMachine.Json.Parser
import ByteMachine.Proofs.Json.Layout

/-!
# Reading a written document

The reader of a document keeps the open arrays and objects on a stack.  After the tokens of a value
it stands behind this value with the stack as it was, whatever was open before.  So a document is
read back from its tokens, and from both of its layouts.

## Main statements

- `Json.build_tokens` — the tokens of a value, read anywhere in a document
- `Json.parse?_compact`, `Json.parse?_indented` — a document is read back from its text
-/

namespace ByteMachine.Json

variable {expect expect' : Expect} {frames frames' : List Frame} {t : Token}

theorem build_cons (h : expect.next frames t = some (expect', frames')) (rest : List Token) :
    build expect frames (t :: rest) = build expect' frames' rest := by
  rw [build, h]
  rfl

/-- The first item of an array is read like any later one. -/
theorem build_firstItem (item : Json) (frames : List Frame) (rest : List Token) :
    build .firstItem frames (item.tokens ++ rest) =
      build .value (.items [] :: frames) (item.tokens ++ rest) := by
  cases item <;> rfl

mutual

/-- After the tokens of a value the reader stands behind it. -/
theorem build_tokens : ∀ (j : Json) (frames : List Frame) (rest : List Token),
    build .value frames (j.tokens ++ rest) = build (.behind j) frames rest
  | .null, _, _ => rfl
  | .bool _, _, _ => rfl
  | .nat _, _, _ => rfl
  | .numeral _, _, _ => rfl
  | .str _, _, _ => rfl
  | .arr [], _, _ => rfl
  | .arr (item :: items), frames, rest => by
    have hopen : Expect.value.next frames .openArray = some (.firstItem, frames) := rfl
    rw [tokens_arr_cons, List.cons_append, build_cons hopen, List.append_assoc, build_firstItem,
      build_tokens item, List.append_assoc, List.singleton_append, build_items items]
    rfl
  | .obj [], _, _ => rfl
  | .obj ((key, value) :: fields), frames, rest => by
    have hopen : Expect.value.next frames .openObject = some (.firstKey, frames) := rfl
    have hkey : Expect.firstKey.next frames (.str key) = some (.colon [] key, frames) := rfl
    have hcolon : (Expect.colon [] key).next frames .colon =
      some (.value, .fields [] key :: frames) := rfl
    rw [tokens_obj_cons, List.cons_append, build_cons hopen, List.cons_append, build_cons hkey,
      List.cons_append, build_cons hcolon, List.append_assoc, build_tokens value,
      List.append_assoc, List.singleton_append, build_fields fields]
    rfl

/-- Behind an item, the further items and the end of the array are read. -/
theorem build_items : ∀ (items : List Json) (v : Json) (done : List Json) (frames : List Frame)
    (rest : List Token),
    build (.behind v) (.items done :: frames)
        ((itemTokens items).flatMap (.comma :: ·) ++ .closeArray :: rest) =
      build (.behind (.arr (done.reverse ++ v :: items))) frames rest
  | [], v, done, frames, rest => by
    have hclose : (Expect.behind v).next (.items done :: frames) .closeArray =
      some (.behind (.arr (v :: done).reverse), frames) := rfl
    rw [List.reverse_cons] at hclose
    exact build_cons hclose rest
  | item :: items, v, done, frames, rest => by
    have hcomma : (Expect.behind v).next (.items done :: frames) .comma =
      some (.value, .items (v :: done) :: frames) := rfl
    rw [flatMap_itemTokens_cons, List.cons_append, build_cons hcomma, List.append_assoc,
      build_tokens item, build_items items, List.reverse_cons, List.append_assoc,
      List.singleton_append]

/-- Behind the value of a field, the further fields and the end of the object are read. -/
theorem build_fields : ∀ (fields : List (JsonText × Json)) (v : Json)
    (done : List (JsonText × Json)) (name : JsonText) (frames : List Frame) (rest : List Token),
    build (.behind v) (.fields done name :: frames)
        ((fieldTokens fields).flatMap (.comma :: ·) ++ .closeObject :: rest) =
      build (.behind (.obj (done.reverse ++ (name, v) :: fields))) frames rest
  | [], v, done, name, frames, rest => by
    have hclose : (Expect.behind v).next (.fields done name :: frames) .closeObject =
      some (.behind (.obj ((name, v) :: done).reverse), frames) := rfl
    rw [List.reverse_cons] at hclose
    exact build_cons hclose rest
  | (key, value) :: fields, v, done, name, frames, rest => by
    have hcomma : (Expect.behind v).next (.fields done name :: frames) .comma =
      some (.key ((name, v) :: done), frames) := rfl
    have hkey : (Expect.key ((name, v) :: done)).next frames (.str key) =
      some (.colon ((name, v) :: done) key, frames) := rfl
    have hcolon : (Expect.colon ((name, v) :: done) key).next frames .colon =
      some (.value, .fields ((name, v) :: done) key :: frames) := rfl
    rw [flatMap_fieldTokens_cons, List.cons_append, build_cons hcomma, List.cons_append,
      build_cons hkey, List.cons_append, build_cons hcolon, List.append_assoc, build_tokens value,
      build_fields fields, List.reverse_cons, List.append_assoc, List.singleton_append]

end

theorem build_tokens_nil (j : Json) : build .value [] j.tokens = some j := by
  have h := build_tokens j [] []
  rw [List.append_nil] at h
  exact h

/-- A document is read back from its compact layout. -/
theorem parse?_compact {j : Json} (hplain : Plain j.tokens) : parse? j.compact = some j := by
  rw [parse?, ofText?_compact hplain]
  exact build_tokens_nil j

/-- A document is read back from its indented layout. -/
theorem parse?_indented {j : Json} (hplain : Plain j.tokens) : parse? j.indented = some j := by
  rw [parse?, ofText?_indented hplain]
  exact build_tokens_nil j

end ByteMachine.Json
