import ByteMachine.Proofs.Json.Lexing
import Mathlib.Data.List.Chain

/-!
# The layouts of a document

Both layouts write the tokens of a document with nothing but blanks between them, and in a document
no two numerals or words stand side by side.  So the tokens are found again, whichever layout was
used.

## Main definitions

- `Json.Spells` — a text that consists of tokens with blanks between them
- `Json.Separated` — tokens of which no two that run on stand side by side
- `Json.Plain` — tokens without numerals that are kept as written

## Main statements

- `Json.separated_tokens` — the tokens of a document are separated
- `Json.ofText?_compact`, `Json.ofText?_indented` — they are read back from both layouts
-/

namespace ByteMachine.Json

variable {c : Char} {text gap : List Char} {ts : List Token}

/-! ### Texts that spell tokens -/

/-- No two tokens side by side run on. -/
def Separated (ts : List Token) : Prop :=
  ts.IsChain fun t u => t.runsOn = true → u.runsOn = false

/-- None of the tokens is a numeral that is kept as written. -/
def Plain (ts : List Token) : Prop :=
  ∀ spelling, Token.numeral spelling ∉ ts

/-- The text consists of the tokens with blanks between them. -/
inductive Spells : List Token → List Char → Prop where
  | nil : Spells [] []
  | single (t : Token) : Spells [t] t.chars
  | cons {t u : Token} {ts : List Token} {gap text : List Char}
    (hgap : ∀ c ∈ gap, isSpace c = true) (h : Spells (u :: ts) text) :
    Spells (t :: u :: ts) (t.chars ++ (gap ++ text))

theorem isBoundary_space (h : isSpace c = true) (rest : List Char) : IsBoundary (c :: rest) := by
  intro d hd
  obtain rfl : c = d := Option.some.inj hd
  simp only [isSpace, Bool.or_eq_true, decide_eq_true_eq] at h
  rcases h with ((rfl | rfl) | rfl) | rfl <;> exact ⟨rfl, rfl⟩

theorem Spells.isBoundary {u : Token} (h : Spells (u :: ts) text)
    (hgap : ∀ c ∈ gap, isSpace c = true) (hu : u.runsOn = false) : IsBoundary (gap ++ text) := by
  cases gap with
  | nil =>
    cases h with
    | single u =>
      have := isBoundary_chars hu []
      rwa [List.append_nil] at this
    | cons hgap h => exact isBoundary_chars hu _
  | cons c gap => exact isBoundary_space (hgap c List.mem_cons_self) _

/-- Plain tokens are read back from every text that spells them, if none touches the next. -/
theorem ofText?_of_spells (h : Spells ts text) (hplain : Plain ts) (hsep : Separated ts) :
    Token.ofText? text = some ts := by
  show lex .between text = some ts
  induction h with
  | nil => rfl
  | single t =>
    have hend : t.runsOn = true → IsBoundary [] := fun _ c hc => nomatch hc
    have ht : ∀ spelling, t ≠ .numeral spelling := by
      rintro spelling rfl
      exact hplain spelling List.mem_cons_self
    have hlex := lex_chars ht hend
    rwa [List.append_nil] at hlex
  | @cons t u ts gap text hgap h ih =>
    obtain ⟨htu, hsep⟩ := List.isChain_cons_cons.1 hsep
    have ht : ∀ spelling, t ≠ .numeral spelling := by
      rintro spelling rfl
      exact hplain spelling List.mem_cons_self
    have hend : t.runsOn = true → IsBoundary (gap ++ text) :=
      fun hruns => h.isBoundary hgap (htu hruns)
    rw [lex_chars ht hend, lex_gap hgap,
      ih (fun spelling hmem => hplain spelling (List.mem_cons_of_mem _ hmem)) hsep]
    rfl

/-! ### The two layouts -/

theorem spells_flatMap_chars (ts : List Token) : Spells ts (ts.flatMap Token.chars) := by
  induction ts with
  | nil => exact .nil
  | cons t ts ih =>
    cases ts with
    | nil => simpa using Spells.single t
    | cons u ts =>
      have hgap : ∀ c ∈ ([] : List Char), isSpace c = true := fun c hc => nomatch hc
      have h : Spells (t :: u :: ts) (t.chars ++ ([] ++ (u :: ts).flatMap Token.chars)) :=
        .cons hgap ih
      exact h

theorem isSpace_of_mem_newLine {level : Nat} (h : c ∈ newLine level) : isSpace c = true := by
  rcases List.mem_cons.1 h with rfl | h
  · rfl
  · rw [(List.mem_replicate.1 h).2]
    rfl

theorem isSpace_of_mem_gap {level : Nat} {t u : Token} (h : c ∈ Json.gap level t u) :
    isSpace c = true := by
  unfold Json.gap at h
  split at h
  · split at h
    · exact nomatch h
    · exact isSpace_of_mem_newLine h
  split at h
  · exact isSpace_of_mem_newLine h
  split at h
  · exact isSpace_of_mem_newLine h
  split at h
  · obtain rfl := List.mem_singleton.1 h
    rfl
  · exact nomatch h

theorem spells_indent (level : Nat) (ts : List Token) : Spells ts (indent level ts) := by
  induction ts generalizing level with
  | nil => exact .nil
  | cons t ts ih =>
    cases ts with
    | nil => exact .single t
    | cons u ts =>
      rw [indent, List.append_assoc]
      exact .cons (fun c hc => isSpace_of_mem_gap hc) (ih _)

/-! ### The tokens of a document -/

theorem commaSeparated_cons (first : List Token) (pieces : List (List Token)) :
    commaSeparated (first :: pieces) = first ++ pieces.flatMap (.comma :: ·) := by
  induction pieces generalizing first with
  | nil => simp [commaSeparated]
  | cons piece pieces ih =>
    rw [commaSeparated, ih, List.flatMap_cons, List.cons_append]
    exact fun h => nomatch h

theorem tokens_arr_cons (item : Json) (items : List Json) :
    (arr (item :: items)).tokens = .openArray ::
      (item.tokens ++ ((itemTokens items).flatMap (.comma :: ·) ++ [.closeArray])) := by
  rw [tokens, itemTokens, commaSeparated_cons, List.cons_append, List.append_assoc]

theorem tokens_obj_cons (key : JsonText) (value : Json) (fields : List (JsonText × Json)) :
    (obj ((key, value) :: fields)).tokens = .openObject :: .str key :: .colon ::
      (value.tokens ++ ((fieldTokens fields).flatMap (.comma :: ·) ++ [.closeObject])) := by
  rw [tokens, fieldTokens, commaSeparated_cons]
  simp only [List.cons_append, List.append_assoc]

theorem flatMap_itemTokens_cons (item : Json) (items : List Json) :
    (itemTokens (item :: items)).flatMap (.comma :: ·) =
      .comma :: (item.tokens ++ (itemTokens items).flatMap (.comma :: ·)) :=
  rfl

theorem flatMap_fieldTokens_cons (key : JsonText) (value : Json)
    (fields : List (JsonText × Json)) :
    (fieldTokens ((key, value) :: fields)).flatMap (.comma :: ·) = .comma :: .str key :: .colon ::
      (value.tokens ++ (fieldTokens fields).flatMap (.comma :: ·)) :=
  rfl

theorem Separated.cons {t : Token} (ht : t.runsOn = false) (h : Separated ts) :
    Separated (t :: ts) :=
  List.isChain_cons.2 ⟨fun _ _ hruns => absurd hruns (by simp [ht]), h⟩

/-- What may stand behind a value: nothing, or a token that ends it. -/
def Closing (ts : List Token) : Prop :=
  Separated ts ∧ ∀ t ∈ ts.head?, t.runsOn = false

theorem Closing.cons {t : Token} (ht : t.runsOn = false) (h : Separated ts) : Closing (t :: ts) :=
  ⟨h.cons ht, fun _ hu => Option.some.inj hu ▸ ht⟩

theorem Closing.separated_cons (h : Closing ts) (t : Token) : Separated (t :: ts) :=
  List.isChain_cons.2 ⟨fun u hu _ => h.2 u hu, h.1⟩

mutual

/-- A value is separated from what stands behind it. -/
theorem separated_tokens_append : ∀ (j : Json) {ts : List Token}, Closing ts →
    Separated (j.tokens ++ ts)
  | .null, _, h => h.separated_cons _
  | .bool _, _, h => h.separated_cons _
  | .nat _, _, h => h.separated_cons _
  | .numeral _, _, h => h.separated_cons _
  | .str _, _, h => h.separated_cons _
  | .arr [], _, h => (h.separated_cons .closeArray).cons rfl
  | .arr (item :: items), ts, h => by
    have hrest := closing_items items (Closing.cons (t := .closeArray) rfl h.1)
    have hitem := separated_tokens_append item hrest
    rw [tokens_arr_cons]
    simpa using hitem.cons (t := .openArray) rfl
  | .obj [], _, h => (h.separated_cons .closeObject).cons rfl
  | .obj ((key, value) :: fields), ts, h => by
    have hrest := closing_fields fields (Closing.cons (t := .closeObject) rfl h.1)
    have hvalue := separated_tokens_append value hrest
    have hcolon := hvalue.cons (t := .colon) rfl
    have hkey := hcolon.cons (t := .str key) rfl
    rw [tokens_obj_cons]
    simpa using hkey.cons (t := .openObject) rfl

theorem closing_items : ∀ (items : List Json) {ts : List Token}, Closing ts →
    Closing ((itemTokens items).flatMap (.comma :: ·) ++ ts)
  | [], _, h => h
  | item :: items, ts, h => by
    have hitem := separated_tokens_append item (closing_items items h)
    rw [flatMap_itemTokens_cons, List.cons_append, List.append_assoc]
    exact .cons rfl hitem

theorem closing_fields : ∀ (fields : List (JsonText × Json)) {ts : List Token}, Closing ts →
    Closing ((fieldTokens fields).flatMap (.comma :: ·) ++ ts)
  | [], _, h => h
  | (key, value) :: fields, ts, h => by
    have hvalue := separated_tokens_append value (closing_fields fields h)
    have hcolon := hvalue.cons (t := .colon) rfl
    rw [flatMap_fieldTokens_cons, List.cons_append, List.cons_append, List.cons_append,
      List.append_assoc]
    exact .cons rfl (hcolon.cons rfl)

end

theorem separated_tokens (j : Json) : Separated j.tokens := by
  have hnil : Closing [] := ⟨.nil, fun _ h => nomatch h⟩
  have h := separated_tokens_append j hnil
  rwa [List.append_nil] at h

/-- The tokens of a document are read back from its compact layout. -/
theorem ofText?_compact {j : Json} (hplain : Plain j.tokens) :
    Token.ofText? j.compact.toList = some j.tokens := by
  rw [compact, String.toList_ofList]
  exact ofText?_of_spells (spells_flatMap_chars _) hplain j.separated_tokens

/-- The tokens of a document are read back from its indented layout. -/
theorem ofText?_indented {j : Json} (hplain : Plain j.tokens) :
    Token.ofText? j.indented.toList = some j.tokens := by
  rw [indented, String.toList_ofList]
  exact ofText?_of_spells (spells_indent 0 _) hplain j.separated_tokens

end ByteMachine.Json
