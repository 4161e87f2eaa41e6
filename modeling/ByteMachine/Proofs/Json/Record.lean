import ByteMachine.Json.Record
import ByteMachine.Checked
import ByteMachine.Proofs.Json.Layout

/-!
# Reading a written structure

An object with the fields of a structure, each of them once, gives these fields back under their
names.  A list gives its items back, and a number below the bound itself.

## Main statements

- `Json.record?_record`, `Json.fullRecord?_record` — the fields of a structure
- `Json.list?_map`, `Json.word?_nat` — lists and numbers
- `Json.plain_record`, `Json.plain_arr` — structures and lists of plain values are plain
-/

namespace ByteMachine.Json

variable {fields : List (String × Json)}

/-! ### Typed values -/

theorem mapM_map_some {α β γ : Type} {encode : α → β} {read : β → Option γ} {value : α → γ}
    (values : List α) (h : ∀ a ∈ values, read (encode a) = some (value a)) :
    (values.map encode).mapM read = some (values.map value) := by
  rw [List.mapM_map]
  exact Checked.mapM_eq_some h

theorem list?_map {α : Type} {encode : α → Json} {item : Json → Option α} (values : List α)
    (h : ∀ a, item (encode a) = some a) : list? item (.arr (values.map encode)) = some values := by
  have hitems : (values.map encode).mapM item = some (values.map id) :=
    mapM_map_some values fun a _ => h a
  rw [list?, hitems, List.map_id]

theorem word?_nat {bound n : Nat} (h : n < bound) : word? bound (.nat n) = some n :=
  if_pos h

/-! ### Structures -/

/-- Under a name stands the only field of this name. -/
theorem filter_name_eq_singleton (hnodup : (fields.map Prod.fst).Nodup) {field : String × Json}
    (h : field ∈ fields) : fields.filter (fun other => other.1 = field.1) = [field] := by
  induction fields with
  | nil => exact nomatch h
  | cons first fields ih =>
    obtain ⟨hfirst, hnodup⟩ := List.nodup_cons.1 hnodup
    rcases List.mem_cons.1 h with rfl | hmem
    · have hrest : fields.filter (fun other => other.1 = field.1) = [] := by
        rw [List.filter_eq_nil_iff]
        intro other hother hsame
        exact hfirst (of_decide_eq_true hsame ▸ List.mem_map_of_mem hother)
      rw [List.filter_cons_of_pos (by simp), hrest]
    · have hne : first.1 ≠ field.1 := by
        intro hsame
        exact hfirst (hsame ▸ List.mem_map_of_mem hmem)
      rw [List.filter_cons_of_neg (by simp [hne]), ih hnodup hmem]

theorem field?_of_mem (hnodup : (fields.map Prod.fst).Nodup) {field : String × Json}
    (h : field ∈ fields) :
    field? (fields.map fun (key, value) => (some key.toList, value)) field.1 =
      some (some field.2) := by
  rw [field?, List.filter_map, List.filter_congr (q := fun other => other.1 = field.1),
    filter_name_eq_singleton hnodup h]
  · rfl
  · intro other _
    simp [String.toList_inj]

theorem record?_record (hnodup : (fields.map Prod.fst).Nodup) :
    record? (fields.map Prod.fst) (record fields) =
      some (fields.map fun field => some field.2) := by
  have hkeys : (fields.map fun (key, value) => ((some key.toList : JsonText), value)).all
      (·.1.isSome) = true := by
    rw [List.all_eq_true]
    intro field hfield
    obtain ⟨_, _, rfl⟩ := List.mem_map.1 hfield
    rfl
  rw [record, record?, if_pos hkeys]
  exact mapM_map_some fields fun field hfield => field?_of_mem hnodup hfield

theorem fullRecord?_record (hnodup : (fields.map Prod.fst).Nodup) :
    fullRecord? (fields.map Prod.fst) (record fields) = some (fields.map Prod.snd) := by
  rw [fullRecord?, record?_record hnodup]
  exact mapM_map_some fields fun _ _ => rfl

/-! ### Plain documents -/

theorem mem_commaSeparated {pieces : List (List Token)} {t : Token}
    (h : t ∈ commaSeparated pieces) : t = .comma ∨ ∃ piece ∈ pieces, t ∈ piece := by
  fun_induction commaSeparated pieces with
  | case1 => exact nomatch h
  | case2 piece => exact .inr ⟨piece, List.mem_cons_self, h⟩
  | case3 piece pieces hne ih =>
    rcases List.mem_append.1 h with hfirst | hrest
    · exact .inr ⟨piece, List.mem_cons_self, hfirst⟩
    rcases List.mem_cons.1 hrest with hcomma | hlater
    · exact .inl hcomma
    obtain hcomma | ⟨later, hlater, ht⟩ := ih hlater
    · exact .inl hcomma
    · exact .inr ⟨later, List.mem_cons_of_mem _ hlater, ht⟩

theorem plain_commaSeparated {pieces : List (List Token)} (h : ∀ piece ∈ pieces, Plain piece) :
    Plain (commaSeparated pieces) := by
  intro spelling hmem
  obtain hcomma | ⟨piece, hpiece, hmem⟩ := mem_commaSeparated hmem
  · exact nomatch hcomma
  · exact h piece hpiece spelling hmem

@[simp]
theorem plain_null : Plain null.tokens := by
  simp [Plain, tokens]

@[simp]
theorem plain_nat (n : Nat) : Plain (nat n).tokens := by
  simp [Plain, tokens]

@[simp]
theorem plain_text (s : String) : Plain (text s).tokens := by
  simp [Plain, text, tokens]

@[simp]
theorem plain_arr {items : List Json} (h : ∀ item ∈ items, Plain item.tokens) :
    Plain (arr items).tokens := by
  have hitems : itemTokens items = items.map tokens := by
    induction items with
    | nil => rfl
    | cons item items ih =>
      rw [itemTokens, ih fun later hlater => h later (List.mem_cons_of_mem _ hlater), List.map_cons]
  have hpieces : Plain (commaSeparated (itemTokens items)) := by
    apply plain_commaSeparated
    rw [hitems, List.forall_mem_map]
    exact h
  intro spelling hmem
  exact hpieces spelling (by simpa [tokens] using hmem)

@[simp]
theorem plain_record (h : ∀ field ∈ fields, Plain field.2.tokens) :
    Plain (record fields).tokens := by
  have hpieces : Plain (commaSeparated (fieldTokens (fields.map fun (key, value) =>
      (some key.toList, value)))) := by
    apply plain_commaSeparated
    induction fields with
    | nil => exact fun _ hmem => nomatch hmem
    | cons field fields ih =>
      intro piece hpiece
      rcases List.mem_cons.1 hpiece with rfl | hpiece
      · intro spelling hmem
        exact h field List.mem_cons_self spelling (by simpa using hmem)
      · exact ih (fun later hlater => h later (List.mem_cons_of_mem _ hlater)) piece hpiece
  intro spelling hmem
  exact hpieces spelling (by simpa [record, tokens] using hmem)

end ByteMachine.Json
