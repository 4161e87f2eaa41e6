import ByteMachine.Text.Lines

/-!
# Cutting a text where it was joined

## Main statements

- `Text.before_append_cons`, `Text.after?_append_cons` — a text is cut at its first mark
- `Text.exists_splitOn_append` — only the last piece of a text grows with it
- `Text.splitOn_intercalate` — pieces joined by a separator are found again
- `Text.lines_flatMap`, `Text.lines_intercalate` — so are lines
- `Text.not_mem_of_mem_lines` — what no line has
-/

namespace ByteMachine.Text

variable {p : Char → Bool} {sep d : Char} {xs ys : List Char}

/-! ### Cuts -/

theorem before_append_cons (hxs : ∀ c ∈ xs, p c = false) (hd : p d = true) :
    before p (xs ++ d :: ys) = xs := by
  have hall : ∀ c ∈ xs, (!p c) = true := by
    intro c hc
    rw [hxs c hc]
    rfl
  rw [before, List.takeWhile_append_of_pos hall]
  simp [hd]

theorem after?_append_cons (hxs : ∀ c ∈ xs, p c = false) (hd : p d = true) :
    after? p (xs ++ d :: ys) = some ys := by
  have hall : ∀ c ∈ xs, (!p c) = true := by
    intro c hc
    rw [hxs c hc]
    rfl
  rw [after?, List.dropWhile_append_of_pos hall]
  simp [hd]

/-! ### Pieces -/

theorem splitOn_of_not_mem (h : sep ∉ xs) : splitOn sep xs = [xs] := by
  induction xs with
  | nil => rfl
  | cons c rest ih =>
    have hc : c ≠ sep := Ne.symm (List.ne_of_not_mem_cons h)
    rw [splitOn, if_neg hc, ih (List.not_mem_of_not_mem_cons h)]

theorem splitOn_append_cons (h : sep ∉ xs) :
    splitOn sep (xs ++ sep :: ys) = xs :: splitOn sep ys := by
  induction xs with
  | nil => simp [splitOn]
  | cons c rest ih =>
    have hc : c ≠ sep := Ne.symm (List.ne_of_not_mem_cons h)
    rw [List.cons_append, splitOn, if_neg hc, ih (List.not_mem_of_not_mem_cons h)]

/-- What is put behind a text belongs to its last piece. -/
theorem exists_splitOn_append (sep : Char) (xs : List Char) :
    ∃ front last, ∀ ys, sep ∉ ys → splitOn sep (xs ++ ys) = front ++ [last ++ ys] := by
  induction xs with
  | nil => exact ⟨[], [], fun ys hys => splitOn_of_not_mem hys⟩
  | cons c rest ih =>
    obtain ⟨front, last, hrest⟩ := ih
    by_cases hc : c = sep
    · refine ⟨[] :: front, last, fun ys hys => ?_⟩
      rw [List.cons_append, splitOn, if_pos hc, hrest ys hys, List.cons_append]
    · cases front with
      | nil =>
        refine ⟨[], c :: last, fun ys hys => ?_⟩
        rw [List.cons_append, splitOn, if_neg hc, hrest ys hys]
        rfl
      | cons piece front =>
        refine ⟨(c :: piece) :: front, last, fun ys hys => ?_⟩
        rw [List.cons_append, splitOn, if_neg hc, hrest ys hys]
        rfl

/-- Pieces without the separator are found again. -/
theorem splitOn_intercalate {pieces : List (List Char)} (hne : pieces ≠ [])
    (h : ∀ piece ∈ pieces, sep ∉ piece) :
    splitOn sep ([sep].intercalate pieces) = pieces := by
  induction pieces with
  | nil => exact absurd rfl hne
  | cons piece rest ih =>
    have hpiece : sep ∉ piece := h piece List.mem_cons_self
    cases rest with
    | nil => simpa using splitOn_of_not_mem hpiece
    | cons next more =>
      have hrest := ih (List.cons_ne_nil _ _) fun l hl => h l (List.mem_cons_of_mem _ hl)
      rw [List.intercalate_cons_cons, List.append_assoc, List.singleton_append,
        splitOn_append_cons hpiece, hrest]

theorem not_mem_of_mem_splitOn {piece : List Char} (h : piece ∈ splitOn sep xs) : sep ∉ piece := by
  induction xs generalizing piece with
  | nil =>
    obtain rfl := List.mem_singleton.1 h
    exact List.not_mem_nil
  | cons c rest ih =>
    rw [splitOn] at h
    by_cases hc : c = sep
    · rw [if_pos hc] at h
      rcases List.mem_cons.1 h with rfl | h
      · exact List.not_mem_nil
      · exact ih h
    rw [if_neg hc] at h
    cases hpieces : splitOn sep rest with
    | nil =>
      rw [hpieces] at h
      obtain rfl := List.mem_singleton.1 h
      simpa using Ne.symm hc
    | cons first pieces =>
      rw [hpieces] at h ih
      rcases List.mem_cons.1 h with rfl | h
      · exact List.not_mem_cons_of_ne_of_not_mem (Ne.symm hc) (ih List.mem_cons_self)
      · exact ih (List.mem_cons_of_mem _ h)

/-- Every character of a joined text belongs to a piece, or joins two of them. -/
theorem mem_intercalate {c : Char} {pieces : List (List Char)}
    (h : c ∈ [sep].intercalate pieces) : c = sep ∨ ∃ piece ∈ pieces, c ∈ piece := by
  induction pieces with
  | nil => simp at h
  | cons piece rest ih =>
    cases rest with
    | nil => exact .inr ⟨piece, List.mem_cons_self, by simpa using h⟩
    | cons next more =>
      rw [List.intercalate_cons_cons, List.append_assoc, List.singleton_append, List.mem_append,
        List.mem_cons] at h
      rcases h with h | h | h
      · exact .inr ⟨piece, List.mem_cons_self, h⟩
      · exact .inl h
      · obtain hsep | ⟨p, hp, hc⟩ := ih h
        · exact .inl hsep
        · exact .inr ⟨p, List.mem_cons_of_mem _ hp, hc⟩

/-! ### Lines -/

theorem closeLines_append (ls : List (List Char)) :
    closeLines (ls ++ [[]]) = ls.map dropReturn := by
  induction ls with
  | nil => rfl
  | cons line rest ih =>
    cases hrest : rest ++ [[]] with
    | nil => simp at hrest
    | cons next more =>
      rw [List.cons_append, hrest, closeLines, ← hrest, ih, List.map_cons]
      exact fun h => nomatch h

/-- Lines that are not empty, and from which no carriage return is to be taken, stay. -/
theorem closeLines_eq {ls : List (List Char)}
    (h : ∀ line ∈ ls, line ≠ [] ∧ line.getLast? ≠ some '\r') : closeLines ls = ls := by
  induction ls with
  | nil => rfl
  | cons line rest ih =>
    obtain ⟨hne, hlast⟩ := h line List.mem_cons_self
    have hrest := ih fun l hl => h l (List.mem_cons_of_mem _ hl)
    cases rest with
    | nil => rw [closeLines, if_neg (by simpa using hne)]
    | cons next more =>
      rw [closeLines, hrest, dropReturn, if_neg hlast]
      exact fun h => nomatch h

theorem mem_closeLines {line : List Char} {ls : List (List Char)} (h : line ∈ closeLines ls) :
    ∃ l ∈ ls, line ⊆ l := by
  induction ls with
  | nil => exact nomatch h
  | cons first rest ih =>
    cases rest with
    | nil =>
      rw [closeLines] at h
      split at h
      · exact nomatch h
      · exact ⟨line, h, List.Subset.refl _⟩
    | cons next more =>
      rw [closeLines] at h
      rcases List.mem_cons.1 h with rfl | h
      · refine ⟨first, List.mem_cons_self, ?_⟩
        unfold dropReturn
        split
        · exact List.dropLast_subset first
        · exact List.Subset.refl _
      · obtain ⟨l, hl, hsubset⟩ := ih h
        exact ⟨l, List.mem_cons_of_mem _ hl, hsubset⟩
      · exact fun h => nomatch h

/-- No line has a line feed. -/
theorem not_mem_of_mem_lines {line : List Char} (h : line ∈ lines xs) : '\n' ∉ line := by
  obtain ⟨piece, hpiece, hsubset⟩ := mem_closeLines h
  exact fun hmem => not_mem_of_mem_splitOn hpiece (hsubset hmem)

/-- Lines joined by line feeds are found again. -/
theorem lines_intercalate {ls : List (List Char)} (hfeed : ∀ line ∈ ls, '\n' ∉ line)
    (h : ∀ line ∈ ls, line ≠ [] ∧ line.getLast? ≠ some '\r') :
    lines (['\n'].intercalate ls) = ls := by
  by_cases hne : ls = []
  · subst hne
    rfl
  · rw [lines, splitOn_intercalate hne hfeed, closeLines_eq h]

theorem splitOn_flatMap {ls : List (List Char)} (h : ∀ line ∈ ls, '\n' ∉ line) :
    splitOn '\n' (ls.flatMap (· ++ ['\n'])) = ls ++ [[]] := by
  induction ls with
  | nil => rfl
  | cons line rest ih =>
    have hline : '\n' ∉ line := h line List.mem_cons_self
    rw [List.flatMap_cons, List.append_assoc, List.singleton_append, splitOn_append_cons hline,
      ih fun l hl => h l (List.mem_cons_of_mem _ hl), List.cons_append]

theorem dropReturn_of_not_mem (h : '\r' ∉ xs) : dropReturn xs = xs := by
  rw [dropReturn, if_neg]
  intro hlast
  exact h (List.mem_of_getLast? hlast)

/-- Lines that hold no part of an ending are found again. -/
theorem lines_flatMap {ls : List (List Char)}
    (h : ∀ line ∈ ls, '\n' ∉ line ∧ '\r' ∉ line) : lines (ls.flatMap (· ++ ['\n'])) = ls := by
  rw [lines, splitOn_flatMap fun line hline => (h line hline).1, closeLines_append]
  have hmap : ls.map dropReturn = ls.map id :=
    List.map_congr_left fun line hline => dropReturn_of_not_mem (h line hline).2
  rw [hmap, List.map_id]

end ByteMachine.Text
