import ByteMachine.Proofs.Text.Word
import ByteMachine.Text.Lines
import Mathlib.Data.List.TakeWhile

/-!
# Trimming more than once

Trimming takes blanks away at the two ends of a text and nothing else.  So it makes no difference
whether a text is trimmed before it is cut at a mark or only afterwards, as long as no blank is a
mark.

## Main statements

- `Text.exists_padding` — what trimming takes away
- `Text.trim_trim` — trimming again takes nothing away
- `Text.trim_before_trim` — trimming before and after a cut
-/

namespace ByteMachine.Text

variable {text front back : List Char} {p : Char → Bool}

/-! ### Padding -/

theorem exists_padding_right (text : List Char) :
    ∃ back, text = trimRight text ++ back ∧ ∀ c ∈ back, isBlank c = true := by
  refine ⟨(text.reverse.takeWhile isBlank).reverse, ?_, fun c hc => ?_⟩
  · rw [trimRight, ← List.reverse_append, List.takeWhile_append_dropWhile, List.reverse_reverse]
  · exact List.mem_takeWhile_imp (List.mem_reverse.1 hc)

/-- A text is what trimming leaves of it, with blanks around it. -/
theorem exists_padding (text : List Char) :
    ∃ front back, text = front ++ (trim text ++ back) ∧ (∀ c ∈ front, isBlank c = true) ∧
      ∀ c ∈ back, isBlank c = true := by
  obtain ⟨back, hright, hback⟩ := exists_padding_right (text.dropWhile isBlank)
  refine ⟨text.takeWhile isBlank, back, ?_, fun c hc => List.mem_takeWhile_imp hc, hback⟩
  rw [trim, ← hright, List.takeWhile_append_dropWhile]

theorem isBlank_of_getLast?_trim {c : Char} (h : (trim text).getLast? = some c) :
    isBlank c = false :=
  not_isBlank_of_getLast?_trimRight h

theorem isBlank_of_head?_trim {c : Char} (h : (trim text).head? = some c) : isBlank c = false := by
  obtain ⟨back, hright, -⟩ := exists_padding_right (text.dropWhile isBlank)
  have hhead : (text.dropWhile isBlank).head? = some c := by
    rw [hright, List.head?_append]
    exact congrArg (·.or back.head?) h
  have hnot := List.head?_dropWhile_not isBlank text
  rw [hhead] at hnot
  simpa using hnot

theorem trim_trim (text : List Char) : trim (trim text) = trim text :=
  trim_eq (fun _ => isBlank_of_head?_trim) fun _ => isBlank_of_getLast?_trim

theorem mem_of_mem_trim {c : Char} (h : c ∈ trim text) : c ∈ text := by
  obtain ⟨front, back, htext, -⟩ := exists_padding text
  rw [htext]
  exact List.mem_append_right _ (List.mem_append_left _ h)

theorem trimRight_padded (hback : ∀ c ∈ back, isBlank c = true) (text : List Char) :
    trimRight (text ++ back) = trimRight text := by
  have hreverse : ∀ c ∈ back.reverse, isBlank c = true := fun c hc =>
    hback c (List.mem_reverse.1 hc)
  rw [trimRight, List.reverse_append, List.dropWhile_append_of_pos hreverse, trimRight]

/-- Blanks around a text do not count. -/
theorem trim_padded (hfront : ∀ c ∈ front, isBlank c = true) (hback : ∀ c ∈ back, isBlank c = true)
    (text : List Char) : trim (front ++ (text ++ back)) = trim text := by
  rw [trim, List.dropWhile_append_of_pos hfront, List.dropWhile_append, trim]
  split
  next hempty =>
    have hnone : back.dropWhile isBlank = [] := by
      rw [List.dropWhile_eq_nil_iff]
      exact hback
    rw [hnone, List.isEmpty_iff.1 hempty]
  next => exact trimRight_padded hback _

/-! ### Cuts -/

/-- Blanks around a text stand in front of its first mark or behind it. -/
theorem trim_before_padded (hp : ∀ c, isBlank c = true → p c = false)
    (hfront : ∀ c ∈ front, isBlank c = true) (hback : ∀ c ∈ back, isBlank c = true)
    (text : List Char) : trim (before p (front ++ (text ++ back))) = trim (before p text) := by
  have hkeep : ∀ c ∈ front, (!p c) = true := by
    intro c hc
    rw [hp c (hfront c hc)]
    rfl
  have hrest : ∀ c ∈ back.takeWhile (!p ·), isBlank c = true := fun c hc =>
    hback c ((List.takeWhile_prefix _).subset hc)
  rw [before, List.takeWhile_append_of_pos hkeep, List.takeWhile_append]
  split
  next hall =>
    -- the text has no mark
    have hwhole : before p text = text := (List.takeWhile_prefix _).eq_of_length hall
    rw [hwhole, trim_padded hfront hrest]
  next =>
    have hcut := trim_padded hfront (List.forall_mem_nil _) (before p text)
    rwa [List.append_nil] at hcut

theorem trim_before_trim (hp : ∀ c, isBlank c = true → p c = false) (text : List Char) :
    trim (before p (trim text)) = trim (before p text) := by
  obtain ⟨front, back, htext, hfront, hback⟩ := exists_padding text
  calc trim (before p (trim text))
      = trim (before p (front ++ (trim text ++ back))) :=
        (trim_before_padded hp hfront hback _).symm
    _ = trim (before p text) := by rw [← htext]

end ByteMachine.Text
