import ByteMachine.Text.Blank
import ByteMachine.Text.Upper

/-!
# Words

A word is a text without blanks.  Blanks around a text do not count, and the first blank behind a
word ends it.

## Main statements

- `Text.trim_append`, `Text.trim_eq` — trimming takes away padding and nothing else
- `Text.splitAtBlank_append_cons` — a word before a blank
- `Text.IsWord` — words of letters and digits
- `Text.upper_digits` — digits are their own capitals
-/

namespace ByteMachine.Text

variable {text pad word : List Char} {c : Char}

/-! ### Blanks around a text -/

theorem trim_cons_of_isBlank (h : isBlank c = true) : trim (c :: text) = trim text := by
  rw [trim, List.dropWhile_cons_of_pos h, trim]

theorem trimRight_append (hlast : ∀ c, text.getLast? = some c → isBlank c = false)
    (hpad : ∀ c ∈ pad, isBlank c = true) : trimRight (text ++ pad) = text := by
  have hrev : ∀ c ∈ pad.reverse, isBlank c = true := fun c hc => hpad c (List.mem_reverse.1 hc)
  rw [trimRight, List.reverse_append, List.dropWhile_append_of_pos hrev]
  cases hr : text.reverse with
  | nil => simpa using hr.symm
  | cons c rest =>
    have hc : isBlank c = false := by
      apply hlast
      rw [List.getLast?_eq_head?_reverse, hr, List.head?_cons]
    rw [List.dropWhile_cons_of_neg (by simp [hc]), ← hr, List.reverse_reverse]

/-- A text that neither begins nor ends with a blank keeps all its characters, and padding behind it
is lost. -/
theorem trim_append (hhead : ∀ c, text.head? = some c → isBlank c = false)
    (hlast : ∀ c, text.getLast? = some c → isBlank c = false)
    (hpad : ∀ c ∈ pad, isBlank c = true) : trim (text ++ pad) = text := by
  cases text with
  | nil =>
    have hnil : (pad ++ []).dropWhile isBlank = [] := List.dropWhile_append_of_pos hpad
    rw [List.append_nil] at hnil
    simp [trim, hnil, trimRight]
  | cons c rest =>
    have hc : isBlank c = false := hhead c rfl
    rw [trim, List.cons_append, List.dropWhile_cons_of_neg (by simp [hc]), ← List.cons_append]
    exact trimRight_append hlast hpad

theorem trim_eq (hhead : ∀ c, text.head? = some c → isBlank c = false)
    (hlast : ∀ c, text.getLast? = some c → isBlank c = false) : trim text = text := by
  simpa using trim_append hhead hlast fun c (hc : c ∈ []) => nomatch hc

theorem trim_word (h : ∀ c ∈ word, isBlank c = false) : trim word = word :=
  trim_eq (fun c hc => h c (List.mem_of_head? hc)) fun c hc => h c (List.mem_of_getLast? hc)

theorem hasBlank_word (h : ∀ c ∈ word, isBlank c = false) : hasBlank word = false := by
  simpa [hasBlank] using h

/-- The end of a text that is not empty is the end of every longer text. -/
theorem isBlank_of_getLast?_append (hne : text ≠ [])
    (hlast : ∀ c, text.getLast? = some c → isBlank c = false)
    (h : (word ++ text).getLast? = some c) : isBlank c = false := by
  apply hlast
  rwa [List.getLast?_append, List.getLast?_eq_some_getLast hne, Option.some_or,
    ← List.getLast?_eq_some_getLast hne] at h

/-! ### The end of a word -/

theorem splitAtBlank_word (h : ∀ c ∈ word, isBlank c = false) :
    splitAtBlank word = (word, []) := by
  have hall : ∀ c ∈ word, (!isBlank c) = true := by
    intro c hc
    rw [h c hc]
    rfl
  have htake : (word ++ []).takeWhile (!isBlank ·) = word ++ [] :=
    List.takeWhile_append_of_pos hall
  have hdrop : (word ++ []).dropWhile (!isBlank ·) = [] := List.dropWhile_append_of_pos hall
  rw [List.append_nil] at htake hdrop
  rw [splitAtBlank, htake, hdrop]
  simp

theorem splitAtBlank_append_cons (h : ∀ c ∈ word, isBlank c = false) (hc : isBlank c = true) :
    splitAtBlank (word ++ c :: text) = (word, text) := by
  have hall : ∀ c ∈ word, (!isBlank c) = true := by
    intro c hc
    rw [h c hc]
    rfl
  rw [splitAtBlank, List.takeWhile_append_of_pos hall, List.dropWhile_append_of_pos hall]
  simp [hc]

/-! ### Letters and digits -/

theorem isAlphanum_of_isDigit (h : c.isDigit = true) : c.isAlphanum = true := by
  rw [Char.isAlphanum, h, Bool.or_true]

theorem ne_of_isAlphanum {d : Char} (hc : c.isAlphanum = true) (hd : d.isAlphanum = false) :
    c ≠ d := by
  rintro rfl
  rw [hc] at hd
  exact nomatch hd

theorem isBlank_of_isAlphanum (h : c.isAlphanum = true) : isBlank c = false := by
  have between : ∀ lo hi : UInt32, (decide (c.val ≥ lo) && decide (c.val ≤ hi)) = true →
      lo.toNat ≤ c.toNat ∧ c.toNat ≤ hi.toNat := by
    intro lo hi h
    rwa [Bool.and_eq_true, decide_eq_true_eq, decide_eq_true_eq] at h
  have hrange : 48 ≤ c.toNat ∧ c.toNat ≤ 57 ∨ 65 ≤ c.toNat ∧ c.toNat ≤ 90 ∨
      97 ≤ c.toNat ∧ c.toNat ≤ 122 := by
    rcases Bool.or_eq_true_iff.1 h with h | h
    · rcases Bool.or_eq_true_iff.1 h with h | h
      · have hupper : c.val ≥ 65 ∧ c.val ≤ 90 := of_decide_eq_true h
        exact .inr (.inl hupper)
      · exact .inr (.inr (between 97 122 h))
    · exact .inl (between 48 57 h)
  simp only [isBlank, Bool.or_eq_false_iff, Bool.and_eq_false_iff, decide_eq_false_iff_not,
    beq_eq_false_iff_ne]
  omega

/-- A word of letters and digits, with at least one of them. -/
def IsWord (word : List Char) : Prop :=
  word ≠ [] ∧ ∀ c ∈ word, c.isAlphanum = true

theorem IsWord.no_blank (h : IsWord word) : ∀ c ∈ word, isBlank c = false :=
  fun c hc => isBlank_of_isAlphanum (h.2 c hc)

theorem IsWord.not_mem (h : IsWord word) (hc : c.isAlphanum = false) : c ∉ word :=
  fun hmem => ne_of_isAlphanum (h.2 c hmem) hc rfl

/-- A text that begins with a word begins with no blank. -/
theorem IsWord.isBlank_of_head?_append (h : IsWord word) (hc : (word ++ text).head? = some c) :
    isBlank c = false := by
  obtain ⟨d, rest, rfl⟩ := List.exists_cons_of_ne_nil h.1
  obtain rfl : d = c := Option.some.inj hc
  exact h.no_blank d List.mem_cons_self

theorem isWord_of_isDigit (hne : word ≠ []) (h : ∀ c ∈ word, c.isDigit = true) : IsWord word :=
  ⟨hne, fun c hc => isAlphanum_of_isDigit (h c hc)⟩

theorem upperChar_of_isDigit (h : c.isDigit = true) : upperChar c = [c] := by
  rw [Char.isDigit, Bool.and_eq_true, decide_eq_true_eq, decide_eq_true_eq] at h
  have hhigh : c.toNat ≤ 57 := h.2
  have hupper : c.toUpper = c := by
    refine dif_neg ?_
    rintro ⟨hlow, -⟩
    have : 97 ≤ c.toNat := hlow
    omega
  have hascii : c.toNat < 0x80 := by omega
  rw [upperChar, if_pos hascii, hupper]

theorem upper_digits (h : ∀ c ∈ text, c.isDigit = true) : upper text = text := by
  induction text with
  | nil => rfl
  | cons c rest ih =>
    have hc := upperChar_of_isDigit (h c List.mem_cons_self)
    have hrest := ih fun c hc => h c (List.mem_cons_of_mem _ hc)
    rw [upper, List.flatMap_cons, hc, ← upper, hrest, List.singleton_append]

end ByteMachine.Text
