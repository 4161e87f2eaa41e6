import ByteMachine.Proofs.Text.Digits
import ByteMachine.Proofs.Text.Upper
import ByteMachine.Proofs.Text.Word
import ByteMachine.Text.Lines

/-!
# The case of ASCII letters

Texts are cut and trimmed at characters that are no letters, so it makes no difference whether the
letters become capitals before or after.  The full upper case of a text and the number that it
spells do not depend on the case of its ASCII letters at all.

## Main definitions

- `Text.capitals` — a text with capitals for its small ASCII letters
- `Text.IgnoresCase` — a property of characters that no letter has in one case only

## Main statements

- `Text.trim_capitals`, `Text.before_capitals`, `Text.after?_capitals`,
  `Text.splitAtBlank_capitals`, `Text.splitOn_capitals` — the parts of a text in capitals
- `Text.upper_capitals`, `Text.signed?_capitals` — what is the same in capitals
-/

namespace ByteMachine.Text

/-- The text with capitals for its small ASCII letters. -/
def capitals (text : List Char) : List Char :=
  text.map Char.toUpper

/-- A letter has the property if and only if its capital has it. -/
def IgnoresCase (p : Char → Bool) : Prop :=
  ∀ c : Char, p c.toUpper = p c

variable {p : Char → Bool} {c d sep : Char} {base : Nat}

@[simp]
theorem capitals_cons (c : Char) (text : List Char) :
    capitals (c :: text) = c.toUpper :: capitals text := rfl

@[simp]
theorem isEmpty_capitals (text : List Char) : (capitals text).isEmpty = text.isEmpty := by
  cases text <;> rfl

@[simp]
theorem capitals_capitals (text : List Char) : capitals (capitals text) = capitals text := by
  rw [capitals, capitals, List.map_map]
  exact List.map_congr_left fun c _ => Char.toUpper_toUpper_eq_toUpper c

/-! ### Properties of characters -/

theorem ignoresCase_eq (hd : d.isAlpha = false) : IgnoresCase (· = d) :=
  fun _ => decide_eq_decide.2 (toUpper_eq_iff hd)

theorem ignoresCase_isBlank : IgnoresCase isBlank := by
  intro c
  by_cases hc : c.isAlpha = true
  · have halphanum : ∀ e : Char, e.isAlpha = true → e.isAlphanum = true := by
      intro e he
      rw [Char.isAlphanum, he, Bool.true_or]
    have hupper : c.toUpper.isAlpha = true := (Char.isAlpha_toUpper_eq_isAlpha c).trans hc
    rw [isBlank_of_isAlphanum (halphanum c hc), isBlank_of_isAlphanum (halphanum _ hupper)]
  · rw [(toUpper_eq_iff (Bool.eq_false_iff.2 hc)).2 rfl]

theorem ignoresCase_isDigit : IgnoresCase Char.isDigit := by
  intro c
  by_cases hc : c.toNat < 0x80
  · exact forall_ascii (P := fun c => c.toUpper.isDigit = c.isDigit) (by decide) c hc
  · rw [toUpper_of_le (Nat.le_of_not_lt hc)]

namespace IgnoresCase

theorem not (h : IgnoresCase p) : IgnoresCase (!p ·) :=
  fun c => congrArg (!·) (h c)

theorem comp_toUpper (h : IgnoresCase p) : p ∘ Char.toUpper = p :=
  funext h

theorem takeWhile_capitals (h : IgnoresCase p) (text : List Char) :
    (capitals text).takeWhile p = capitals (text.takeWhile p) := by
  rw [capitals, List.takeWhile_map, h.comp_toUpper, capitals]

theorem dropWhile_capitals (h : IgnoresCase p) (text : List Char) :
    (capitals text).dropWhile p = capitals (text.dropWhile p) := by
  rw [capitals, List.dropWhile_map, h.comp_toUpper, capitals]

end IgnoresCase

/-! ### Parts of a text -/

theorem trim_capitals (text : List Char) : trim (capitals text) = capitals (trim text) := by
  have hright : ∀ text : List Char, trimRight (capitals text) = capitals (trimRight text) := by
    intro text
    rw [trimRight, capitals, ← List.map_reverse]
    show (List.dropWhile isBlank (capitals text.reverse)).reverse = _
    rw [ignoresCase_isBlank.dropWhile_capitals, capitals, ← List.map_reverse]
    rfl
  rw [trim, ignoresCase_isBlank.dropWhile_capitals, hright, trim]

theorem hasBlank_capitals (text : List Char) : hasBlank (capitals text) = hasBlank text := by
  rw [hasBlank, capitals, List.any_map, ignoresCase_isBlank.comp_toUpper, hasBlank]

theorem splitAtBlank_capitals (text : List Char) :
    splitAtBlank (capitals text) =
      (capitals (splitAtBlank text).1, capitals (splitAtBlank text).2) := by
  have hword := ignoresCase_isBlank.not
  rw [splitAtBlank, hword.takeWhile_capitals, hword.dropWhile_capitals, capitals, capitals,
    ← List.map_drop]
  rfl

theorem before_capitals (h : IgnoresCase p) (text : List Char) :
    before p (capitals text) = capitals (before p text) :=
  h.not.takeWhile_capitals text

theorem after?_capitals (h : IgnoresCase p) (text : List Char) :
    after? p (capitals text) = (after? p text).map capitals := by
  rw [after?, h.not.dropWhile_capitals, after?]
  cases text.dropWhile (!p ·) <;> rfl

theorem splitOn_capitals (hsep : sep.isAlpha = false) (text : List Char) :
    splitOn sep (capitals text) = (splitOn sep text).map capitals := by
  induction text with
  | nil => rfl
  | cons c rest ih =>
    rw [capitals_cons, splitOn, splitOn, ih]
    by_cases hc : c = sep
    · rw [if_pos hc, if_pos ((toUpper_eq_iff hsep).2 hc)]
      rfl
    · rw [if_neg hc, if_neg (mt (toUpper_eq_iff hsep).1 hc)]
      cases splitOn sep rest <;> rfl

/-! ### Upper case -/

theorem upperChar_toUpper (c : Char) : upperChar c.toUpper = upperChar c := by
  by_cases hc : c.toNat < 0x80
  · have hascii : ∀ c : Char, c.toNat < 0x80 → c.toUpper.toNat < 0x80 :=
      forall_ascii (by decide)
    rw [upperChar_of_lt hc, upperChar_of_lt (hascii c hc), Char.toUpper_toUpper_eq_toUpper]
  · rw [toUpper_of_le (Nat.le_of_not_lt hc)]

theorem upper_capitals (text : List Char) : upper (capitals text) = upper text := by
  rw [upper, capitals, List.flatMap_map]
  exact congrArg (List.flatMap · text) (funext upperChar_toUpper)

/-! ### Numbers -/

theorem digit?_toUpper (hbase : base ≤ 16) (c : Char) : digit? base c.toUpper = digit? base c := by
  ext d
  rw [digit?_eq_some_iff hbase, digit?_eq_some_iff hbase, IsDigitOf, IsDigitOf,
    Char.toLower_toUpper_eq_toLower]

theorem digitsFrom?_capitals (hbase : base ≤ 16) (acc : Nat) (text : List Char) :
    digitsFrom? base acc (capitals text) = digitsFrom? base acc text := by
  induction text generalizing acc with
  | nil => rfl
  | cons c rest ih => simp only [capitals_cons, digitsFrom?, digit?_toUpper hbase, ih]

theorem natural?_capitals (hbase : base ≤ 16) (text : List Char) :
    natural? base (capitals text) = natural? base text := by
  rw [natural?, isEmpty_capitals, digitsFrom?_capitals hbase, natural?]

theorem unsigned?_of_ne {text : List Char} (hc : c ≠ '+') :
    unsigned? base (c :: text) = natural? base (c :: text) := by
  unfold unsigned?
  split
  · rename_i h
    exact absurd (List.cons.inj h).1 hc
  · rfl

theorem signed?_of_ne {text : List Char} (hc : c ≠ '-') :
    signed? base (c :: text) = (unsigned? base (c :: text)).map fun n => (n : Int) := by
  unfold signed?
  split
  · rename_i h
    exact absurd (List.cons.inj h).1 hc
  · rfl

theorem unsigned?_capitals (hbase : base ≤ 16) (text : List Char) :
    unsigned? base (capitals text) = unsigned? base text := by
  cases text with
  | nil => rfl
  | cons c rest =>
    by_cases hc : c = '+'
    · subst hc
      exact natural?_capitals hbase rest
    · have hupper : c.toUpper ≠ '+' := mt (toUpper_eq_iff rfl).1 hc
      rw [unsigned?_of_ne hc, capitals_cons, unsigned?_of_ne hupper, ← capitals_cons,
        natural?_capitals hbase]

theorem signed?_capitals (hbase : base ≤ 16) (text : List Char) :
    signed? base (capitals text) = signed? base text := by
  cases text with
  | nil => rfl
  | cons c rest =>
    by_cases hc : c = '-'
    · subst hc
      show signed? base ('-' :: capitals rest) = signed? base ('-' :: rest)
      rw [signed?, signed?, natural?_capitals hbase]
    · have hupper : c.toUpper ≠ '-' := mt (toUpper_eq_iff rfl).1 hc
      rw [signed?_of_ne hc, capitals_cons, signed?_of_ne hupper, ← capitals_cons,
        unsigned?_capitals hbase]

end ByteMachine.Text
