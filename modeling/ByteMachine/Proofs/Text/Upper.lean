import ByteMachine.Text.Upper
import Mathlib

/-!
# Where capitals come from

The upper case of an ASCII character is an ASCII character.  A few characters beyond ASCII have
letters of ASCII in their upper case as well: the dotless i and the long s, and some that expand to
several letters.  So the upper case of a text tells the text up to the case of ASCII, except for
these letters.

## Main definitions

- `Text.borrowed` — the ASCII letters in the upper case of characters beyond ASCII

## Main statements

- `Text.upperChar_beyond` — what the upper case of a character beyond ASCII can be
- `Text.mem_upperChar`, `Text.upperChar_eq_S_iff` — the characters with a given capital
- `Text.upper_eq_cons_iff`, `Text.upper_eq_iff` — the texts with a given upper case
-/

namespace ByteMachine.Text

/-- The ASCII letters that occur in the upper case of characters beyond ASCII. -/
def borrowed : List Char :=
  ['A', 'F', 'H', 'I', 'J', 'L', 'N', 'S', 'T', 'W', 'Y']

variable {c d : Char} {text rest : List Char}

/-! ### The tables -/

/-- Two letters have an ASCII capital.  All other capitals are characters beyond ASCII. -/
theorem capital_of_mem_upperRuns : ∀ run ∈ upperRuns,
    (0x80 ≤ run.capital ∧ (run.capital + (run.last - run.first) < 0xD800 ∨
      0xE000 ≤ run.capital ∧ run.capital + (run.last - run.first) < 0x110000)) ∨
    run.first = run.last ∧ (run.capital = 0x49 ∨ run.first = 0x17F ∧ run.capital = 0x53) := by
  decide +kernel

theorem letters_of_mem_upperExpansions : ∀ e ∈ upperExpansions,
    1 < e.2.length ∧ ∀ n ∈ e.2, (Char.ofNat n).toNat < 0x80 → Char.ofNat n ∈ borrowed := by
  decide +kernel

theorem capital?_eq_some_iff {run : UpperRun} {n m : Nat} :
    run.capital? n = some m ↔
      (run.first ≤ n ∧ n ≤ run.last ∧ (n - run.first) % run.stride = 0) ∧
        m = run.capital + (n - run.first) := by
  unfold UpperRun.capital?
  split <;> simp_all [eq_comm]

/-- A single capital of a character beyond ASCII. -/
theorem toNat_capital {n m : Nat} (h : upperRuns.findSome? (·.capital? n) = some m) :
    0x80 ≤ (Char.ofNat m).toNat ∨ m = 0x49 ∨ n = 0x17F ∧ m = 0x53 := by
  obtain ⟨run, hrun, hcapital⟩ := List.exists_of_findSome?_eq_some h
  obtain ⟨⟨hfirst, hlast, -⟩, rfl⟩ := capital?_eq_some_iff.1 hcapital
  rcases capital_of_mem_upperRuns run hrun with ⟨hbeyond, hvalid⟩ | ⟨hsingle, hcapital⟩
  · left
    rw [Char.toNat_ofNat, if_pos]
    · omega
    · show _ < 0xD800 ∨ 0xDFFF < _ ∧ _ < 0x110000
      omega
  · omega

/-- The upper case of a character beyond ASCII is one such character, except for the dotless i and
the long s, or it has several characters. -/
theorem upperChar_beyond (hc : 0x80 ≤ c.toNat) :
    (∃ d, upperChar c = [d] ∧ (0x80 ≤ d.toNat ∨ d = 'I' ∨ c = 'ſ' ∧ d = 'S')) ∨
      1 < (upperChar c).length ∧ ∀ d ∈ upperChar c, d.toNat < 0x80 → d ∈ borrowed := by
  rw [upperChar, if_neg (Nat.not_lt.2 hc)]
  cases hexpansion : upperExpansions.lookup c.toNat with
  | some capitals =>
    obtain ⟨before, after, htable, -⟩ := List.lookup_eq_some_iff.1 hexpansion
    obtain ⟨hlength, hletters⟩ := letters_of_mem_upperExpansions (c.toNat, capitals)
      (htable ▸ List.mem_append_right _ List.mem_cons_self)
    refine .inr ⟨by rwa [List.length_map], fun d hd => ?_⟩
    obtain ⟨n, hn, rfl⟩ := List.mem_map.1 hd
    exact hletters n hn
  | none =>
    refine .inl ⟨_, rfl, ?_⟩
    cases hcapital : upperRuns.findSome? (·.capital? c.toNat) with
    | none => exact .inl hc
    | some m =>
      rcases toNat_capital hcapital with hbeyond | rfl | ⟨hlong, rfl⟩
      · exact .inl hbeyond
      · exact .inr (.inl rfl)
      · have : c = 'ſ' := by rw [← Char.ofNat_toNat c, hlong]
        exact .inr (.inr ⟨this, rfl⟩)

/-! ### ASCII -/

theorem toUpper_of_le (h : 0x80 ≤ c.toNat) : c.toUpper = c := by
  refine dif_neg ?_
  rintro ⟨-, hhigh⟩
  have : c.toNat ≤ 122 := hhigh
  omega

theorem upperChar_of_lt (h : c.toNat < 0x80) : upperChar c = [c.toUpper] :=
  if_pos h

theorem toNat_lt_of_toUpper (h : c.toUpper.toNat < 0x80) : c.toNat < 0x80 := by
  by_contra hc
  rw [toUpper_of_le (Nat.le_of_not_lt hc)] at h
  exact hc h

/-- Only itself has the upper case of a character that is no letter. -/
theorem toUpper_eq_iff (hd : d.isAlpha = false) : c.toUpper = d ↔ c = d := by
  have hself : ∀ e : Char, e.isAlpha = false → e.toUpper = e := by
    intro e he
    refine Char.toUpper_eq_of_not_isLower fun hlower => ?_
    simp [Char.isAlpha, hlower] at he
  constructor
  · rintro rfl
    rw [Char.isAlpha_toUpper_eq_isAlpha] at hd
    exact (hself c hd).symm
  · rintro rfl
    exact hself c hd

/-! ### Characters with a given capital -/

/-- An ASCII character that is not borrowed is the upper case of ASCII characters alone. -/
theorem mem_upperChar (hd : d.toNat < 0x80) (hown : d ∉ borrowed) (h : d ∈ upperChar c) :
    upperChar c = [d] ∧ c.toUpper = d := by
  by_cases hc : c.toNat < 0x80
  · rw [upperChar_of_lt hc, List.mem_singleton] at h
    rw [upperChar_of_lt hc, ← h]
    exact ⟨rfl, rfl⟩
  rcases upperChar_beyond (Nat.le_of_not_lt hc) with ⟨d', hsingle, hd'⟩ | ⟨-, hletters⟩
  · obtain rfl : d = d' := List.mem_singleton.1 (hsingle ▸ h)
    rcases hd' with hbeyond | rfl | ⟨-, rfl⟩
    · exact absurd hd (Nat.not_lt.2 hbeyond)
    · exact absurd (by decide) hown
    · exact absurd (by decide) hown
  · exact absurd (hletters d h hd) hown

theorem upperChar_eq_S_iff : upperChar c = ['S'] ↔ c.toUpper = 'S' ∨ c = 'ſ' := by
  constructor
  · intro h
    by_cases hc : c.toNat < 0x80
    · rw [upperChar_of_lt hc] at h
      exact .inl (List.singleton_inj.1 h)
    rcases upperChar_beyond (Nat.le_of_not_lt hc) with ⟨d, hsingle, hd⟩ | ⟨hlength, -⟩
    · obtain rfl : d = 'S' := List.singleton_inj.1 (hsingle.symm.trans h)
      rcases hd with hbeyond | hI | ⟨hlong, -⟩
      · exact absurd hbeyond (by decide)
      · exact absurd hI (by decide)
      · exact .inr hlong
    · rw [h] at hlength
      exact absurd hlength (by decide)
  · rintro (h | rfl)
    · rw [upperChar_of_lt (toNat_lt_of_toUpper (h ▸ by decide)), h]
    · decide +kernel

theorem upperChar_ne_nil (c : Char) : upperChar c ≠ [] := by
  by_cases hc : c.toNat < 0x80
  · rw [upperChar_of_lt hc]
    exact List.cons_ne_nil _ _
  rcases upperChar_beyond (Nat.le_of_not_lt hc) with ⟨d, hsingle, -⟩ | ⟨hlength, -⟩
  · rw [hsingle]
    exact List.cons_ne_nil _ _
  · exact List.ne_nil_of_length_pos (Nat.lt_trans Nat.zero_lt_one hlength)

/-! ### Texts with a given upper case -/

theorem upper_cons (c : Char) (text : List Char) : upper (c :: text) = upperChar c ++ upper text :=
  List.flatMap_cons

theorem upper_eq_nil_iff : upper text = [] ↔ text = [] := by
  cases text with
  | nil => exact iff_of_true rfl rfl
  | cons c text =>
    rw [upper_cons]
    exact iff_of_false (List.append_ne_nil_of_left_ne_nil (upperChar_ne_nil c) _)
      (List.cons_ne_nil _ _)

theorem upper_eq_cons_iff (hd : d.toNat < 0x80) (hown : d ∉ borrowed) :
    upper text = d :: rest ↔ ∃ c text', text = c :: text' ∧ c.toUpper = d ∧ upper text' = rest := by
  constructor
  · intro h
    cases text with
    | nil => exact nomatch h
    | cons c text' =>
      rw [upper_cons] at h
      obtain ⟨first, more, hchar⟩ := List.exists_cons_of_ne_nil (upperChar_ne_nil c)
      have hmem : d ∈ upperChar c := by
        rw [hchar, List.cons_append] at h
        rw [hchar, (List.cons.inj h).1]
        exact List.mem_cons_self
      obtain ⟨hsingle, hupper⟩ := mem_upperChar hd hown hmem
      rw [hsingle, List.singleton_append] at h
      exact ⟨c, text', rfl, hupper, (List.cons.inj h).2⟩
  · rintro ⟨c, text', rfl, rfl, rfl⟩
    rw [upper_cons, upperChar_of_lt (toNat_lt_of_toUpper hd)]
    rfl

/-- Only letters are borrowed. -/
theorem not_mem_borrowed (hd : d.isAlpha = false) : d ∉ borrowed := by
  intro hmem
  have hletters : ∀ e ∈ borrowed, e.isAlpha = true := by simp [borrowed]
  exact Bool.eq_false_iff.1 hd (hletters d hmem)

/-- A character that is no letter is its own upper case, and the upper case of no other. -/
theorem upper_eq_cons_iff_of_not_isAlpha (hascii : d.toNat < 0x80) (hd : d.isAlpha = false) :
    upper text = d :: rest ↔ ∃ text', text = d :: text' ∧ upper text' = rest := by
  rw [upper_eq_cons_iff hascii (not_mem_borrowed hd)]
  constructor
  · rintro ⟨c, text', rfl, hc, hrest⟩
    rw [(toUpper_eq_iff hd).1 hc]
    exact ⟨text', rfl, hrest⟩
  · rintro ⟨text', rfl, hrest⟩
    exact ⟨d, text', rfl, (toUpper_eq_iff hd).2 rfl, hrest⟩

/-- A word of characters that are neither borrowed nor letters is the upper case of itself only. -/
theorem upper_eq_iff {word : List Char}
    (h : ∀ d ∈ word, d.toNat < 0x80 ∧ d.isAlpha = false) : upper text = word ↔ text = word := by
  induction word generalizing text with
  | nil => exact upper_eq_nil_iff
  | cons d word ih =>
    obtain ⟨hascii, halpha⟩ := h d List.mem_cons_self
    have hrest : ∀ {text : List Char}, upper text = word ↔ text = word :=
      ih fun e he => h e (List.mem_cons_of_mem _ he)
    rw [upper_eq_cons_iff_of_not_isAlpha hascii halpha]
    simp only [hrest, exists_eq_right]

/-- The name of the stack pointer is the upper case of two letters, and the first may be the long
s. -/
theorem upper_eq_SP_iff :
    upper text = ['S', 'P'] ↔
      ∃ s p, text = [s, p] ∧ (s.toUpper = 'S' ∨ s = 'ſ') ∧ p.toUpper = 'P' := by
  have hP : 'P'.toNat < 0x80 ∧ 'P' ∉ borrowed := by decide
  constructor
  · intro h
    cases text with
    | nil => exact nomatch h
    | cons s text' =>
      rw [upper_cons] at h
      cases hchar : upperChar s with
      | nil => exact absurd hchar (upperChar_ne_nil s)
      | cons first more =>
        rw [hchar, List.cons_append] at h
        obtain ⟨rfl, hmore⟩ := List.cons.inj h
        cases more with
        | nil =>
          obtain ⟨p, text'', rfl, hp, hnil⟩ := (upper_eq_cons_iff hP.1 hP.2).1 hmore
          rw [upper_eq_nil_iff.1 hnil]
          exact ⟨s, p, rfl, upperChar_eq_S_iff.1 hchar, hp⟩
        | cons second more =>
          -- an expansion has no P
          obtain rfl : second = 'P' := (List.cons.inj hmore).1
          have hsingle := (mem_upperChar hP.1 hP.2 (by rw [hchar]; simp)).1
          exact nomatch hchar.symm.trans hsingle
  · rintro ⟨s, p, rfl, hs, hp⟩
    rw [upper_cons, upperChar_eq_S_iff.2 hs]
    exact congrArg (List.cons 'S') ((upper_eq_cons_iff hP.1 hP.2).2 ⟨p, [], rfl, hp, rfl⟩)

end ByteMachine.Text
