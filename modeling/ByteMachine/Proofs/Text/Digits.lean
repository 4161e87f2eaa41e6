import ByteMachine.Proofs.Text.Numeral
import Mathlib.Algebra.Group.Nat.Defs
import Mathlib.Data.List.Induction

/-!
# The grammar of numerals

A numeral is one or more digits.  Its last digit counts once, and what stands in front of it counts
as often as the base says.  The reader accepts the numerals of a base and nothing else, and a sign
in front of them where it looks for one.

## Main definitions

- `Text.IsDigitOf` — a digit in capital or small letters, with its value
- `Text.Numeral` — a numeral with its value

## Main statements

- `Text.natural?_eq_some_iff` — the reader accepts exactly the numerals
- `Text.unsigned?_eq_some_iff`, `Text.signed?_eq_some_iff` — the same with signs
-/

namespace ByteMachine.Text

/-- The character is the digit with the value `d`, in capital or small letters. -/
def IsDigitOf (base : Nat) (c : Char) (d : Nat) : Prop :=
  d < base ∧ c.toLower = d.digitChar

/-- One or more digits, with the value that they have together. -/
inductive Numeral (base : Nat) : List Char → Nat → Prop where
  | digit {c : Char} {d : Nat} : IsDigitOf base c d → Numeral base [c] d
  | snoc {ds : List Char} {n : Nat} {c : Char} {d : Nat} :
    Numeral base ds n → IsDigitOf base c d → Numeral base (ds ++ [c]) (n * base + d)

variable {base n d : Nat} {c : Char} {text : List Char}

/-! ### Digits -/

/-- What can be checked for the ASCII characters one by one holds of all of them. -/
theorem forall_ascii {P : Char → Prop} (h : ∀ n < 0x80, P (Char.ofNat n)) (c : Char)
    (hc : c.toNat < 0x80) : P c :=
  Char.ofNat_toNat c ▸ h c.toNat hc

theorem toLower_of_le (hc : 0x80 ≤ c.toNat) : c.toLower = c := by
  refine dif_neg ?_
  rintro ⟨-, hhigh⟩
  have : c.toNat ≤ 90 := hhigh
  omega

theorem IsDigitOf.toNat_lt (hbase : base ≤ 16) (h : IsDigitOf base c d) : c.toNat < 0x80 := by
  have hdigits : ∀ d < 16, d.digitChar.toNat < 0x80 := by decide
  have hlower := hdigits d (Nat.lt_of_lt_of_le h.1 hbase)
  refine Nat.lt_of_not_le fun hc => ?_
  rw [← h.2, toLower_of_le hc] at hlower
  omega

theorem digit?_of_le (hc : 0x80 ≤ c.toNat) : digit? base c = none := by
  have hbeyond : ∀ e : Char, e.toNat < 0x80 → ¬c ≤ e := by
    intro e he hle
    have : c.toNat ≤ e.toNat := hle
    omega
  simp only [digit?, hbeyond '9' (by decide), hbeyond 'z' (by decide), hbeyond 'Z' (by decide),
    and_false, if_false, Option.filter_none]

theorem digit?_eq_some_iff (hbase : base ≤ 16) : digit? base c = some d ↔ IsDigitOf base c d := by
  have hascii : ∀ c : Char, c.toNat < 0x80 →
      ∀ d < 16, digit? 16 c = some d ↔ c.toLower = d.digitChar :=
    forall_ascii (by decide +kernel)
  have hnarrow : digit? base c = some d ↔ d < base ∧ digit? 16 c = some d := by
    simp only [digit?, Option.filter_eq_some_iff, decide_eq_true_eq]
    constructor
    · rintro ⟨hvalue, hd⟩
      exact ⟨hd, hvalue, Nat.lt_of_lt_of_le hd hbase⟩
    · rintro ⟨hd, hvalue, -⟩
      exact ⟨hvalue, hd⟩
  rw [hnarrow, IsDigitOf]
  refine and_congr_right fun hd => ?_
  by_cases hc : c.toNat < 0x80
  · exact hascii c hc d (Nat.lt_of_lt_of_le hd hbase)
  · rw [digit?_of_le (Nat.le_of_not_lt hc)]
    refine iff_of_false (Option.some_ne_none d).symm fun h => ?_
    exact hc (IsDigitOf.toNat_lt hbase ⟨hd, h⟩)

theorem IsDigitOf.isAlphanum (hbase : base ≤ 16) (h : IsDigitOf base c d) :
    c.isAlphanum = true := by
  have hascii : ∀ c : Char, c.toNat < 0x80 →
      ∀ d < 16, c.toLower = d.digitChar → c.isAlphanum = true :=
    forall_ascii (by decide +kernel)
  exact hascii c (h.toNat_lt hbase) d (Nat.lt_of_lt_of_le h.1 hbase) h.2

/-- A decimal digit has no case. -/
theorem isDigitOf_ten_iff : IsDigitOf 10 c d ↔ d < 10 ∧ c = d.digitChar := by
  have hascii : ∀ c : Char, c.toNat < 0x80 →
      ∀ d < 10, c.toLower = d.digitChar → c = d.digitChar :=
    forall_ascii (by decide +kernel)
  have hlower : ∀ d < 10, d.digitChar.toLower = d.digitChar := by decide
  constructor
  · intro h
    exact ⟨h.1, hascii c (h.toNat_lt (by decide)) d h.1 h.2⟩
  · rintro ⟨hd, rfl⟩
    exact ⟨hd, hlower d hd⟩

/-- The digits of a small base have no case. -/
theorem isDigitOf_iff_of_le (hbase : base ≤ 10) :
    IsDigitOf base c d ↔ d < base ∧ c = d.digitChar := by
  constructor
  · intro h
    exact ⟨h.1, (isDigitOf_ten_iff.1 ⟨Nat.lt_of_lt_of_le h.1 hbase, h.2⟩).2⟩
  · rintro ⟨hd, hc⟩
    exact ⟨hd, (isDigitOf_ten_iff.2 ⟨Nat.lt_of_lt_of_le hd hbase, hc⟩).2⟩

/-! ### Numerals -/

namespace Numeral

theorem ne_nil (h : Numeral base text n) : text ≠ [] := by
  cases h with
  | digit hd => exact List.cons_ne_nil _ _
  | snoc h hd => exact List.concat_ne_nil _ _

theorem singleton_iff : Numeral base [c] n ↔ IsDigitOf base c n := by
  constructor
  · intro h
    generalize htext : [c] = text at h
    cases h with
    | digit hd =>
      obtain rfl := List.singleton_inj.1 htext
      exact hd
    | snoc h hd =>
      have hlength := congrArg List.length htext
      have hpos := List.length_pos_iff.2 h.ne_nil
      simp only [List.length_append, List.length_singleton] at hlength
      omega
  · exact .digit

theorem exists_digit (h : Numeral base text n) (hc : c ∈ text) : ∃ d, IsDigitOf base c d := by
  induction h with
  | digit hd =>
    obtain rfl := List.mem_singleton.1 hc
    exact ⟨_, hd⟩
  | snoc h hd ih =>
    rcases List.mem_append.1 hc with hc | hc
    · exact ih hc
    · obtain rfl := List.mem_singleton.1 hc
      exact ⟨_, hd⟩

/-- No sign stands in a numeral. -/
theorem not_mem (hbase : base ≤ 16) (h : Numeral base text n) (hc : c.isAlphanum = false) :
    c ∉ text := by
  intro hmem
  obtain ⟨d, hd⟩ := h.exists_digit hmem
  exact Bool.eq_false_iff.1 hc (hd.isAlphanum hbase)

theorem lt_pow (h : Numeral base text n) : n < base ^ text.length := by
  induction h with
  | digit hd => simpa using hd.1
  | @snoc ds m c d h hd ih =>
    rw [List.length_append, List.length_singleton, Nat.pow_succ]
    calc m * base + d < m * base + base := Nat.add_lt_add_left hd.1 _
      _ = (m + 1) * base := (Nat.succ_mul m base).symm
      _ ≤ base ^ ds.length * base := Nat.mul_le_mul_right base ih

/-- The front of a numeral counts as often as the digits behind it can tell apart. -/
theorem exists_of_append {front : List Char} (hfront : front ≠ []) (htext : text ≠ [])
    (h : Numeral base (front ++ text) n) :
    ∃ m k, Numeral base front m ∧ Numeral base text k ∧ n = m * base ^ text.length + k := by
  induction text using List.reverseRecOn generalizing n with
  | nil => exact absurd rfl htext
  | append_singleton ds c ih =>
    rw [← List.append_assoc] at h
    generalize hword : front ++ ds ++ [c] = word at h
    cases h with
    | digit hd =>
      have hlength := congrArg List.length hword
      have hpos := List.length_pos_iff.2 hfront
      simp only [List.length_append, List.length_singleton] at hlength
      omega
    | @snoc ds' m c' d h hd =>
      obtain ⟨rfl, hlast⟩ := List.append_inj' hword rfl
      obtain rfl := List.singleton_inj.1 hlast
      by_cases hds : ds = []
      · subst hds
        rw [List.append_nil] at h
        exact ⟨m, d, h, .digit hd, by simp⟩
      · obtain ⟨m', k, hm', hk, rfl⟩ := ih hds h
        refine ⟨m', k * base + d, hm', .snoc hk hd, ?_⟩
        rw [List.length_append, List.length_singleton, Nat.pow_succ, Nat.add_mul, Nat.mul_assoc,
          Nat.add_assoc]

/-- Only zeros are worth nothing. -/
theorem eq_zero_iff (hbase : base ≤ 10) (h : Numeral base text n) :
    n = 0 ↔ ∀ c ∈ text, c = '0' := by
  have hdigit : ∀ {c : Char} {d : Nat}, IsDigitOf base c d → (d = 0 ↔ c = '0') := by
    intro c d hd
    obtain ⟨hlt, rfl⟩ := (isDigitOf_iff_of_le hbase).1 hd
    have hdigits : ∀ d < 10, d = 0 ↔ d.digitChar = '0' := by decide
    exact hdigits d (Nat.lt_of_lt_of_le hlt hbase)
  induction h with
  | digit hd => rw [List.forall_mem_singleton, hdigit hd]
  | @snoc ds m c d h hd ih =>
    have hpos : 0 < base := Nat.zero_lt_of_lt hd.1
    rw [List.forall_mem_append, List.forall_mem_singleton, Nat.add_eq_zero_iff, Nat.mul_eq_zero,
      or_iff_left (Nat.ne_of_gt hpos)]
    exact and_congr ih (hdigit hd)

theorem isDigit_of_mem (h : Numeral 10 text n) (hc : c ∈ text) : c.isDigit = true := by
  obtain ⟨d, hd⟩ := h.exists_digit hc
  obtain ⟨hlt, rfl⟩ := isDigitOf_ten_iff.1 hd
  have hdigits : ∀ d < 10, d.digitChar.isDigit = true := by decide
  exact hdigits d hlt

end Numeral

theorem natural?_eq_some :
    natural? base text = some n ↔ text ≠ [] ∧ digitsFrom? base 0 text = some n := by
  cases text with
  | nil => simp [natural?]
  | cons c text => simp [natural?]

theorem natural?_eq_some_iff (hbase : base ≤ 16) :
    natural? base text = some n ↔ Numeral base text n := by
  rw [natural?_eq_some]
  constructor
  · rintro ⟨hne, h⟩
    induction text using List.reverseRecOn generalizing n with
    | nil => exact absurd rfl hne
    | append_singleton ds c ih =>
      rw [digitsFrom?_append, Option.bind_eq_some_iff] at h
      obtain ⟨m, hm, hlast⟩ := h
      obtain ⟨d, hd, hn⟩ := Option.bind_eq_some_iff.1 hlast
      rw [digit?_eq_some_iff hbase] at hd
      obtain rfl := Option.some.inj hn
      cases ds with
      | nil =>
        obtain rfl := Option.some.inj hm
        rw [Nat.zero_mul, Nat.zero_add]
        exact .digit hd
      | cons first more => exact .snoc (ih (List.cons_ne_nil _ _) hm) hd
  · intro h
    induction h with
    | digit hd =>
      refine ⟨List.cons_ne_nil _ _, ?_⟩
      rw [digitsFrom?, (digit?_eq_some_iff hbase).2 hd]
      simp [digitsFrom?]
    | snoc h hd ih =>
      refine ⟨List.concat_ne_nil _ _, ?_⟩
      rw [digitsFrom?_append, ih.2, Option.bind_some, digitsFrom?, (digit?_eq_some_iff hbase).2 hd]
      rfl

/-! ### Signs -/

theorem unsigned?_eq_some_iff (hbase : base ≤ 16) :
    unsigned? base text = some n ↔
      Numeral base text n ∨ ∃ ds, text = '+' :: ds ∧ Numeral base ds n := by
  unfold unsigned?
  split
  · rename_i ds
    rw [natural?_eq_some_iff hbase]
    constructor
    · exact fun h => .inr ⟨ds, rfl, h⟩
    · rintro (h | ⟨_, ⟨⟩, h⟩)
      · exact absurd List.mem_cons_self (h.not_mem hbase (by decide))
      · exact h
  · rename_i hsign
    rw [natural?_eq_some_iff hbase]
    refine ⟨.inl, ?_⟩
    rintro (h | ⟨ds, rfl, -⟩)
    · exact h
    · exact absurd rfl (hsign ds)

theorem map_natCast_eq_some_iff {n? : Option Nat} {f : Int → Int} {v : Int} :
    (Option.map f do
      let n ← n?
      pure (n : Int)) = some v ↔ ∃ n : Nat, n? = some n ∧ v = f n := by
  cases n? with
  | none => simp
  | some n => simp [eq_comm]

theorem signed?_eq_some_iff (hbase : base ≤ 16) {v : Int} :
    signed? base text = some v ↔
      (∃ n : Nat, Numeral base text n ∧ v = n) ∨
      (∃ (ds : List Char) (n : Nat), text = '+' :: ds ∧ Numeral base ds n ∧ v = n) ∨
      ∃ (ds : List Char) (n : Nat), text = '-' :: ds ∧ Numeral base ds n ∧ v = -n := by
  unfold signed?
  split
  · rename_i ds
    rw [map_natCast_eq_some_iff]
    constructor
    · rintro ⟨n, hn, rfl⟩
      exact .inr (.inr ⟨ds, n, rfl, (natural?_eq_some_iff hbase).1 hn, rfl⟩)
    · rintro (⟨n, h, -⟩ | ⟨_, _, ⟨⟩, -⟩ | ⟨_, n, ⟨⟩, h, rfl⟩)
      · exact absurd List.mem_cons_self (h.not_mem hbase (by decide))
      · exact ⟨n, (natural?_eq_some_iff hbase).2 h, rfl⟩
  · rename_i hsign
    rw [map_natCast_eq_some_iff]
    constructor
    · rintro ⟨n, hn, rfl⟩
      rcases (unsigned?_eq_some_iff hbase).1 hn with h | ⟨ds, rfl, h⟩
      · exact .inl ⟨n, h, rfl⟩
      · exact .inr (.inl ⟨ds, n, rfl, h, rfl⟩)
    · rintro (⟨n, h, rfl⟩ | ⟨ds, n, rfl, h, rfl⟩ | ⟨ds, n, rfl, -⟩)
      · exact ⟨n, (unsigned?_eq_some_iff hbase).2 (.inl h), rfl⟩
      · exact ⟨n, (unsigned?_eq_some_iff hbase).2 (.inr ⟨ds, rfl, h⟩), rfl⟩
      · exact absurd rfl (hsign ds)

end ByteMachine.Text
