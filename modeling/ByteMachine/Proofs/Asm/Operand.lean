import ByteMachine.Proofs.Asm.Written
import ByteMachine.Proofs.Except
import ByteMachine.Proofs.Text.Digits
import ByteMachine.Proofs.Text.Upper

/-!
# Which operands are accepted

A register is the letter R with an index, or the stack pointer by its name; a number is decimal, or
hexadecimal or binary behind the mark of its base.  The assembler reads all of these and, because it
leaves the capitals to Unicode and the digits to a reader that allows for signs and leading zeros,
some operands beyond this notation.  Here both are set against what it accepts.

## Main definitions

- `Asm.IsRegister`, `Asm.IsNumber` — the notation
- `Asm.IsStrayRegister`, `Asm.IsStrayNumber` — what is accepted beyond it

## Main statements

- `Asm.register_eq_ok_iff` — the accepted registers
- `Asm.numberRead`, `Asm.immediate_eq_value_iff` — the accepted numbers
- `Asm.accepted_operands` — both
-/

namespace ByteMachine.Asm

open Text (Numeral)

/-- The notation of registers, in capital or small letters. -/
inductive IsRegister : List Char → Nat → Prop where
  | stackPointer {operand : List Char} :
    operand.map Char.toUpper = ['S', 'P'] → IsRegister operand 7
  | index {operand : List Char} {i : Nat} :
    i < 8 → operand.map Char.toUpper = ['R', i.digitChar] → IsRegister operand i

/-- Registers that are accepted beyond the notation. -/
inductive IsStrayRegister : List Char → Nat → Prop where
  /-- The capital of the long s is the letter S. -/
  | longS {p : Char} : p.toUpper = 'P' → IsStrayRegister ['ſ', p] 7
  | signed {r : Char} {ds : List Char} {i : Nat} :
    r.toUpper = 'R' → Numeral 10 ds i → i < 8 → IsStrayRegister (r :: '+' :: ds) i
  /-- More than one digit, where the first ones are zeros. -/
  | padded {r : Char} {ds : List Char} {i : Nat} :
    r.toUpper = 'R' → Numeral 10 ds i → 1 < ds.length → i < 8 → IsStrayRegister (r :: ds) i

/-- The letters that mark the base of a number. -/
inductive BaseMark : Char → Nat → Prop where
  | hex : BaseMark 'x' 16
  | capitalHex : BaseMark 'X' 16
  | binary : BaseMark 'b' 2
  | capitalBinary : BaseMark 'B' 2

/-- The notation of numbers. -/
inductive IsNumber : List Char → Int → Prop where
  | decimal {ds : List Char} {n : Nat} : Numeral 10 ds n → IsNumber ds n
  | negative {ds : List Char} {n : Nat} : Numeral 10 ds n → IsNumber ('-' :: ds) (-n)
  | marked {mark : Char} {base n : Nat} {ds : List Char} :
    BaseMark mark base → Numeral base ds n → IsNumber ('0' :: mark :: ds) n

/-- Numbers that are accepted beyond the notation, with a sign behind the mark of the base. -/
inductive IsStrayNumber : List Char → Int → Prop where
  | plus {mark : Char} {base n : Nat} {ds : List Char} :
    BaseMark mark base → Numeral base ds n → IsStrayNumber ('0' :: mark :: '+' :: ds) n
  | minus {mark : Char} {base n : Nat} {ds : List Char} :
    BaseMark mark base → Numeral base ds n → IsStrayNumber ('0' :: mark :: '-' :: ds) (-n)

variable {operand text ds : List Char} {c mark : Char} {i base : Nat} {v : Int} {r b : Byte}

/-! ### Registers -/

theorem map_toUpper_eq_pair_iff {d e : Char} :
    operand.map Char.toUpper = [d, e] ↔
      ∃ c c', operand = [c, c'] ∧ c.toUpper = d ∧ c'.toUpper = e := by
  simp [List.map_eq_cons_iff]

theorem isAlpha_digitChar (hi : i < 10) : i.digitChar.isAlpha = false := by
  have hdigits : ∀ i < 10, i.digitChar.isAlpha = false := by decide
  exact hdigits i hi

/-- The notation of an index is its digit. -/
theorem isRegister_index_iff (hi : i < 8) :
    operand.map Char.toUpper = ['R', i.digitChar] ↔
      ∃ r, operand = [r, i.digitChar] ∧ r.toUpper = 'R' := by
  rw [map_toUpper_eq_pair_iff]
  simp only [Text.toUpper_eq_iff (isAlpha_digitChar (by omega : i < 10))]
  constructor
  · rintro ⟨r, _, rfl, hr, rfl⟩
    exact ⟨r, rfl, hr⟩
  · rintro ⟨r, rfl, hr⟩
    exact ⟨r, _, rfl, hr, rfl⟩

theorem registerIndex?_eq_some_iff :
    registerIndex? text = some i ↔ text = ['S', 'P'] ∧ i = 7 ∨
      ∃ index, text = 'R' :: index ∧ Text.unsigned? 10 index = some i := by
  unfold registerIndex?
  split
  · simp [eq_comm]
  · simp
  · rename_i hpointer hindexed
    refine iff_of_false (fun h => nomatch h) ?_
    rintro (⟨rfl, -⟩ | ⟨index, rfl, -⟩)
    · exact hpointer rfl
    · exact hindexed index rfl

theorem not_isAlpha_of_mem_numeral (h : Numeral 10 ds i) (hc : c ∈ ds) :
    c.toNat < 0x80 ∧ c.isAlpha = false := by
  obtain ⟨d, hd⟩ := h.exists_digit hc
  obtain ⟨hlt, rfl⟩ := Text.isDigitOf_ten_iff.1 hd
  exact ⟨hd.toNat_lt (by decide), isAlpha_digitChar hlt⟩

/-- An index has no case. -/
theorem unsigned?_upper_iff :
    Text.unsigned? 10 (Text.upper text) = some i ↔ Text.unsigned? 10 text = some i := by
  have hdigits : ∀ {ds : List Char}, Numeral 10 ds i →
      ∀ c ∈ ds, c.toNat < 0x80 ∧ c.isAlpha = false :=
    fun h _ hc => not_isAlpha_of_mem_numeral h hc
  have hsign : ∀ {ds : List Char}, Numeral 10 ds i →
      ∀ c ∈ '+' :: ds, c.toNat < 0x80 ∧ c.isAlpha = false :=
    fun h => List.forall_mem_cons.2 ⟨by decide, hdigits h⟩
  rw [Text.unsigned?_eq_some_iff (by decide), Text.unsigned?_eq_some_iff (by decide)]
  constructor
  · rintro (h | ⟨ds, hds, h⟩)
    · exact .inl (by rwa [← (Text.upper_eq_iff (hdigits h)).1 rfl] at h)
    · exact .inr ⟨ds, (Text.upper_eq_iff (hsign h)).1 hds, h⟩
  · rintro (h | ⟨ds, hds, h⟩)
    · exact .inl (by rwa [(Text.upper_eq_iff (hdigits h)).2 rfl])
    · exact .inr ⟨ds, (Text.upper_eq_iff (hsign h)).2 hds, h⟩

/-- The operands whose upper case is a register. -/
theorem registerIndex?_upper_iff :
    registerIndex? (Text.upper operand) = some i ↔
      (∃ s p, operand = [s, p] ∧ (s.toUpper = 'S' ∨ s = 'ſ') ∧ p.toUpper = 'P' ∧ i = 7) ∨
      ∃ r index, operand = r :: index ∧ r.toUpper = 'R' ∧ Text.unsigned? 10 index = some i := by
  have hR : 'R'.toNat < 0x80 ∧ 'R' ∉ Text.borrowed := by decide
  rw [registerIndex?_eq_some_iff, Text.upper_eq_SP_iff]
  simp only [Text.upper_eq_cons_iff hR.1 hR.2]
  constructor
  · rintro (⟨⟨s, p, hoperand, hs, hp⟩, hi⟩ | ⟨_, ⟨r, index, hoperand, hr, rfl⟩, hindex⟩)
    · exact .inl ⟨s, p, hoperand, hs, hp, hi⟩
    · exact .inr ⟨r, index, hoperand, hr, unsigned?_upper_iff.1 hindex⟩
  · rintro (⟨s, p, hoperand, hs, hp, hi⟩ | ⟨r, index, hoperand, hr, hindex⟩)
    · exact .inl ⟨⟨s, p, hoperand, hs, hp⟩, hi⟩
    · exact .inr ⟨_, ⟨r, index, hoperand, hr, rfl⟩, unsigned?_upper_iff.2 hindex⟩

/-- An index of one digit is in the notation, any other is not. -/
theorem isRegister_or_stray (hr : c.toUpper = 'R') (hi : i < 8)
    (hindex : Text.unsigned? 10 text = some i) :
    IsRegister (c :: text) i ∨ IsStrayRegister (c :: text) i := by
  rcases (Text.unsigned?_eq_some_iff (by decide)).1 hindex with h | ⟨ds, rfl, h⟩
  · rcases Nat.eq_or_lt_of_le (List.length_pos_iff.2 h.ne_nil) with hone | hmore
    · obtain ⟨digit, rfl⟩ := List.length_eq_one_iff.1 hone.symm
      obtain ⟨-, rfl⟩ := Text.isDigitOf_ten_iff.1 (Numeral.singleton_iff.1 h)
      exact .inl (.index hi ((isRegister_index_iff hi).2 ⟨c, rfl, hr⟩))
    · exact .inr (.padded hr h hmore hi)
  · exact .inr (.signed hr h hi)

theorem registerIndex?_upper_iff_isRegister (hi : i < 8) :
    registerIndex? (Text.upper operand) = some i ↔
      IsRegister operand i ∨ IsStrayRegister operand i := by
  rw [registerIndex?_upper_iff]
  constructor
  · rintro (⟨s, p, rfl, hs | rfl, hp, rfl⟩ | ⟨r, index, rfl, hr, hindex⟩)
    · exact .inl (.stackPointer (map_toUpper_eq_pair_iff.2 ⟨s, p, rfl, hs, hp⟩))
    · exact .inr (.longS hp)
    · exact isRegister_or_stray hr hi hindex
  · rintro (h | h)
    · cases h with
      | stackPointer hmap =>
        obtain ⟨s, p, rfl, hs, hp⟩ := map_toUpper_eq_pair_iff.1 hmap
        exact .inl ⟨s, p, rfl, .inl hs, hp, rfl⟩
      | index _ hmap =>
        obtain ⟨r, rfl, hr⟩ := (isRegister_index_iff hi).1 hmap
        have hdigit : Numeral 10 [i.digitChar] i :=
          .digit (Text.isDigitOf_ten_iff.2 ⟨by omega, rfl⟩)
        exact .inr ⟨r, _, rfl, hr, (Text.unsigned?_eq_some_iff (by decide)).2 (.inl hdigit)⟩
    · cases h with
      | longS hp => exact .inl ⟨'ſ', _, rfl, .inr rfl, hp, rfl⟩
      | signed hr h _ =>
        have hindex := (Text.unsigned?_eq_some_iff (by decide)).2 (.inr ⟨_, rfl, h⟩)
        exact .inr ⟨_, _, rfl, hr, hindex⟩
      | padded hr h _ _ =>
        exact .inr ⟨_, _, rfl, hr, (Text.unsigned?_eq_some_iff (by decide)).2 (.inl h)⟩

theorem IsRegister.lt (h : IsRegister operand i) : i < 8 := by
  cases h with
  | stackPointer => decide
  | index hi => exact hi

theorem IsStrayRegister.lt (h : IsStrayRegister operand i) : i < 8 := by
  cases h with
  | longS => decide
  | signed _ _ hi | padded _ _ _ hi => exact hi

theorem register_eq_ok_iff :
    register operand = .ok r ↔ IsRegister operand r.toNat ∨ IsStrayRegister operand r.toNat := by
  unfold register
  constructor
  · intro h
    split at h
    · rename_i i hindex
      split at h
      · rename_i hi
        obtain rfl := Except.ok.inj h
        rw [UInt8.toNat_ofNat_of_lt' (Nat.lt_trans hi (by decide))]
        exact (registerIndex?_upper_iff_isRegister hi).1 hindex
      · exact nomatch h
    · exact nomatch h
  · intro h
    have hlt : r.toNat < 8 := h.elim IsRegister.lt IsStrayRegister.lt
    rw [(registerIndex?_upper_iff_isRegister hlt).2 h]
    dsimp only
    rw [if_pos hlt, UInt8.ofNat_toNat]

/-- What is accepted beyond the notation is not in it. -/
theorem IsStrayRegister.not_isRegister {j : Nat} (h : IsStrayRegister operand i) :
    ¬IsRegister operand j := by
  intro h'
  cases h' with
  | stackPointer hmap =>
    obtain ⟨s, p, rfl, hs, hp⟩ := map_toUpper_eq_pair_iff.1 hmap
    cases h with
    | longS => exact absurd hs (by decide)
    | signed hr | padded hr => exact absurd (hs.symm.trans hr) (by decide)
  | index hj hmap =>
    obtain ⟨r, rfl, hr⟩ := (isRegister_index_iff hj).1 hmap
    generalize j.digitChar = digit at h
    cases h with
    | longS => exact absurd hr (by decide)
    | signed _ h => exact absurd rfl h.ne_nil
    | padded _ _ hlength => exact absurd hlength (by simp)

/-! ### Numbers -/

/-- How the beginning of an operand decides what it is read as. -/
inductive NumberRead (operand : List Char) : Prop where
  | marked {mark : Char} {base : Nat} {ds : List Char} (hmark : BaseMark mark base)
    (hoperand : operand = '0' :: mark :: ds)
    (hread : number? operand = some (Text.signed? base ds))
  | decimal {c : Char} {rest : List Char} (hoperand : operand = c :: rest)
    (hfirst : c.isDigit = true ∨ c = '-')
    (hunmarked : ∀ mark base ds, BaseMark mark base → operand ≠ '0' :: mark :: ds)
    (hread : number? operand = some (Text.signed? 10 operand))
  | label (hfirst : ∀ c rest, operand = c :: rest → c.isDigit = false ∧ c ≠ '-')
    (hread : number? operand = none)

theorem numberRead (operand : List Char) : NumberRead operand := by
  have hread := Eq.refl (number? operand)
  conv_rhs at hread => unfold number?
  split at hread
  · exact .marked .hex rfl hread
  · exact .marked .capitalHex rfl hread
  · exact .marked .binary rfl hread
  · exact .marked .capitalBinary rfl hread
  · rename_i c rest hx hX hb hB
    by_cases hfirst : c.isDigit = true ∨ c = '-'
    · rw [if_pos (by simpa using hfirst)] at hread
      refine .decimal rfl hfirst ?_ hread
      rintro mark base ds (_ | _ | _ | _) ⟨⟩
      · exact hx ds rfl rfl
      · exact hX ds rfl rfl
      · exact hb ds rfl rfl
      · exact hB ds rfl rfl
    · rw [if_neg (by simpa using hfirst)] at hread
      refine .label ?_ hread
      rintro _ _ ⟨⟩
      simpa using hfirst
  · exact .label (fun _ _ h => nomatch h) hread

namespace BaseMark

theorem le (h : BaseMark mark base) : base ≤ 16 := by
  cases h <;> decide

theorem unique {base' : Nat} (h : BaseMark mark base) (h' : BaseMark mark base') : base = base' := by
  cases h <;> cases h' <;> rfl

theorem isDigit (h : BaseMark mark base) : mark.isDigit = false := by
  cases h <;> rfl

end BaseMark

theorem isNumber_marked_iff (hmark : BaseMark mark base) :
    IsNumber ('0' :: mark :: ds) v ↔ ∃ n : Nat, Numeral base ds n ∧ v = n := by
  constructor
  · intro h
    cases h with
    | decimal h =>
      have hdigit := h.isDigit_of_mem (List.mem_cons_of_mem _ List.mem_cons_self)
      exact absurd hdigit (Bool.eq_false_iff.1 hmark.isDigit)
    | marked hmark' h =>
      obtain rfl := hmark.unique hmark'
      exact ⟨_, h, rfl⟩
  · rintro ⟨n, h, rfl⟩
    exact .marked hmark h

theorem isStrayNumber_marked_iff (hmark : BaseMark mark base) :
    IsStrayNumber ('0' :: mark :: ds) v ↔
      (∃ (ds' : List Char) (n : Nat), ds = '+' :: ds' ∧ Numeral base ds' n ∧ v = n) ∨
      ∃ (ds' : List Char) (n : Nat), ds = '-' :: ds' ∧ Numeral base ds' n ∧ v = -n := by
  constructor
  · intro h
    cases h with
    | plus hmark' h =>
      obtain rfl := hmark.unique hmark'
      exact .inl ⟨_, _, rfl, h, rfl⟩
    | minus hmark' h =>
      obtain rfl := hmark.unique hmark'
      exact .inr ⟨_, _, rfl, h, rfl⟩
  · rintro (⟨ds', n, rfl, h, rfl⟩ | ⟨ds', n, rfl, h, rfl⟩)
    · exact .plus hmark h
    · exact .minus hmark h

/-- Without a mark a number is decimal. -/
theorem isNumber_unmarked_iff
    (hunmarked : ∀ mark base ds, BaseMark mark base → operand ≠ '0' :: mark :: ds) :
    IsNumber operand v ↔ (∃ n : Nat, Numeral 10 operand n ∧ v = n) ∨
      ∃ (ds : List Char) (n : Nat), operand = '-' :: ds ∧ Numeral 10 ds n ∧ v = -n := by
  constructor
  · intro h
    cases h with
    | decimal h => exact .inl ⟨_, h, rfl⟩
    | negative h => exact .inr ⟨_, _, rfl, h, rfl⟩
    | marked hmark h => exact absurd rfl (hunmarked _ _ _ hmark)
  · rintro (⟨n, h, rfl⟩ | ⟨ds, n, rfl, h, rfl⟩)
    · exact .decimal h
    · exact .negative h

/-- A number begins with a digit or a minus sign. -/
theorem IsNumber.head (h : IsNumber operand v) :
    ∃ c rest, operand = c :: rest ∧ (c.isDigit = true ∨ c = '-') := by
  cases h with
  | decimal h =>
    obtain ⟨c, rest, rfl⟩ := List.exists_cons_of_ne_nil h.ne_nil
    exact ⟨c, rest, rfl, .inl (h.isDigit_of_mem List.mem_cons_self)⟩
  | negative h => exact ⟨_, _, rfl, .inr rfl⟩
  | marked hmark h => exact ⟨_, _, rfl, .inl rfl⟩

theorem IsStrayNumber.exists_mark (h : IsStrayNumber operand v) :
    ∃ mark base ds, BaseMark mark base ∧ operand = '0' :: mark :: ds := by
  cases h with
  | plus hmark h | minus hmark h => exact ⟨_, _, _, hmark, rfl⟩

theorem number?_eq_some_iff :
    number? operand = some (some v) ↔ IsNumber operand v ∨ IsStrayNumber operand v := by
  cases numberRead operand with
  | marked hmark hoperand hread =>
    rw [hread, Option.some.injEq, Text.signed?_eq_some_iff hmark.le, hoperand,
      isNumber_marked_iff hmark, isStrayNumber_marked_iff hmark]
  | decimal hoperand hfirst hunmarked hread =>
    have hstray : ¬IsStrayNumber operand v := by
      intro h
      obtain ⟨mark, base, ds, hmark, hmarked⟩ := h.exists_mark
      exact hunmarked mark base ds hmark hmarked
    have hplus : ∀ ds, operand ≠ '+' :: ds := by
      rintro ds rfl
      obtain ⟨rfl, rfl⟩ := List.cons.inj hoperand
      exact absurd hfirst (by decide)
    rw [hread, Option.some.injEq, Text.signed?_eq_some_iff (by decide), or_iff_left hstray,
      isNumber_unmarked_iff hunmarked]
    simp only [hplus, false_and, exists_false, false_or]
  | label hfirst hread =>
    rw [hread]
    refine iff_of_false (fun h => nomatch h) ?_
    have hhead : ¬∃ c rest, operand = c :: rest ∧ (c.isDigit = true ∨ c = '-') := by
      rintro ⟨c, rest, hoperand, hc⟩
      obtain ⟨hdigit, hminus⟩ := hfirst c rest hoperand
      exact hc.elim (Bool.eq_false_iff.1 hdigit) hminus
    rintro (h | h)
    · exact hhead h.head
    · obtain ⟨mark, base, ds, hmark, hmarked⟩ := h.exists_mark
      exact hhead ⟨_, _, hmarked, .inl rfl⟩

theorem IsStrayNumber.not_isNumber {w : Int} (h : IsStrayNumber operand v) :
    ¬IsNumber operand w := by
  cases h with
  | plus hmark h | minus hmark h =>
    rw [isNumber_marked_iff hmark]
    rintro ⟨n, h', -⟩
    exact absurd List.mem_cons_self (h'.not_mem hmark.le (by decide))

/-! ### Immediate values -/

theorem byteValue_eq_ok_iff : byteValue v = .ok b ↔ v = b.toNat := by
  constructor
  · intro h
    unfold byteValue at h
    split at h
    · rename_i hbounds
      have hsize : v.toNat < UInt8.size := by
        show v.toNat < 256
        omega
      rw [← Except.ok.inj h, UInt8.toNat_ofNat_of_lt' hsize, Int.toNat_of_nonneg hbounds.1]
    · exact nomatch h
  · rintro rfl
    exact byteValue_toNat b

theorem immediate_eq_value_iff :
    immediate operand = .ok (.value b) ↔
      IsNumber operand b.toNat ∨ IsStrayNumber operand b.toNat := by
  rw [← number?_eq_some_iff]
  refine ⟨fun h => ?_, immediate_of_number?⟩
  cases hread : number? operand with
  | none =>
    unfold immediate at h
    rw [hread] at h
    dsimp only at h
    split at h
    · exact nomatch h
    · exact nomatch h
  | some n? =>
    rw [immediate_eq hread] at h
    split at h
    · rename_i n hn
      obtain ⟨rfl, -⟩ := Option.filter_eq_some_iff.1 hn
      obtain ⟨b', hb', hvalue⟩ := map_eq_ok_iff.1 h
      obtain rfl := Immediate.value.inj hvalue
      rw [byteValue_eq_ok_iff.1 hb']
    · exact nomatch h

/-- **Which operands are accepted.**  A text is accepted as a register exactly if it is in the
notation of registers, or is written with the long s, with a plus sign or with leading zeros.  It is
accepted as the number of a byte exactly if it is in the notation of numbers, or has a sign behind
the mark of its base.  None of these additions is in the notation. -/
theorem accepted_operands (operand : List Char) :
    (∀ r, register operand = .ok r ↔
      IsRegister operand r.toNat ∨ IsStrayRegister operand r.toNat) ∧
    (∀ b, immediate operand = .ok (.value b) ↔
      IsNumber operand b.toNat ∨ IsStrayNumber operand b.toNat) ∧
    (∀ i j, ¬(IsStrayRegister operand i ∧ IsRegister operand j)) ∧
    ∀ v w, ¬(IsStrayNumber operand v ∧ IsNumber operand w) :=
  ⟨fun _ => register_eq_ok_iff, fun _ => immediate_eq_value_iff,
    fun _ _ h => h.1.not_isRegister h.2, fun _ _ h => h.1.not_isNumber h.2⟩

/-- Operands that are accepted and in no notation. -/
theorem stray_operands_accepted :
    (∀ operand ∈ [['R', '+', '7'], ['R', '0', '7'], ['ſ', 'p']],
      register operand = .ok 7 ∧ ∀ i, ¬IsRegister operand i) ∧
    immediate ['0', 'x', '+', '5'] = .ok (.value 5) ∧ ∀ v, ¬IsNumber ['0', 'x', '+', '5'] v := by
  have hseven : Numeral 10 ['7'] 7 := .digit ⟨by decide, rfl⟩
  have hpadded : Numeral 10 ['0', '7'] 7 := (Text.natural?_eq_some_iff (by decide)).1 rfl
  have hstray : ∀ operand ∈ [['R', '+', '7'], ['R', '0', '7'], ['ſ', 'p']],
      IsStrayRegister operand 7 := by
    simp only [List.forall_mem_cons]
    exact ⟨.signed rfl hseven (by decide), .padded rfl hpadded (by decide) (by decide), .longS rfl,
      fun _ h => nomatch h⟩
  have hnumber : IsStrayNumber ['0', 'x', '+', '5'] 5 := .plus .hex (.digit ⟨by decide, rfl⟩)
  refine ⟨fun operand hoperand => ?_, immediate_eq_value_iff.2 (.inr hnumber), ?_⟩
  · have h := hstray operand hoperand
    exact ⟨register_eq_ok_iff.2 (.inr h), fun i => h.not_isRegister⟩
  · exact fun v => hnumber.not_isNumber

end ByteMachine.Asm
