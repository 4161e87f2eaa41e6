import ByteMachine.Json.Lexer
import ByteMachine.Proofs.Text.Numeral

/-!
# Reading tokens back

A token in front of other text is found again.  Brackets, marks and strings show their end
themselves; a numeral or a word is ended by the character behind it, which must not go it on.

## Main definitions

- `Json.IsBoundary` — a text that goes on no numeral and no word
- `Json.ReadAs` — how a character in a string literal is read
- `Json.Token.runsOn` — whether only the character behind a token ends it

## Main statements

- `Json.lex_letters`, `Json.lex_decimal`, `Json.lex_str` — words, numerals and string literals
- `Json.lex_chars` — any token in front of other text
-/

namespace ByteMachine.Json

variable {mode mode' : Mode} {c : Char} {text gap : List Char} {ts : List Token}

theorem lex_cons (h : mode.next c = some (ts, mode')) (rest : List Char) :
    lex mode (c :: rest) = (lex mode' rest).map (ts ++ ·) := by
  rw [lex, h]
  show (lex mode' rest).bind (fun more => some (ts ++ more)) = _
  exact Option.map_eq_bind.symm

/-- A character that completes nothing only changes the mode. -/
theorem lex_cons_nil (h : mode.next c = some ([], mode')) (rest : List Char) :
    lex mode (c :: rest) = lex mode' rest := by
  rw [lex_cons h]
  exact Option.map_id' ..

/-- Characters that are collected one after the other. -/
theorem lex_collect {collect : List Char → Mode} {p : Char → Bool} {cs : List Char}
    (hnext : ∀ seen c, p c = true → (collect seen).next c = some ([], collect (c :: seen)))
    (h : ∀ c ∈ cs, p c = true) (seen : List Char) :
    lex (collect seen) (cs ++ text) = lex (collect (cs.reverse ++ seen)) text := by
  induction cs generalizing seen with
  | nil => rfl
  | cons c cs ih =>
    rw [List.cons_append, lex_cons_nil (hnext seen c (h c List.mem_cons_self)),
      ih fun d hd => h d (List.mem_cons_of_mem _ hd)]
    simp

theorem lex_gap (h : ∀ c ∈ gap, isSpace c = true) (rest : List Char) :
    lex .between (gap ++ rest) = lex .between rest := by
  induction gap with
  | nil => rfl
  | cons c gap ih =>
    have hnext : Mode.between.next c = some ([], .between) := by
      rw [Mode.next, begin?, if_pos (h c List.mem_cons_self)]
    rw [List.cons_append, lex_cons_nil hnext]
    exact ih fun d hd => h d (List.mem_cons_of_mem _ hd)

/-! ### Numerals and words -/

/-- A text that goes on no numeral and no word. -/
def IsBoundary (text : List Char) : Prop :=
  ∀ c, text.head? = some c → isNumeric c = false ∧ c.isLower = false

/-- A token that is still open is ended by a boundary, and this is read as if it stood alone. -/
theorem lex_boundary {t? : Option Token} (hstop : mode.stop = t?.map ([·]))
    (hnext : ∀ c, isNumeric c = false → c.isLower = false →
      mode.next c = t?.bind fun t => (begin? c).map fun (ts, mode) => (t :: ts, mode))
    (htext : IsBoundary text) :
    lex mode text = t?.bind fun t => (lex .between text).map (t :: ·) := by
  cases text with
  | nil =>
    rw [lex, hstop]
    cases t? <;> rfl
  | cons c rest =>
    obtain ⟨hnumeric, hlower⟩ := htext c rfl
    rw [lex, lex, hnext c hnumeric hlower, Mode.next]
    cases t? with
    | none => rfl
    | some t =>
      cases begin? c with
      | none => rfl
      | some next =>
        obtain ⟨ts, mode'⟩ := next
        show (lex mode' rest).bind _ = _
        cases hrest : lex mode' rest <;> simp [hrest]

/-- Letters that are a word are read as its token. -/
theorem lex_letters {t : Token} {first : Char} (letters : List Char)
    (hfirst : Mode.between.next first = some ([], .word [first]))
    (hletters : letters.all Char.isLower = true)
    (htoken : wordToken? (first :: letters) = some t) (htext : IsBoundary text) :
    lex .between (first :: letters ++ text) = (lex .between text).map (t :: ·) := by
  have hnext : ∀ seen c, c.isLower = true →
      (Mode.word seen).next c = some ([], .word (c :: seen)) :=
    fun seen c hc => by rw [Mode.next, if_pos hc]
  have hend : ∀ seen, lex (.word seen) text =
      (wordToken? seen.reverse).bind fun t => (lex .between text).map (t :: ·) := by
    intro seen
    refine lex_boundary rfl (fun c _ hlower => ?_) htext
    rw [Mode.next, if_neg (by simp [hlower])]
    cases wordToken? seen.reverse <;> cases begin? c <;> rfl
  rw [List.cons_append, lex_cons_nil hfirst, lex_collect hnext (List.all_eq_true.1 hletters), hend]
  simp [htoken]

theorem isWhole_decimal (n : Nat) : isWhole (Text.decimal n) = true := by
  have hall : (Text.decimal n).all Char.isDigit = true :=
    List.all_eq_true.2 fun c hc => Text.isDigit_of_mem_decimal hc
  have hne : (Text.decimal n).isEmpty = false := List.isEmpty_eq_false_iff.2 Nat.toDigits_ne_nil
  rw [isWhole, isDigits, hall, hne, Bool.not_false, Bool.and_true, Bool.true_and, Bool.or_eq_true,
    decide_eq_true_eq, decide_eq_true_eq]
  rcases Nat.eq_zero_or_pos n with rfl | hpos
  · exact .inl rfl
  · exact .inr (Text.head?_decimal hpos)

theorem numberToken?_decimal (n : Nat) : numberToken? (Text.decimal n) = some (.nat n) := by
  unfold numberToken?
  rw [if_pos (isWhole_decimal n), Text.decimal, Nat.ofDigitChars_ten_toDigits]

theorem next_between_digit (h : c.isDigit = true) :
    Mode.between.next c = some ([], .number [c]) := by
  have hne : ∀ d : Char, d.isDigit = false → c ≠ d := by
    rintro d hd rfl
    rw [h] at hd
    exact nomatch hd
  have hspace : isSpace c = false := by
    simp [isSpace, hne ' ' rfl, hne '\t' rfl, hne '\n' rfl, hne '\r' rfl]
  rw [Mode.next, begin?, if_neg (by simp [hspace]), if_neg (hne '"' rfl), if_pos (by simp [h])]

theorem lex_decimal (n : Nat) (htext : IsBoundary text) :
    lex .between (Text.decimal n ++ text) = (lex .between text).map (.nat n :: ·) := by
  have hnext : ∀ seen c, c.isDigit = true →
      (Mode.number seen).next c = some ([], .number (c :: seen)) :=
    fun seen c hc => by rw [Mode.next, if_pos (by simp [isNumeric, hc])]
  have hend : ∀ seen, lex (.number seen) text =
      (numberToken? seen.reverse).bind fun t => (lex .between text).map (t :: ·) := by
    intro seen
    refine lex_boundary rfl (fun c hnumeric _ => ?_) htext
    rw [Mode.next, if_neg (by simp [hnumeric])]
    cases numberToken? seen.reverse <;> cases begin? c <;> rfl
  have htoken := numberToken?_decimal n
  have hdigits : ∀ c ∈ Text.decimal n, c.isDigit = true := fun _ => Text.isDigit_of_mem_decimal
  have hne : Text.decimal n ≠ [] := Nat.toDigits_ne_nil
  obtain ⟨first, digits, hcons⟩ := List.exists_cons_of_ne_nil hne
  rw [hcons] at hdigits htoken ⊢
  obtain ⟨hfirst, hdigits⟩ := List.forall_mem_cons.1 hdigits
  rw [List.cons_append, lex_cons_nil (next_between_digit hfirst), lex_collect hnext hdigits, hend]
  simp [htoken]

/-! ### Strings -/

theorem next_string_backslash (seen : List Piece) :
    (Mode.string seen).next '\\' = some ([], .escaped seen) := rfl

theorem lex_escaped {d : Char} (hd : d ≠ 'u') (hc : unescape? d = some c) (seen : List Piece)
    (rest : List Char) :
    lex (.string seen) ('\\' :: d :: rest) = lex (.string (.char c :: seen)) rest := by
  have hnext : (Mode.escaped seen).next d = some ([], .string (.char c :: seen)) := by
    rw [Mode.next, if_neg hd, hc]
    rfl
  rw [lex_cons_nil (next_string_backslash seen), lex_cons_nil hnext]

/-- A numeric escape has four digits. -/
theorem lex_unit {digits : List Char} {d₁ d₂ d₃ d₄ : Nat}
    (h : digits.map (Text.digit? 16) = [some d₁, some d₂, some d₃, some d₄]) (seen : List Piece)
    (rest : List Char) :
    lex (.string seen) ('\\' :: 'u' :: digits ++ rest) =
      lex (.string (.unit (((d₁ * 16 + d₂) * 16 + d₃) * 16 + d₄) :: seen)) rest := by
  have hdigit : ∀ {c d value}, Text.digit? 16 c = some d → ∀ missing,
      (Mode.unit seen (missing + 1) value).next c =
        some ([], .unit seen missing (value * 16 + d)) := by
    intro c d value hc missing
    rw [Mode.next, hc]
    rfl
  have hlast : ∀ {c d value}, Text.digit? 16 c = some d →
      (Mode.unit seen 0 value).next c = some ([], .string (.unit (value * 16 + d) :: seen)) := by
    intro c d value hc
    rw [Mode.next, hc]
    rfl
  simp only [List.map_eq_cons_iff, List.map_eq_nil_iff] at h
  obtain ⟨c₁, _, rfl, h₁, c₂, _, rfl, h₂, c₃, _, rfl, h₃, c₄, _, rfl, h₄, rfl⟩ := h
  have hopen : (Mode.escaped seen).next 'u' = some ([], .unit seen 3 0) := rfl
  show lex (.string seen) ('\\' :: 'u' :: c₁ :: c₂ :: c₃ :: c₄ :: rest) = _
  rw [lex_cons_nil (next_string_backslash seen), lex_cons_nil hopen, lex_cons_nil (hdigit h₁ 2),
    lex_cons_nil (hdigit h₂ 1), lex_cons_nil (hdigit h₃ 0), lex_cons_nil (hlast h₄)]
  simp

/-- A unit that is no half of a surrogate pair is a character of its own. -/
theorem joinPieces_unit {n : Nat} (h : n < 0xD800) (rest : List Piece) :
    joinPieces (.unit n :: rest) = (joinPieces rest).map (Char.ofNat n :: ·) := by
  have hhigh : isHighHalf n = false := by simp [isHighHalf]; omega
  have hlow : isLowHalf n = false := by simp [isLowHalf]; omega
  cases rest with
  | nil => simp [joinPieces, hhigh, hlow]
  | cons p rest =>
    cases p with
    | char c => simp [joinPieces, hhigh, hlow]
    | unit low =>
      rw [joinPieces, hhigh, hlow]
      rfl

/-- A character in a string literal is read as this piece, which denotes it. -/
structure ReadAs (c : Char) (piece : Piece) : Prop where
  lex_eq : ∀ seen rest, lex (.string seen) (escape c ++ rest) = lex (.string (piece :: seen)) rest
  join_eq : ∀ pieces, joinPieces (piece :: pieces) = (joinPieces pieces).map (c :: ·)

theorem readAs_of_unescape {d : Char} (hd : d ≠ 'u') (hc : unescape? d = some c)
    (hescape : escape c = ['\\', d]) : ReadAs c (.char c) := by
  refine ⟨fun seen rest => ?_, fun _ => rfl⟩
  rw [hescape]
  exact lex_escaped hd hc seen rest

theorem readAs_unit (hcontrol : c.toNat < 0x20)
    (hescape : escape c = ['\\', 'u'] ++ (Nat.toDigits 16 c.toNat).leftpad 4 '0') :
    ReadAs c (.unit c.toNat) := by
  have hdigits : ∀ n < 0x20, ((Nat.toDigits 16 n).leftpad 4 '0').map (Text.digit? 16) =
      [some 0, some 0, some (n / 16), some (n % 16)] := by decide
  refine ⟨fun seen rest => ?_, fun pieces => ?_⟩
  · rw [hescape]
    refine (lex_unit (hdigits _ hcontrol) seen rest).trans ?_
    rw [Nat.zero_mul, Nat.zero_add, Nat.div_add_mod']
  · rw [joinPieces_unit (by omega), Char.ofNat_toNat]

theorem readAs_self (hquote : c ≠ '"') (hback : c ≠ '\\') (hprinted : ¬c.toNat < 0x20)
    (hescape : escape c = [c]) : ReadAs c (.char c) := by
  refine ⟨fun seen rest => ?_, fun _ => rfl⟩
  have hnext : (Mode.string seen).next c = some ([], .string (.char c :: seen)) := by
    rw [Mode.next, if_neg hquote, if_neg hback, if_neg hprinted]
  rw [hescape]
  exact lex_cons_nil hnext rest

/-- Every character is read as one piece, whichever way it is escaped. -/
theorem exists_readAs (c : Char) : ∃ piece, ReadAs c piece := by
  have hofNat : ∀ {n : Nat}, c.toNat = n → c = Char.ofNat n := by
    rintro n rfl
    exact (Char.ofNat_toNat c).symm
  by_cases hquote : c = '"' ∨ c = '\\'
  · rcases hquote with rfl | rfl
    · exact ⟨_, readAs_of_unescape (d := '"') (by decide) rfl rfl⟩
    · exact ⟨_, readAs_of_unescape (d := '\\') (by decide) rfl rfl⟩
  by_cases hback : c.toNat = 0x08
  · obtain rfl := hofNat hback
    exact ⟨_, readAs_of_unescape (d := 'b') (by decide) rfl rfl⟩
  by_cases hfeed : c.toNat = 0x0C
  · obtain rfl := hofNat hfeed
    exact ⟨_, readAs_of_unescape (d := 'f') (by decide) rfl rfl⟩
  by_cases hline : c = '\n'
  · subst hline
    exact ⟨_, readAs_of_unescape (d := 'n') (by decide) rfl rfl⟩
  by_cases hreturn : c = '\r'
  · subst hreturn
    exact ⟨_, readAs_of_unescape (d := 'r') (by decide) rfl rfl⟩
  by_cases htab : c = '\t'
  · subst htab
    exact ⟨_, readAs_of_unescape (d := 't') (by decide) rfl rfl⟩
  have hescape : escape c = if c.toNat < 0x20 then
      ['\\', 'u'] ++ (Nat.toDigits 16 c.toNat).leftpad 4 '0' else [c] := by
    rw [escape, if_neg hquote, if_neg hback, if_neg hfeed, if_neg hline, if_neg hreturn,
      if_neg htab]
  by_cases hcontrol : c.toNat < 0x20
  · rw [if_pos hcontrol] at hescape
    exact ⟨_, readAs_unit hcontrol hescape⟩
  · rw [if_neg hcontrol] at hescape
    obtain ⟨hquote, hback⟩ := not_or.1 hquote
    exact ⟨_, readAs_self hquote hback hcontrol hescape⟩

theorem exists_pieces (content : List Char) :
    ∃ pieces, (∀ seen rest, lex (.string seen) (content.flatMap escape ++ rest) =
        lex (.string (pieces.reverse ++ seen)) rest) ∧ joinPieces pieces = some content := by
  induction content with
  | nil => exact ⟨[], fun _ _ => rfl, rfl⟩
  | cons c content ih =>
    obtain ⟨piece, hlex, hjoin⟩ := exists_readAs c
    obtain ⟨pieces, hlex', hjoin'⟩ := ih
    refine ⟨piece :: pieces, fun seen rest => ?_, ?_⟩
    · rw [List.flatMap_cons, List.append_assoc, hlex, hlex', List.reverse_cons, List.append_assoc,
        List.singleton_append]
    · rw [hjoin, hjoin']
      rfl

theorem lex_str (content : JsonText) (rest : List Char) :
    lex .between ((Token.str content).chars ++ rest) =
      (lex .between rest).map (.str content :: ·) := by
  have hopen : Mode.between.next '"' = some ([], .string []) := rfl
  have hclose : ∀ seen, (Mode.string seen).next '"' =
      some ([.str (joinPieces seen.reverse)], .between) := fun _ => rfl
  cases content with
  | none =>
    -- half of a surrogate pair alone denotes nothing
    show lex .between ('"' :: ('\\' :: 'u' :: ['d', '8', '0', '0'] ++ '"' :: rest)) = _
    have hdigits : ['d', '8', '0', '0'].map (Text.digit? 16) =
        [some 13, some 8, some 0, some 0] := by
      decide
    rw [lex_cons_nil hopen, lex_unit hdigits, lex_cons (hclose _)]
    rfl
  | some content =>
    obtain ⟨pieces, hlex, hjoin⟩ := exists_pieces content
    show lex .between ('"' :: (content.flatMap escape ++ ['"'] ++ rest)) = _
    rw [lex_cons_nil hopen, List.append_assoc, hlex, List.singleton_append, lex_cons (hclose _),
      List.append_nil, List.reverse_reverse, hjoin]
    rfl

/-! ### Tokens -/

namespace Token

/-- Whether only the character behind a token ends it. -/
def runsOn : Token → Bool
  | .null | .bool _ | .nat _ | .numeral _ => true
  | .openArray | .closeArray | .openObject | .closeObject | .colon | .comma | .str _ => false

end Token

theorem lex_mark {t : Token} (h : Mode.between.next c = some ([t], .between)) (text : List Char) :
    lex .between ([c] ++ text) = (lex .between text).map (t :: ·) :=
  lex_cons h text

/-- A token in front of other text is read, if the text does not go it on. -/
theorem lex_chars {t : Token} (hplain : ∀ spelling, t ≠ .numeral spelling)
    (hend : t.runsOn = true → IsBoundary text) :
    lex .between (t.chars ++ text) = (lex .between text).map (t :: ·) := by
  cases t with
  | openArray | closeArray | openObject | closeObject | colon | comma =>
    exact lex_mark rfl text
  | null => exact lex_letters ['u', 'l', 'l'] rfl rfl rfl (hend rfl)
  | bool b =>
    cases b with
    | true => exact lex_letters ['r', 'u', 'e'] rfl rfl rfl (hend rfl)
    | false => exact lex_letters ['a', 'l', 's', 'e'] rfl rfl rfl (hend rfl)
  | nat n => exact lex_decimal n (hend rfl)
  | numeral spelling => exact absurd rfl (hplain spelling)
  | str content => exact lex_str content text

/-- A token that does not run on begins with a boundary. -/
theorem isBoundary_chars {t : Token} (h : t.runsOn = false) (text : List Char) :
    IsBoundary (t.chars ++ text) := by
  intro c hc
  cases t with
  | openArray | closeArray | openObject | closeObject | colon | comma =>
    obtain rfl := Option.some.inj hc
    exact ⟨rfl, rfl⟩
  | null | bool b | nat n | numeral spelling => exact nomatch h
  | str content =>
    cases content <;>
    · obtain rfl := Option.some.inj hc
      exact ⟨rfl, rfl⟩

end ByteMachine.Json
