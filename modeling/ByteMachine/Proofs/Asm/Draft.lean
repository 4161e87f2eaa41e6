import ByteMachine.Proofs.Asm.TwoPass

/-!
# What a draft holds

The assembler reads the source once, and writes a zero where an address is not known yet.  What its
draft holds after some lines is described by the entries of these lines alone: the labels with their
addresses, the places to fill in, and the bytes with zeros.

## Main definitions

- `Asm.Entry.hole?` — the byte of an entry that waits for a label
- `Asm.Entry.skeleton` — the bytes of an entry with a zero for its label
- `Asm.Draft.add` — a draft with the entry of one more line

## Main statements

- `Asm.Draft.addLine_eq` — one line of the source
- `Asm.draft_eq` — all lines of a source
- `Asm.code_foldl_add`, `Asm.patches_foldl_add`, `Asm.lookup_foldl_add` — what the draft holds then
-/

namespace ByteMachine

namespace Asm

/-! ### What waits for a label -/

/-- The byte of an item that waits for a label, and the label. -/
def Item.hole? (item : Item) : Option (Nat × Label) :=
  match item.immediate? with
  | some (offset, .label name) => some (offset, name)
  | _ => none

/-- The bytes of an item, with a zero in the place of a label. -/
def Item.skeleton (item : Item) : List Byte :=
  match item.immediate? with
  | some (offset, .value b) => item.frame.set offset b
  | _ => item.frame

/-- The byte of an entry that waits for a label, and the label. -/
def Entry.hole? (e : Entry) : Option (Nat × Label) :=
  e.item.bind Item.hole?

/-- The bytes of an entry, with a zero in the place of a label. -/
def Entry.skeleton (e : Entry) : List Byte :=
  match e.item with
  | some item => item.skeleton
  | none => []

/-- The patch of an entry whose bytes begin at `start`. -/
def Entry.patch? (e : Entry) (start : Nat) : Option Patch :=
  e.hole?.map fun (offset, name) => ⟨start + offset, name, e.line⟩

/-- The patches of entries whose bytes begin at `start`. -/
def patchesFrom (start : Nat) : List Entry → List Patch
  | [] => []
  | e :: rest => (e.patch? start).toList ++ patchesFrom (start + e.width) rest

theorem Item.hole?_eq_some_iff {item : Item} {offset : Nat} {name : Label} :
    item.hole? = some (offset, name) ↔ item.immediate? = some (offset, .label name) := by
  unfold Item.hole?
  split
  · rename_i o n h
    simp [h]
  · rename_i h
    simpa using fun h' => h offset name h'

/-- What waits for a label is one of the item's own bytes. -/
theorem Item.hole?_lt {item : Item} {offset : Nat} {name : Label}
    (h : item.hole? = some (offset, name)) : offset < item.width := by
  rw [hole?_eq_some_iff] at h
  cases item with
  | data value =>
    obtain ⟨rfl, -⟩ : 0 = offset ∧ value = .label name := by simpa [immediate?] using h
    exact Nat.zero_lt_one
  | load reg value =>
    obtain ⟨rfl, -⟩ : 2 = offset ∧ value = .label name := by simpa [immediate?] using h
    exact Nat.lt_succ_self 2
  | instr i => simp [immediate?] at h

theorem Entry.hole?_eq_some_iff {e : Entry} {offset : Nat} {name : Label} :
    e.hole? = some (offset, name) ↔
      ∃ item, e.item = some item ∧ item.immediate? = some (offset, .label name) := by
  simp [Entry.hole?, Option.bind_eq_some_iff, Item.hole?_eq_some_iff]

theorem Entry.hole?_lt {e : Entry} {offset : Nat} {name : Label}
    (h : e.hole? = some (offset, name)) : offset < e.width := by
  obtain ⟨item, hitem, h⟩ := hole?_eq_some_iff.1 h
  rw [Entry.width, hitem]
  exact Item.hole?_lt (Item.hole?_eq_some_iff.2 h)

@[simp]
theorem Item.length_skeleton (item : Item) : item.skeleton.length = item.width := by
  unfold Item.skeleton
  split <;> simp [length_frame]

@[simp]
theorem Entry.length_skeleton (e : Entry) : e.skeleton.length = e.width := by
  rcases e with ⟨line, label, _ | item⟩
  · rfl
  · exact item.length_skeleton

@[simp]
theorem length_flatMap_skeleton (es : List Entry) :
    (es.flatMap Entry.skeleton).length = extent es := by
  induction es with
  | nil => rfl
  | cons e rest ih => simp [ih]

/-- Without a label an item has its bytes; with one, they are the skeleton with the byte of the
label in the waiting place. -/
theorem Item.encode_eq (address? : Label → Option Nat) (item : Item) :
    item.encode address? =
      match item.hole? with
      | none => .ok item.skeleton
      | some (offset, name) => (labelByte address? name).map (item.skeleton.set offset) := by
  rcases item with (b | name) | ⟨reg, b | name⟩ | i <;> rfl

theorem Entry.encode_eq (address? : Label → Option Nat) (e : Entry) :
    e.encode address? =
      match e.hole? with
      | none => .ok e.skeleton
      | some (offset, name) =>
        (onLine e.line (labelByte address? name)).map (e.skeleton.set offset) := by
  rcases e with ⟨line, label, _ | item⟩
  · rfl
  · simp only [Entry.encode, Item.encode_eq, Entry.hole?, Option.bind_some, Entry.skeleton]
    split
    · rfl
    · rename_i offset name _
      cases labelByte address? name <;> rfl

/-! ### The first pass -/

namespace Draft

/-- The draft with the entry of one more line. -/
def add (d : Draft) (e : Entry) : Draft where
  labels := e.label.toList.map (·, d.code.length) ++ d.labels
  patches := d.patches ++ (e.patch? d.code.length).toList
  code := d.code ++ e.skeleton

/-- The labels of a draft, latest first. -/
def names (d : Draft) : List Label :=
  d.labels.map Prod.fst

@[simp]
theorem names_add (d : Draft) (e : Entry) : (d.add e).names = e.label.toList ++ d.names := by
  cases h : e.label <;> simp [names, add, h]

@[simp]
theorem length_code_add (d : Draft) (e : Entry) :
    (d.add e).code.length = d.code.length + e.width := by
  simp [add]

theorem isSome_lookup_iff (d : Draft) (name : Label) :
    (d.labels.lookup name).isSome ↔ name ∈ d.names := by
  rw [List.lookup_isSome_iff, names, List.mem_map]
  constructor
  · rintro ⟨p, hp, h⟩
    exact ⟨p, hp, (eq_of_beq h).symm⟩
  · rintro ⟨p, hp, rfl⟩
    exact ⟨p, hp, beq_self_eq_true _⟩

/-- A line without label and item changes nothing. -/
theorem add_blank (d : Draft) (line : Nat) : d.add ⟨line, none, none⟩ = d := by
  simp [add, Entry.skeleton, Entry.patch?, Entry.hole?]

/-- A label and the item behind it may be added one after the other. -/
theorem add_label_add_item (d : Draft) (line : Nat) (label : Option Label) (item : Option Item) :
    (d.add ⟨line, label, none⟩).add ⟨line, none, item⟩ = d.add ⟨line, label, item⟩ := by
  simp [add, Entry.skeleton, Entry.patch?, Entry.hole?]

theorem define_eq (d : Draft) (name : Label) (line : Nat) :
    d.define name =
      if name ∈ d.names then .error (.repeatedLabel name)
      else .ok (d.add ⟨line, some name, none⟩) := by
  simp only [define, isSome_lookup_iff]
  simp [add, Entry.skeleton, Entry.patch?, Entry.hole?]

theorem defineLabel_eq (d : Draft) (label : Option (List Char)) (line : Nat) :
    d.defineLabel label =
      (readLabel d.names label).map fun label => d.add ⟨line, label, none⟩ := by
  cases label with
  | none => rw [defineLabel, readLabel, Except.map, add_blank]
  | some written =>
    rw [defineLabel, readLabel]
    cases labelName written with
    | error cause => rfl
    | ok name =>
      show d.define name = _
      rw [define_eq d name line]
      by_cases h : name ∈ d.names
      · simp [h, Except.map, bind, Except.bind]
      · simp [h, Except.map, bind, Except.bind]

theorem emit_eq (d : Draft) (line : Nat) (item : Item) :
    d.emit line item = d.add ⟨line, none, some item⟩ := by
  unfold emit add Entry.patch? Entry.hole? Entry.skeleton Item.hole? Item.skeleton
  rcases h : item.immediate? with _ | ⟨offset, b | name⟩
  · simp [h]
  · have hset : (d.code ++ item.frame).set (d.code.length + offset) b =
        d.code ++ item.frame.set offset b := by
      rw [List.set_append_right _ _ (Nat.le_add_right _ _), Nat.add_sub_cancel_left]
    simp [h, fill, hset]
  · simp [h, fill]

theorem emitText_eq (d : Draft) (line : Nat) (text : List Char) :
    d.emitText line text = (readItem text).map fun item => d.add ⟨line, none, item⟩ := by
  unfold emitText readItem
  split
  · rw [Except.map, add_blank]
  · cases item text with
    | error cause => rfl
    | ok item => exact congrArg _ (d.emit_eq line item)

/-- One line of the source extends the draft by the entry that the first pass reads. -/
theorem addLine_eq (d : Draft) (line : List Char) (number : Nat) :
    d.addLine line number = (readLine d.names line number).map d.add := by
  unfold addLine readLine
  rcases splitLabel (statement line) with ⟨written, text⟩
  -- the label is settled first, and the item starts from the draft that knows it
  simp only [defineLabel_eq d written number]
  cases readLabel d.names written with
  | error cause => rfl
  | ok label =>
    show onLine number ((d.add ⟨number, label, none⟩).emitText number text) = _
    rw [emitText_eq]
    cases readItem text with
    | error cause => rfl
    | ok item => exact congrArg _ (d.add_label_add_item number label item)

/-- The lines of the source extend the draft by the entries that the first pass reads. -/
theorem foldlM_addLine (d : Draft) (lines : List (List Char × Nat)) :
    lines.foldlM (fun d (line, number) => d.addLine line number) d =
      (readLines d.names lines).map fun es => es.foldl add d := by
  induction lines generalizing d with
  | nil => rfl
  | cons first rest ih =>
    obtain ⟨line, number⟩ := first
    show (d.addLine line number >>= fun d => rest.foldlM _ d) = _
    rw [addLine_eq, readLines]
    cases readLine d.names line number with
    | error cause => rfl
    | ok e =>
      show rest.foldlM _ (d.add e) = _
      rw [ih, names_add]
      show _ = Except.map _ (readLines _ rest >>= fun es => pure (e :: es))
      cases readLines (e.label.toList ++ d.names) rest <;> rfl

end Draft

/-- The draft of a source holds what the first pass reads. -/
theorem draft_eq (source : List Char) :
    draft source =
      (readLines [] ((Text.lines source).zipIdx 1)).map fun es => es.foldl Draft.add .empty :=
  Draft.foldlM_addLine .empty _

/-! ### What a draft holds -/

theorem code_foldl_add (d : Draft) (es : List Entry) :
    (es.foldl Draft.add d).code = d.code ++ es.flatMap Entry.skeleton := by
  induction es generalizing d with
  | nil => simp
  | cons e rest ih => simp [ih, Draft.add]

theorem patches_foldl_add (d : Draft) (es : List Entry) :
    (es.foldl Draft.add d).patches = d.patches ++ patchesFrom d.code.length es := by
  induction es generalizing d with
  | nil => simp [patchesFrom]
  | cons e rest ih =>
    rw [List.foldl_cons, ih, Draft.length_code_add, patchesFrom]
    simp [Draft.add]

theorem readLine_eq_ok_iff {seen : List Label} {line : List Char} {number : Nat} {e : Entry} :
    readLine seen line number = .ok e ↔
      e.line = number ∧ readLabel seen (splitLabel (statement line)).1 = .ok e.label ∧
        readItem (splitLabel (statement line)).2 = .ok e.item := by
  simp only [readLine, onLine_eq_ok_iff, bind_eq_ok_iff, pure_eq_ok_iff]
  constructor
  · rintro ⟨label, hlabel, item, hitem, rfl⟩
    exact ⟨rfl, hlabel, hitem⟩
  · rintro ⟨rfl, hlabel, hitem⟩
    exact ⟨_, hlabel, _, hitem, rfl⟩

/-- A label that the first pass accepts is not among those before. -/
theorem not_mem_of_readLine {seen : List Label} {line : List Char} {number : Nat} {e : Entry}
    {name : Label} (h : readLine seen line number = .ok e) (hname : e.label = some name) :
    name ∉ seen := by
  obtain ⟨-, hlabel, -⟩ := readLine_eq_ok_iff.1 h
  rw [hname] at hlabel
  cases hwritten : (splitLabel (statement line)).1 with
  | none => simp [hwritten, readLabel] at hlabel
  | some written =>
    rw [hwritten] at hlabel
    simp only [readLabel, bind_eq_ok_iff, guard_eq_ok_iff] at hlabel
    obtain ⟨name', -, hnew, heq⟩ := hlabel
    obtain rfl : name' = name := by simpa using heq
    exact hnew

/-- The table of a draft gives every label the address of the two-pass assembler.  The table is
searched from its end and the entries from their beginning, which makes no difference since no
label is defined twice. -/
theorem lookup_foldl_add {d : Draft} {lines : List (List Char × Nat)} {es : List Entry}
    (h : readLines d.names lines = .ok es) (name : Label) :
    (es.foldl Draft.add d).labels.lookup name =
      (d.labels.lookup name).or ((address? es name).map (d.code.length + ·)) := by
  induction lines generalizing d es with
  | nil =>
    obtain rfl : [] = es := by simpa [readLines] using h
    simp
  | cons first rest ih =>
    obtain ⟨line, number⟩ := first
    simp only [readLines, bind_eq_ok_iff, pure_eq_ok_iff] at h
    obtain ⟨e, he, es, hes, rfl⟩ := h
    rw [← Draft.names_add] at hes
    rw [List.foldl_cons, ih hes, address?_cons, Draft.length_code_add]
    -- a label of this line stands in front of the table now, and was not in it before
    by_cases hname : e.label = some name
    · have hnew : d.labels.lookup name = none := by
        have := not_mem_of_readLine he hname
        rwa [← Draft.isSome_lookup_iff, Option.not_isSome_iff_eq_none] at this
      simp [Draft.add, hname, hnew]
    · have hrest : (d.add e).labels.lookup name = d.labels.lookup name := by
        cases hlabel : e.label with
        | none => simp [Draft.add, hlabel]
        | some other =>
          have hne : (name == other) = false :=
            beq_eq_false_iff_ne.2 fun heq => hname (heq ▸ hlabel)
          simp [Draft.add, hlabel, List.lookup_cons, hne]
      rw [hrest, if_neg hname]
      simp [Function.comp_def, Nat.add_assoc]

end Asm

end ByteMachine
