import ByteMachine.Proofs.Image.Format
import ByteMachine.Proofs.Image.RoundTrip
import ByteMachine.Proofs.Text.Trim

/-!
# Images from their own lines

An image keeps the line of every byte, without the blanks around it.  Such a line is read like the
line that it comes from.  It is not empty, and it neither has a line feed nor ends with a carriage
return, so these lines can be joined to a text in which they are found again.

## Main definitions

- `Image.IsOwn` — a line that says a byte, and has nothing of another line
- `Image.HasOwnLines` — an image with such a line for every byte
- `Image.Describes` — a text that is read as the image
- `Image.IsSelfDescribed` — an image that its lines describe, one by one and all together

## Main statements

- `Image.parseLine_trim` — a trimmed line is read like the line
- `Image.HasOwnLines.parseFrom` — the images of lines
- `Image.HasOwnLines.isSelfDescribed` — what these lines describe
- `Image.described_by_sources` — images of texts, and images of bytes
-/

namespace ByteMachine.Image

open Text (trim binary)

/-- The text is read as the image, with the same bytes from the same lines. -/
def Describes (text : List Char) (image : Image) : Prop :=
  parse (String.ofList text) = .ok image

/-- There is a line for every byte, and each line describes its byte.  Joined by line feeds, the
lines describe the image. -/
structure IsSelfDescribed (image : Image) : Prop where
  length_sources : image.sources.length = image.bytes.length
  each : ∀ (i : Nat) (b : Byte), image.bytes[i]? = some b →
    ∃ source, image.sources[i]? = some source ∧ Describes source ⟨[b], [source]⟩
  joined : Describes (['\n'].intercalate image.sources) image

/-- The line on its own is one with this byte, and there are no blanks around it. -/
structure IsOwn (b : Byte) (source : List Char) : Prop where
  parseLine : parseLine source = .ok (some b)
  trimmed : trim source = source
  no_feed : '\n' ∉ source

/-- The bytes of the image have lines of their own, one beside the other. -/
def HasOwnLines (image : Image) : Prop :=
  List.Forall₂ IsOwn image.bytes image.sources

variable {line source : List Char} {ls sources : List (List Char)} {b : Byte} {bytes : List Byte}
  {image image' : Image} {number : Nat}

/-! ### Trimmed lines -/

theorem isComment_of_isBlank (c : Char) (h : Text.isBlank c = true) : isComment c = false := by
  rw [isComment, decide_eq_false_iff_not]
  rintro rfl
  exact absurd h (by decide)

theorem code_trim (line : List Char) : code (trim line) = code line :=
  Text.trim_before_trim isComment_of_isBlank line

/-- What is read of a line depends on what it says alone. -/
theorem parseLine_trim (line : List Char) : parseLine (trim line) = parseLine line := by
  have hcode : trim (Text.before isComment (trim line)) = trim (Text.before isComment line) :=
    code_trim line
  rw [parseLine, hcode, parseLine]

theorem isOwn_trim (h : parseLine line = .ok (some b)) (hfeed : '\n' ∉ line) :
    IsOwn b (trim line) :=
  ⟨(parseLine_trim line).trans h, Text.trim_trim line,
    fun hmem => hfeed (Text.mem_of_mem_trim hmem)⟩

/-- The digits of a byte are a line with this byte. -/
theorem isOwn_binary (b : Byte) : IsOwn b (binary 8 b.toNat) := by
  have hword := isWord_binary b
  have hnone : ∀ c ∈ Text.before isComment [], Text.isBlank c = true := fun c hc => nomatch hc
  have hline := parseLine_binary b hnone
  rw [List.append_nil] at hline
  exact ⟨hline, Text.trim_word hword.no_blank, hword.not_mem (by decide)⟩

/-! ### Images with lines of their own -/

namespace HasOwnLines

theorem empty : empty.HasOwnLines := .nil

/-- A byte is put into an image together with its line. -/
theorem push (h : image.HasOwnLines) (hown : IsOwn b source) :
    (image.push b source).HasOwnLines :=
  List.rel_append h (.cons hown .nil)

theorem parseFrom (h : image.HasOwnLines) (hfeed : ∀ line ∈ ls, '\n' ∉ line)
    (hparse : parseFrom image number ls = .ok image') : image'.HasOwnLines := by
  induction ls generalizing image number with
  | nil =>
    obtain rfl := Except.ok.inj hparse
    exact h
  | cons line rest ih =>
    obtain ⟨hline, hrest⟩ := List.forall_mem_cons.1 hfeed
    rw [Image.parseFrom] at hparse
    cases hfound : parseLine line with
    | error cause =>
      rw [hfound] at hparse
      cases hparse
    | ok found =>
      rw [hfound] at hparse
      cases found with
      | none => exact ih h hrest hparse
      | some b => exact ih (h.push (isOwn_trim hfound hline)) hrest hparse

theorem ofBytes (bytes : List Byte) : (ofBytes bytes).HasOwnLines := by
  rw [HasOwnLines, Image.ofBytes, List.forall₂_map_right_iff, List.forall₂_same]
  exact fun b _ => isOwn_binary b

theorem of_parse {text : String} (h : parse text = .ok image) : image.HasOwnLines :=
  empty.parseFrom (fun _ hline => Text.not_mem_of_mem_lines hline) h

end HasOwnLines

/-! ### Reading the lines again -/

/-- Lines of their own bring back their bytes and themselves. -/
theorem parseFrom_sources (h : List.Forall₂ IsOwn bytes sources) (image : Image) (number : Nat) :
    parseFrom image number sources = .ok ⟨image.bytes ++ bytes, image.sources ++ sources⟩ := by
  induction h generalizing image number with
  | nil => rw [parseFrom, List.append_nil, List.append_nil]
  | @cons b source bytes sources hown hrest ih =>
    rw [parseFrom, hown.parseLine]
    show parseFrom (image.push b (trim source)) (number + 1) sources = _
    rw [hown.trimmed, ih, push, List.append_assoc, List.append_assoc]
    rfl

/-- A line with a byte is not empty, and there is nothing at its end that could belong to the ending
of a line. -/
theorem IsOwn.ending (h : IsOwn b source) : source ≠ [] ∧ source.getLast? ≠ some '\r' := by
  constructor
  · intro hnil
    have hread := h.parseLine
    rw [hnil] at hread
    exact nomatch hread
  · intro hlast
    rw [← h.trimmed] at hlast
    exact absurd (Text.isBlank_of_getLast?_trim hlast) (by decide)

theorem exists_isOwn_of_mem (h : List.Forall₂ IsOwn bytes sources) (hmem : source ∈ sources) :
    ∃ b, IsOwn b source := by
  induction h with
  | nil => exact absurd hmem List.not_mem_nil
  | @cons b first bytes sources hown hrest ih =>
    rcases List.mem_cons.1 hmem with rfl | hmem
    · exact ⟨b, hown⟩
    · exact ih hmem

theorem HasOwnLines.describes (h : image.HasOwnLines) :
    Describes (['\n'].intercalate image.sources) image := by
  have hfeed : ∀ line ∈ image.sources, '\n' ∉ line := by
    intro line hline
    obtain ⟨b, hown⟩ := exists_isOwn_of_mem h hline
    exact hown.no_feed
  have hending : ∀ line ∈ image.sources, line ≠ [] ∧ line.getLast? ≠ some '\r' := by
    intro line hline
    obtain ⟨b, hown⟩ := exists_isOwn_of_mem h hline
    exact hown.ending
  rw [Describes, parse, String.toList_ofList, Text.lines_intercalate hfeed hending,
    parseFrom_sources h]
  rfl

/-- The line of a byte alone is the case of one line. -/
theorem IsOwn.describes (h : IsOwn b source) : Describes source ⟨[b], [source]⟩ := by
  have hone : HasOwnLines ⟨[b], [source]⟩ := .cons h .nil
  have hjoined := hone.describes
  rwa [List.intercalate_singleton] at hjoined

theorem HasOwnLines.isSelfDescribed (h : image.HasOwnLines) : image.IsSelfDescribed := by
  have hlength : image.bytes.length = image.sources.length := List.Forall₂.length_eq h
  refine ⟨hlength.symm, fun i b hb => ?_, h.describes⟩
  obtain ⟨hi, rfl⟩ := List.getElem?_eq_some_iff.1 hb
  have hown : IsOwn image.bytes[i] image.sources[i] := List.Forall₂.get h hi (hlength ▸ hi)
  exact ⟨_, List.getElem?_eq_getElem _, hown.describes⟩

/-! ### Images -/

/-- **An image is described by its own lines**, be it the image of a text or of bytes.  There are as
many lines as bytes, each line on its own is read as the one byte at its place, and the lines joined
by line feeds are read as the same image, with these bytes and these lines. -/
theorem described_by_sources :
    (∀ text image, parse text = .ok image → image.IsSelfDescribed) ∧
    ∀ program, (ofBytes program).bytes = program ∧ (ofBytes program).IsSelfDescribed :=
  ⟨fun _ _ h => (HasOwnLines.of_parse h).isSelfDescribed, fun program =>
    ⟨rfl, (HasOwnLines.ofBytes program).isSelfDescribed⟩⟩

/-- A text with blanks of several kinds, two endings of lines, and a stray carriage return. -/
def untidy : String :=
  "\t10 # a\rb \r\n\u2003\r\n# none\n\u00A0\r1\r"

/-- What is left of its lines is read as the same two bytes. -/
theorem described_by_sources_untidy :
    let image : Image := ⟨[2, 1], ["10 # a\rb".toList, ['1']]⟩
    parse untidy = .ok image ∧ Describes "10 # a\rb\n1".toList image ∧
      Describes ['1'] ⟨[1], [['1']]⟩ := by
  intro image
  have hparse : parse untidy = .ok image := by decide +kernel
  obtain ⟨-, heach, hjoined⟩ := described_by_sources.1 untidy image hparse
  obtain ⟨source, hsource, hline⟩ := heach 1 1 rfl
  obtain rfl : source = ['1'] := (Option.some.inj hsource).symm
  exact ⟨hparse, hjoined, hline⟩

end ByteMachine.Image
