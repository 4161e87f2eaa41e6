import ByteMachine.Proofs.Command.Run
import ByteMachine.Proofs.Disk.Sibling
import ByteMachine.Proofs.Image.RoundTrip

/-!
# Running a source file and running its image

A source file can be run as it is, or be assembled into an image file that is run afterwards.  The
image lies beside the source and gives the program back that was assembled, so both runs execute the
same bytes.  They differ in one complaint only, which names the file that has no program.

## Main definitions

- `Command.reportFrom` — the report of a run, once the bytes of the program file are known

## Main statements

- `Command.perform_run_of_source`, `Command.perform_run_of_image` — the two ways to the bytes
- `Command.perform_asm` — what assembling leaves
- `Command.run_assembled` — both ways give the same run
-/

namespace ByteMachine

/-! ### Operations on files as steps of a computation -/

theorem FileTree.run_readText (tree : FileTree) (path : String) :
    (FileTree.disk.readText path).run tree = pure (tree.readText path, tree) :=
  rfl

theorem FileTree.run_writeText {tree new : FileTree} {path text : String}
    (h : tree.writeText path text = .ok new) :
    (FileTree.disk.writeText path text).run tree = (.ok (), new) := by
  simp only [FileTree.disk, StateT.run_bind, StateT.run_get, pure_bind, h]
  rfl

namespace Command

variable {tree new : FileTree} {path source text output : String} {program : List Byte}
  {limit : Option Nat} {tracing dumpState : Bool}

/-! ### The two endings -/

theorem isEnding_sourceEnding : Path.IsEnding sourceEnding :=
  ⟨by decide, by decide, by decide⟩

theorem isEnding_imageEnding : Path.IsEnding imageEnding :=
  ⟨by decide, by decide, by decide⟩

/-- A source file and its image file differ in the ending. -/
theorem exists_stem (h : isSource path = true) :
    ∃ stem, path = String.ofList (stem ++ sourceEnding) ∧
      imagePath path = String.ofList (stem ++ imageEnding) := by
  obtain ⟨stem, hstem⟩ := List.isSuffixOf_iff_suffix.1 h
  refine ⟨stem, ?_, ?_⟩
  · rw [hstem, String.ofList_toList]
  · rw [imagePath, if_pos h, ← hstem, List.length_append, Nat.add_sub_cancel, List.take_left]

theorem isSource_imagePath (hpath : isSource path = true) : isSource (imagePath path) = false := by
  obtain ⟨stem, -, himage⟩ := exists_stem hpath
  rw [himage, Bool.eq_false_iff]
  intro h
  rw [isSource, String.toList_ofList, List.isSuffixOf_iff_suffix] at h
  -- endings of the same text that are equally long are the same
  have hends : sourceEnding = imageEnding :=
    (List.suffix_of_suffix_length_le h (List.suffix_append stem imageEnding) (by decide)).eq_of_length
      (by decide)
  exact absurd hends (by decide)

/-- Where a source file can be read, its image file can be written, unless a directory has its
name. -/
theorem exists_writeText_imagePath (hpath : isSource path = true)
    (hsource : tree.readText path = .ok source)
    (hfree : tree.readText (imagePath path) ≠ .error .isDirectory) (text : String) :
    ∃ new, tree.writeText (imagePath path) text = .ok new := by
  obtain ⟨stem, hstem, himage⟩ := exists_stem hpath
  rw [hstem] at hsource
  rw [himage] at hfree ⊢
  exact FileTree.exists_writeText isEnding_sourceEnding isEnding_imageEnding (by decide) hsource
    hfree text

/-! ### The commands -/

/-- The report of a run, once the bytes of the program file are known. -/
def reportFrom (path : String) (program : List Byte) (limit : Option Nat)
    (tracing dumpState : Bool) : Report :=
  if program = [] then .failure Report.unusable "" s!"{path} contains no program bytes"
  else execute program limit tracing dumpState

theorem reportFrom_of_ne_nil (path : String) (h : program ≠ []) :
    reportFrom path program limit tracing dumpState =
      execute program limit tracing dumpState := by
  rw [reportFrom, if_neg h]

/-- The path stands in the complaint about an empty program and nowhere else. -/
theorem stdout_reportFrom (path other : String) :
    (reportFrom path program limit tracing dumpState).stdout =
      (reportFrom other program limit tracing dumpState).stdout := by
  unfold reportFrom
  split <;> rfl

theorem exit_reportFrom (path other : String) :
    (reportFrom path program limit tracing dumpState).exit =
      (reportFrom other program limit tracing dumpState).exit := by
  unfold reportFrom
  split <;> rfl

/-- Programs that are empty or do not fit into memory are refused before anything is executed. -/
theorem reportFrom_of_unusable (path : String)
    (h : program = [] ∨ addressCount < program.length) :
    (reportFrom path program limit tracing dumpState).exit = Report.unusable ∧
      (reportFrom path program limit tracing dumpState).stdout = "" := by
  rcases h with h | h
  · rw [reportFrom, if_pos h]
    exact ⟨rfl, rfl⟩
  · have hne : program ≠ [] := List.ne_nil_of_length_pos (Nat.zero_lt_of_lt h)
    rw [reportFrom_of_ne_nil path hne, execute, Cpu.boot_of_lt h]
    exact ⟨rfl, rfl⟩

theorem run_readSource (hsource : tree.readText path = .ok source)
    (hassemble : assemble source = .ok program) :
    (readSource FileTree.disk path).run tree = (.ok program, tree) := by
  rw [readSource, StateT.run_bind, FileTree.run_readText, pure_bind, hsource]
  simp only [hassemble]
  rfl

theorem run_readImage {image : Image} (htext : tree.readText path = .ok text)
    (himage : Image.parse text = .ok image) :
    (readImage FileTree.disk path).run tree = (.ok image.bytes, tree) := by
  have hload : (Image.load FileTree.disk path).run tree = (.ok image, tree) := by
    rw [Image.load, StateT.run_bind, FileTree.run_readText, htext, ← himage]
    rfl
  rw [readImage, StateT.run_bind, hload]
  rfl

theorem perform_run_of_source (hpath : isSource path = true)
    (hsource : tree.readText path = .ok source) (hassemble : assemble source = .ok program) :
    (perform FileTree.disk (.run path limit tracing dumpState)).run tree =
      (.report (reportFrom path program limit tracing dumpState), tree) := by
  rw [perform, readProgram, if_pos hpath, StateT.run_bind, StateT.run_bind,
    run_readSource hsource hassemble]
  cases program <;> rfl

theorem perform_run_of_image {image : Image} (hpath : isSource path = false)
    (htext : tree.readText path = .ok text) (himage : Image.parse text = .ok image) :
    (perform FileTree.disk (.run path limit tracing dumpState)).run tree =
      (.report (reportFrom path image.bytes limit tracing dumpState), tree) := by
  rw [perform, readProgram, if_neg (Bool.eq_false_iff.1 hpath), StateT.run_bind, StateT.run_bind,
    run_readImage htext himage]
  cases image.bytes <;> rfl

theorem run_save {bytes : List Byte} (h : tree.writeText path (Image.write bytes) = .ok new) :
    (Image.save FileTree.disk path (Image.ofBytes bytes)).run tree = (.ok (), new) := by
  rw [Image.save, Image.ofBytes, StateT.run_bind, FileTree.run_writeText h]
  rfl

theorem run_assembleTo (hsource : tree.readText path = .ok source)
    (hassemble : assemble source = .ok program)
    (hwrite : tree.writeText output (Image.write program) = .ok new) :
    (assembleTo FileTree.disk path output).run tree =
      (.success s!"{path} -> {output} ({program.length} bytes)\n", new) := by
  rw [assembleTo, StateT.run_bind, run_readSource hsource hassemble]
  show StateT.run (Image.save FileTree.disk output (Image.ofBytes program) >>= _) tree = _
  rw [StateT.run_bind, run_save hwrite]
  rfl

theorem perform_asm (hsource : tree.readText path = .ok source)
    (hassemble : assemble source = .ok program)
    (hwrite : tree.writeText (imagePath path) (Image.write program) = .ok new) :
    (perform FileTree.disk (.asm path none)).run tree =
      (.report (.success s!"{path} -> {imagePath path} ({program.length} bytes)\n"), new) := by
  rw [perform, Option.getD_none, StateT.run_bind, run_assembleTo hsource hassemble hwrite]
  rfl

/-- **A source file runs like its image.**  Let a source be stored in a file and be assembled
without an error.  The command for assembling writes the image beside the source, unless a directory
stands there, and the runs of both files show the same and have the same exit status, for every
limit and with or without trace lines and state.  In particular, programs that are empty or do not
fit into memory are refused both times.  The complaint about an empty program names the file.  For
any other program the whole reports are the same, and both runs execute the assembled bytes, so that
one of them ends if the other does. -/
theorem run_assembled (hpath : isSource path = true) (hsource : tree.readText path = .ok source)
    (hassemble : assemble source = .ok program)
    (hfree : tree.readText (imagePath path) ≠ .error .isDirectory)
    (limit : Option Nat) (tracing dumpState : Bool) :
    ∃ assembled direct image,
      (perform FileTree.disk (.asm path none)).run tree =
        (.report (.success s!"{path} -> {imagePath path} ({program.length} bytes)\n"), assembled) ∧
      (perform FileTree.disk (.run path limit tracing dumpState)).run tree =
        (.report direct, tree) ∧
      (perform FileTree.disk (.run (imagePath path) limit tracing dumpState)).run assembled =
        (.report image, assembled) ∧
      direct.stdout = image.stdout ∧ direct.exit = image.exit ∧
      (program = [] ∨ 256 < program.length → direct.exit = 2 ∧ direct.stdout = "") ∧
      (program ≠ [] → direct = execute program limit tracing dumpState ∧ image = direct) := by
  obtain ⟨assembled, hwrite⟩ :=
    exists_writeText_imagePath hpath hsource hfree (Image.write program)
  -- the text of the image is another one than the source, but it holds the same bytes
  obtain ⟨image, hparse, hbytes⟩ := (Image.holds_write program).parse
  have hback := FileTree.readText_of_writeText hwrite
  have himage : (perform FileTree.disk (.run (imagePath path) limit tracing dumpState)).run
      assembled = _ := perform_run_of_image (isSource_imagePath hpath) hback hparse
  rw [hbytes] at himage
  refine ⟨assembled, _, _, perform_asm hsource hassemble hwrite,
    perform_run_of_source hpath hsource hassemble, himage, stdout_reportFrom .., exit_reportFrom ..,
    reportFrom_of_unusable path, fun hne => ?_⟩
  rw [reportFrom_of_ne_nil path hne, reportFrom_of_ne_nil _ hne]
  exact ⟨rfl, rfl⟩

/-- A program whose last byte is the opcode of an instruction that is cut off. -/
def cutOffSource : String :=
  "  LDI R0,8\n  PRN R0\n  HLT\n  DB 0x82\n"

/-- A folder with that source. -/
def sourceFolder : FileTree :=
  .ofFiles [] [("print.asm", .text cutOffSource)]

theorem run_assembled_cutOffSource :
    ∃ assembled report,
      (perform FileTree.disk (.asm "print.asm" none)).run sourceFolder =
        (.report (.success "print.asm -> print.ls8 (7 bytes)\n"), assembled) ∧
      (perform FileTree.disk (.run "print.asm" none true true)).run sourceFolder =
        (.report report, sourceFolder) ∧
      (perform FileTree.disk (.run "print.ls8" none true true)).run assembled =
        (.report report, assembled) := by
  have hsource : sourceFolder.readText "print.asm" = .ok cutOffSource := by decide +kernel
  have hassemble : assemble cutOffSource = .ok [130, 0, 8, 71, 0, 1, 130] := by decide +kernel
  have hfree : sourceFolder.readText (imagePath "print.asm") ≠ .error .isDirectory := by
    decide +kernel
  obtain ⟨assembled, direct, image, hasm, hdirect, himage, -, -, -, hsame⟩ :=
    run_assembled (by decide +kernel) hsource hassemble hfree none true true
  have hpath : imagePath "print.asm" = "print.ls8" := by decide +kernel
  rw [hpath] at hasm himage
  rw [(hsame (by decide)).2] at himage
  exact ⟨assembled, direct, hasm, hdirect, himage⟩

end Command

end ByteMachine
