import ByteMachine.Disk.Tree
import ByteMachine.Proofs.Except
import ByteMachine.Proofs.Text.Lines

/-!
# Files beside a file

Two paths that differ only in how their last name ends lead to the same directory.  So if a file can
be read at one of them, a file can be written at the other, unless a directory stands there.

## Main definitions

- `Path.IsEnding` — what a name may end in

## Main statements

- `Path.exists_parse_eq` — the parts of a path that do not depend on the ending
- `FileTree.exists_writeText` — a file can be written beside a file that can be read
-/

namespace ByteMachine

namespace Path

/-- The text can be put behind any name, and makes it a name if it is none. -/
structure IsEnding (ending : List Char) : Prop where
  /-- It is longer than the two dots that are no name. -/
  two_lt_length : 2 < ending.length
  no_slash : '/' ∉ ending
  no_null : '\x00' ∉ ending

variable {ending : List Char}

theorem IsEnding.ofChars_append (h : IsEnding ending) (base : List Char) :
    Step.ofChars (base ++ ending) = .name (String.ofList (base ++ ending)) := by
  have hne : ∀ dots : List Char, dots.length ≤ 2 → base ++ ending ≠ dots := by
    intro dots hdots heq
    have hlength := congrArg List.length heq
    rw [List.length_append] at hlength
    have := h.two_lt_length
    omega
  rw [Step.ofChars, if_neg (hne _ (by decide)), if_neg (hne _ (by decide))]

/-- The parts of a path that do not depend on the ending of its last name. -/
theorem exists_parse_eq (stem : List Char) :
    ∃ through base, ∀ ending, IsEnding ending →
      parse (String.ofList (stem ++ ending)) =
        if '\x00' ∈ stem then .error .nullInPath
        else if longest < (String.ofList (stem ++ ending)).utf8ByteSize then .error .nameTooLong
        else .ok
          { rooted := stem.head? = some '/'
            through
            last := .name (String.ofList (base ++ ending))
            slashed := false } := by
  obtain ⟨front, base, hpieces⟩ := Text.exists_splitOn_append '/' stem
  refine ⟨(front.filter (· ≠ [])).map Step.ofChars, base, fun ending h => ?_⟩
  have hne : ending ≠ [] := by
    intro hnil
    have := h.two_lt_length
    rw [hnil] at this
    exact absurd this (by decide)
  have hsteps : steps (stem ++ ending) =
      (front.filter (· ≠ [])).map Step.ofChars ++ [.name (String.ofList (base ++ ending))] := by
    have hlast : [base ++ ending].filter (· ≠ []) = [base ++ ending] := by
      simp [hne]
    rw [steps, hpieces ending h.no_slash, List.filter_append, hlast, List.map_append,
      List.map_singleton, h.ofChars_append]
  have hhead : (stem ++ ending).head? = some '/' ↔ stem.head? = some '/' := by
    cases stem with
    | nil =>
      have : ending.head? ≠ some '/' := fun hc => h.no_slash (List.mem_of_head? hc)
      simpa using this
    | cons c rest => simp
  have hslashed : (stem ++ ending).getLast? ≠ some '/' := by
    rw [List.getLast?_append, List.getLast?_eq_some_getLast hne, Option.some_or]
    exact fun hc => h.no_slash (Option.some.inj hc ▸ List.getLast_mem hne)
  have hnull : '\x00' ∈ stem ++ ending ↔ '\x00' ∈ stem := by
    simp [h.no_null]
  have hempty : (stem ++ ending).isEmpty = false := by
    simp [hne]
  simp only [parse, String.toList_ofList, hsteps, hnull, hempty, hhead, hslashed,
    List.dropLast_concat, List.getLast?_concat, Option.getD_some, decide_false]
  rfl

end Path

namespace FileTree

variable {tree : FileTree} {stem ending other : List Char} {place stop : Place}

/-- A name as long as one that can be taken from a directory can be taken, too. -/
theorem target_name_of_eq {n n' : String} (h : target place (.name n) = .ok stop)
    (hsize : n'.utf8ByteSize = n.utf8ByteSize) :
    target place (.name n') = .ok (place ++ [n']) := by
  obtain ⟨hlong, -⟩ := guard_eq_ok_iff.1 h
  exact guard_eq_ok_iff.2 ⟨hsize ▸ hlong, rfl⟩

/-- Where a file can be read, another one can be written whose name differs in the ending, unless a
directory has this name. -/
theorem exists_writeText {source : String} (hending : Path.IsEnding ending)
    (hother : Path.IsEnding other)
    (hsize : (String.ofList other).utf8ByteSize = (String.ofList ending).utf8ByteSize)
    (hread : tree.readText (String.ofList (stem ++ ending)) = .ok source)
    (hfree : tree.readText (String.ofList (stem ++ other)) ≠ .error .isDirectory)
    (text : String) :
    ∃ new, tree.writeText (String.ofList (stem ++ other)) text = .ok new := by
  obtain ⟨through, base, hparse⟩ := Path.exists_parse_eq stem
  have hsame : ∀ front : List Char, (String.ofList (front ++ other)).utf8ByteSize =
      (String.ofList (front ++ ending)).utf8ByteSize := by
    intro front
    simp only [String.ofList_append, String.utf8ByteSize_append, hsize]
  obtain ⟨p, hp, hrest⟩ := bind_eq_ok_iff.1 hread
  obtain ⟨start, hstart, hrest⟩ := bind_eq_ok_iff.1 hrest
  obtain ⟨place, hplace, -⟩ := bind_eq_ok_iff.1 hrest
  rw [hparse ending hending, guard_eq_ok_iff, guard_eq_ok_iff, Except.ok.injEq] at hp
  obtain ⟨hnull, hlong, rfl⟩ := hp
  -- the other path is followed to the same directory, and its last name is not longer
  have hp' := hparse other hother
  rw [if_neg hnull, hsame stem, if_neg hlong] at hp'
  have hstart' : tree.approach ⟨stem.head? = some '/', through,
      .name (String.ofList (base ++ other)), false⟩ = .ok start := hstart
  have hplace' := target_name_of_eq hplace (hsame base)
  by_cases hdir : tree.entryAt (start ++ [String.ofList (base ++ other)]) = some .directory
  · have htext : tree.textAt (start ++ [String.ofList (base ++ other)]) false =
        .error .isDirectory := by
      rw [textAt.eq_def, hdir]
    refine absurd ?_ hfree
    rw [readText, bind_of_eq_ok hp', bind_of_eq_ok hstart', bind_of_eq_ok hplace', htext]
  · refine ⟨tree.put (start ++ [String.ofList (base ++ other)]) (.text text), ?_⟩
    rw [writeText, bind_of_eq_ok hp', bind_of_eq_ok hstart']
    show (target start (.name (String.ofList (base ++ other))) >>= _) = _
    rw [bind_of_eq_ok hplace', if_neg hdir]
    rfl

end FileTree

end ByteMachine
