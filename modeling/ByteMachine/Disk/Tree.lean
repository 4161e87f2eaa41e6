import ByteMachine.Disk.Path

/-!
# Directories and files in memory

A tree of directories with text files and other files in it, and a working directory where relative
paths begin.  A path is followed step by step: everything in front of its last step must be a
directory, and the last step decides alone whether a file can be read or created there.

## Main definitions

- `FileTree` — directories and files, with a working directory
- `FileTree.readText`, `FileTree.writeText` — the two operations on files
- `FileTree.disk` — a tree as a file system

## Main statements

- `FileTree.readText_of_writeText` — what has been written to a path can be read from it
-/

namespace ByteMachine

inductive Content where
  | text (s : String)
  /-- Bytes that encode no text. -/
  | binary (bytes : List UInt8)
deriving DecidableEq, Repr

/-- What stands in a directory under a name. -/
inductive FileTree.Entry where
  | directory
  | file (content : Content)
deriving DecidableEq, Repr

/-- The names on the way from the root to an entry. -/
abbrev FileTree.Place := List String

/-- Directories and files. -/
structure FileTree where
  /-- The entries with their places.  The root is a directory without being listed. -/
  entries : List (FileTree.Place × FileTree.Entry)
  /-- The directory where paths begin that do not begin at the root. -/
  working : FileTree.Place
deriving DecidableEq, Repr

namespace FileTree

/-- What stands at a place. -/
def entryAt (tree : FileTree) (place : Place) : Option Entry :=
  if place = [] then some .directory else tree.entries.lookup place

/-- The tree with this file at this place, which is not the root. -/
def put (tree : FileTree) (place : Place) (content : Content) : FileTree :=
  { tree with entries := (place, .file content) :: tree.entries.filter (·.1 ≠ place) }

/-- The places of the directories on the way to a place, and of the place itself. -/
def ancestry : Place → List Place
  | [] => []
  | name :: rest => [name] :: (ancestry rest).map (name :: ·)

/-- The tree with a working directory at this place, and these files in it by their names. -/
def ofFiles (working : Place) (files : List (String × Content)) : FileTree :=
  let directories := (ancestry working).map (·, Entry.directory)
  let files := files.map fun (name, content) => (working ++ [name], Entry.file content)
  ⟨directories ++ files, working⟩

/-- The files in the working directory by their names. -/
def files (tree : FileTree) : List (String × Content) :=
  tree.entries.filterMap fun (place, entry) =>
    match place.getLast?, entry with
    | some name, .file content =>
      if place.dropLast = tree.working then some (name, content) else none
    | _, _ => none

/-- The file with this name in the working directory. -/
def file? (tree : FileTree) (name : String) : Option Content :=
  tree.files.lookup name

/-- The longest name that an entry may have, in bytes. -/
def longestName : Nat := 255

/-- The place where a step leads from a directory, whether or not something stands there.  The root
is its own surrounding. -/
def target (place : Place) : Path.Step → Except FileError Place
  | .stay => .ok place
  | .up => .ok place.dropLast
  | .name n => if longestName < n.utf8ByteSize then .error .nameTooLong else .ok (place ++ [n])

/-- Take a step from a directory into a directory. -/
def enter (tree : FileTree) (place : Place) (step : Path.Step) : Except FileError Place := do
  let place ← target place step
  match tree.entryAt place with
  | some .directory => return place
  | some (.file _) => throw .notDirectory
  | none => throw .notFound

/-- The directory from which the last step of a path is taken. -/
def approach (tree : FileTree) (path : Path) : Except FileError Place :=
  path.through.foldlM tree.enter (if path.rooted then [] else tree.working)

/-- The text of the file at a place, or why there is none.  With `slashed`, only a directory is
asked for. -/
def textAt (tree : FileTree) (place : Place) (slashed : Bool) : Except FileError String :=
  match tree.entryAt place, slashed with
  | none, _ => .error .notFound
  | some .directory, _ => .error .isDirectory
  | some (.file _), true => .error .notDirectory
  | some (.file (.text s)), false => .ok s
  | some (.file (.binary _)), false => .error .notText

def readText (tree : FileTree) (path : String) : Except FileError String := do
  let path ← Path.parse path
  let place ← target (← tree.approach path) path.last
  tree.textAt place path.slashed

/-- The tree with a new file, or with new contents in an old one.  A path that can only mean a
directory is refused without looking at what it leads to. -/
def writeText (tree : FileTree) (path text : String) : Except FileError FileTree := do
  let path ← Path.parse path
  let place ← tree.approach path
  match path.last, path.slashed with
  | .name n, false =>
    let place ← target place (.name n)
    if tree.entryAt place = some .directory then throw .isDirectory
    else return tree.put place (.text text)
  | _, _ => throw .isDirectory

def disk : Disk (StateM FileTree) where
  readText path := do return (← get).readText path
  writeText path text := do
    match (← get).writeText path text with
    | .ok tree => set tree; return .ok ()
    | .error e => return .error e

theorem entryAt_put_self {place : Place} (tree : FileTree) (content : Content) (h : place ≠ []) :
    (tree.put place content).entryAt place = some (.file content) := by
  simp [entryAt, put, h]

theorem entryAt_put_ne {place other : Place} (tree : FileTree) (content : Content)
    (h : other ≠ place) : (tree.put place content).entryAt other = tree.entryAt other := by
  have lookup_filter (entries : List (Place × Entry)) :
      (entries.filter (·.1 ≠ place)).lookup other = entries.lookup other := by
    induction entries with
    | nil => rfl
    | cons e rest ih =>
      obtain ⟨key, entry⟩ := e
      by_cases hk : key = place
      · have hne : (other == key) = false := by simpa [hk] using h
        have hf : ((key, entry) :: rest).filter (·.1 ≠ place) = rest.filter (·.1 ≠ place) := by
          simp [hk]
        rw [hf, ih, List.lookup_cons, hne]
      · have hf : ((key, entry) :: rest).filter (·.1 ≠ place) =
            (key, entry) :: rest.filter (·.1 ≠ place) := by simp [hk]
        rw [hf, List.lookup_cons, List.lookup_cons, ih]
  have hne : (other == place) = false := by simpa using h
  simp only [entryAt, put, List.lookup_cons, hne, lookup_filter]

/-- A file that replaces no directory leaves every step through directories as it was. -/
theorem enter_put {tree : FileTree} {place start stop : Place} {step : Path.Step}
    {content : Content} (h : tree.entryAt place ≠ some .directory)
    (he : tree.enter start step = .ok stop) :
    (tree.put place content).enter start step = .ok stop := by
  unfold enter at he ⊢
  cases ht : target start step with
  | error e => simp [ht, bind, Except.bind] at he
  | ok next =>
    simp only [ht, bind, Except.bind] at he ⊢
    by_cases hn : next = place
    · subst hn
      split at he <;> simp_all [throw, throwThe, MonadExceptOf.throw]
    · rw [entryAt_put_ne tree content hn]
      exact he

theorem approach_put {tree : FileTree} {place stop : Place} {path : Path} {content : Content}
    (h : tree.entryAt place ≠ some .directory) (ha : tree.approach path = .ok stop) :
    (tree.put place content).approach path = .ok stop := by
  have foldlM_put (steps : List Path.Step) : ∀ start, steps.foldlM tree.enter start = .ok stop →
      steps.foldlM (tree.put place content).enter start = .ok stop := by
    induction steps with
    | nil => exact fun _ hs => hs
    | cons step rest ih =>
      intro start hs
      rw [List.foldlM_cons] at hs ⊢
      cases he : tree.enter start step with
      | error e => rw [he] at hs; cases hs
      | ok next =>
        rw [he] at hs
        rw [enter_put h he]
        exact ih next hs
  exact foldlM_put path.through _ ha

/-- What has been written to a path can be read from it. -/
theorem readText_of_writeText {tree new : FileTree} {path text : String}
    (h : tree.writeText path text = .ok new) : new.readText path = .ok text := by
  unfold writeText at h
  unfold readText
  cases hp : Path.parse path with
  | error e => rw [hp] at h; cases h
  | ok p =>
    rw [hp] at h
    cases ha : tree.approach p with
    | error e => simp only [bind, Except.bind, ha] at h; cases h
    | ok start =>
      simp only [bind, Except.bind, ha] at h
      split at h
      next n hl hs =>
        cases ht : target start (.name n) with
        | error e => simp only [ht] at h; cases h
        | ok place =>
          simp only [ht] at h
          split at h
          · cases h
          · next hd =>
            cases h
            have hne : place ≠ [] := by
              intro hnil
              exact hd (by simp [entryAt, hnil])
            simp only [bind, Except.bind, approach_put hd ha, hl, hs, ht, textAt,
              entryAt_put_self tree (.text text) hne]
      next => cases h

end FileTree

end ByteMachine
