import RowFunctions.FileTrees
import RowFunctions.Proofs.AssociationLists

/-!
# Files that are written

Where a file can be written it can be read afterwards, under the same path, and
the text is the one that was written.  A walk steps from directories only, and no
directory is overwritten, so the walk that found the place of the file finds it
again.  Overwriting a file leaves every path where it leads to, and changes only what is
read under the paths that lead to that file.
-/

namespace RowFunctions

namespace FileTree

theorem checkPath_eq (path : String) :
    checkPath path =
      if '\x00' ∈ path.toList then .error .zeroInName
      else if path = "" then .error .notFound
      else if maximalPathSize < path.utf8ByteSize then .error .nameTooLong
      else .ok () := by
  simp [checkPath, String.contains_char_eq]

/-- One step of a walk along a path. -/
def step (tree : FileTree) (place : List String) (part : String) :
    Except FileFailure (List String) :=
  match tree.checkDirectory place with
  | .error failure => .error failure
  | .ok () =>
      if part = "." then .ok place
      else if part = ".." then .ok place.dropLast
      else if maximalPartSize < part.utf8ByteSize then .error .nameTooLong
      else .ok (place ++ [part])

theorem walk_nil (tree : FileTree) (place : List String) : tree.walk place [] = .ok place := rfl

theorem walk_cons (tree : FileTree) (place : List String) (part : String) (parts : List String) :
    tree.walk place (part :: parts) =
      (tree.step place part).bind fun next => tree.walk next parts := by
  rw [walk, step]
  cases tree.checkDirectory place with
  | error failure => rfl
  | ok stands => simp only; split_ifs <;> rfl

theorem walk_append (tree : FileTree) (first second : List String) :
    ∀ start, tree.walk start (first ++ second) =
      (tree.walk start first).bind fun middle => tree.walk middle second := by
  induction first with
  | nil => exact fun start => rfl
  | cons part parts ih =>
      intro start
      rw [List.cons_append, walk_cons, walk_cons]
      cases tree.step start part with
      | error failure => rfl
      | ok next => exact ih next

/-! ### Putting something where no directory stands -/

section Put

variable {tree : FileTree} {place : List String} {entry : FileEntry}

theorem entry_put_self (named : place ≠ []) :
    entry? (tree.put place entry) place = some entry := by
  simp [put, entry?, named]

theorem entry_put_of_ne {other : List String} (different : other ≠ place) :
    entry? (tree.put place entry) other = tree.entry? other := by
  simp [put, entry?, AssociationList.lookup_cons, different,
    AssociationList.lookup_filter_ne different]

theorem checkDirectory_eq_ok_iff {directory : List String} :
    tree.checkDirectory directory = .ok () ↔ tree.entry? directory = some .directory := by
  unfold checkDirectory
  rcases tree.entry? directory with - | (- | - | -) <;> simp

theorem checkDirectory_put (free : tree.entry? place ≠ some .directory) {directory : List String}
    (stands : tree.checkDirectory directory = .ok ()) :
    (tree.put place entry).checkDirectory directory = .ok () := by
  rw [checkDirectory_eq_ok_iff] at stands ⊢
  have different : directory ≠ place := fun same => free (same ▸ stands)
  rw [entry_put_of_ne different, stands]

theorem step_put (free : tree.entry? place ≠ some .directory) {start next : List String}
    {part : String} (stepped : tree.step start part = .ok next) :
    (tree.put place entry).step start part = .ok next := by
  unfold step at stepped ⊢
  cases stands : tree.checkDirectory start with
  | error failure => simp [stands] at stepped
  | ok checked =>
      rw [checkDirectory_put free stands]
      rwa [stands] at stepped

/-- A walk goes on as before when something is put where no directory stands. -/
theorem walk_put (free : tree.entry? place ≠ some .directory) {parts : List String} :
    ∀ {start target : List String}, tree.walk start parts = .ok target →
      (tree.put place entry).walk start parts = .ok target := by
  induction parts with
  | nil => exact fun walked => walked
  | cons part parts ih =>
      intro start target walked
      rw [walk_cons] at walked ⊢
      cases stepped : tree.step start part with
      | error failure => simp [stepped, Except.bind] at walked
      | ok next =>
          rw [step_put free stepped]
          rw [stepped] at walked
          exact ih walked

end Put

/-! ### Reading what was written -/

/-- A path leads to a place where a file can be written. -/
structure LeadsToFile (tree : FileTree) (path : String) (place : List String) : Prop where
  isPath : checkPath path = .ok ()
  namesFile : FilePath.endsWithSlash path = false
  walked : tree.walk (tree.startOf path) (FilePath.parts path) = .ok place
  belowRoot : place ≠ []
  free : tree.entry? place ≠ some .directory

theorem leadsToFile_of_writablePlace {tree : FileTree} {path : String} {place : List String}
    (writable : tree.writablePlace path = .ok place) : tree.LeadsToFile path place := by
  unfold writablePlace at writable
  cases isPath : checkPath path with
  | error failure => simp [isPath] at writable
  | ok checked =>
      cases last : (FilePath.parts path).getLast? with
      | none => simp [isPath, last] at writable
      | some name =>
          cases walked : tree.walk (tree.startOf path) (FilePath.parts path).dropLast with
          | error failure => simp [isPath, last, walked] at writable
          | ok parent =>
              cases stands : tree.checkDirectory parent with
              | error failure => simp [isPath, last, walked, stands] at writable
              | ok directory =>
                  simp only [isPath, last, walked, stands] at writable
                  split_ifs at writable with dots long taken
                  cases writable
                  push Not at dots
                  -- The walk to the directory of the file ends with a step to its name.
                  have stepped : tree.step parent name = .ok (parent ++ [name]) := by
                    simp [step, stands, dots, long]
                  refine ⟨isPath, by simpa using dots.1, ?_, by simp, taken⟩
                  have whole : FilePath.parts path = (FilePath.parts path).dropLast ++ [name] :=
                    (List.dropLast_append_getLast? name last).symm
                  rw [whole, walk_append, walked]
                  simp [Except.bind, walk_cons, stepped, walk_nil]

/-- A file that could be written under a path is read under that path, with the text
that was written. -/
theorem readText_of_writeText {tree changed : FileTree} {path text : String}
    (written : tree.writeText path text = .ok changed) : changed.readText path = .ok text := by
  unfold writeText at written
  cases writable : tree.writablePlace path with
  | error failure => simp [writable] at written
  | ok place =>
      simp only [writable] at written
      cases written
      obtain ⟨isPath, namesFile, walked, belowRoot, free⟩ := leadsToFile_of_writablePlace writable
      have start : (tree.put place (.text text)).startOf path = tree.startOf path := rfl
      have found : (tree.put place (.text text)).find path = .ok (place, .text text) := by
        simp [find, isPath, start, walk_put free walked, entry_put_self belowRoot, namesFile]
      rw [readText, found]

/-! ### Overwriting a file -/

/-- A path leads to a place where something stands. -/
def LeadsTo (tree : FileTree) (path : String) (place : List String) : Prop :=
  ∃ entry, tree.find path = .ok (place, entry)

theorem entry_of_find {tree : FileTree} {path : String} {place : List String} {entry : FileEntry}
    (found : tree.find path = .ok (place, entry)) : tree.entry? place = some entry := by
  unfold find at found
  cases isPath : checkPath path with
  | error failure => simp [isPath] at found
  | ok checked =>
      cases walked : tree.walk (tree.startOf path) (FilePath.parts path) with
      | error failure => simp [isPath, walked] at found
      | ok reached =>
          rcases stands : tree.entry? reached with - | (- | contents | -)
          · simp [isPath, walked, stands] at found
          · simp only [isPath, walked, stands] at found
            cases found
            exact stands
          all_goals
            simp only [isPath, walked, stands] at found
            split_ifs at found
            cases found
            exact stands

section Overwriting

variable {tree : FileTree} {place : List String} {old : String}

theorem entry_overwritten (stands : tree.entry? place = some (.text old)) (new : String)
    (other : List String) :
    entry? (tree.put place (.text new)) other =
      if other = place then some (.text new) else tree.entry? other := by
  have named : place ≠ [] := by
    rintro rfl
    simp [ entry?] at stands
  split_ifs with same
  · rw [same, entry_put_self named]
  · rw [entry_put_of_ne same]

theorem checkDirectory_overwritten (stands : tree.entry? place = some (.text old)) (new : String)
    (directory : List String) :
    (tree.put place (.text new)).checkDirectory directory = tree.checkDirectory directory := by
  unfold checkDirectory
  rw [entry_overwritten stands]
  split_ifs with same
  · rw [same, stands]
  · rfl

theorem walk_overwritten (stands : tree.entry? place = some (.text old)) (new : String)
    (parts : List String) :
    ∀ start, (tree.put place (.text new)).walk start parts = tree.walk start parts := by
  induction parts with
  | nil => exact fun start => rfl
  | cons part parts ih =>
      intro start
      have stepped : (tree.put place (.text new)).step start part = tree.step start part := by
        unfold step
        rw [checkDirectory_overwritten stands]
      rw [walk_cons, walk_cons, stepped]
      exact congrArg _ (funext ih)

/-- Overwriting a file leaves every path where it leads to. -/
theorem find_overwritten (stands : tree.entry? place = some (.text old)) (new path : String) :
    (tree.put place (.text new)).find path = (tree.find path).map fun found =>
      if found.1 = place then (place, .text new) else found := by
  have start : (tree.put place (.text new)).startOf path = tree.startOf path := rfl
  unfold find
  rw [start, walk_overwritten stands]
  cases checkPath path with
  | error failure => rfl
  | ok checked =>
      cases tree.walk (tree.startOf path) (FilePath.parts path) with
      | error failure => rfl
      | ok reached =>
          simp only
          rw [entry_overwritten stands]
          by_cases same : reached = place
          · subst same
            rw [if_pos rfl, stands]
            split_ifs <;> simp [Except.map]
          · rw [if_neg same]
            rcases tree.entry? reached with - | (- | contents | -)
            · rfl
            · simp [Except.map, same]
            · simp only
              split_ifs <;> simp [Except.map, same]
            · simp only
              split_ifs <;> simp [Except.map, same]

theorem isPresent_overwritten (stands : tree.entry? place = some (.text old)) (new path : String) :
    (tree.put place (.text new)).isPresent path = tree.isPresent path := by
  unfold isPresent
  rw [find_overwritten stands]
  cases tree.find path <;> rfl

theorem canonical_overwritten (stands : tree.entry? place = some (.text old)) (new path : String) :
    (tree.put place (.text new)).canonical? path = tree.canonical? path := by
  unfold canonical?
  rw [find_overwritten stands]
  cases tree.find path with
  | error failure => rfl
  | ok found =>
      simp only [Except.map]
      split_ifs with same
      · rw [← same]
      · rfl

theorem readText_overwritten_of_leadsTo (stands : tree.entry? place = some (.text old))
    {path : String} (leads : tree.LeadsTo path place) (new : String) :
    (tree.put place (.text new)).readText path = .ok new := by
  obtain ⟨entry, found⟩ := leads
  unfold readText
  rw [find_overwritten stands, found]
  simp [Except.map]

theorem readText_overwritten_of_not_leadsTo (stands : tree.entry? place = some (.text old))
    {path : String} (apart : ¬ tree.LeadsTo path place) (new : String) :
    (tree.put place (.text new)).readText path = tree.readText path := by
  unfold readText
  rw [find_overwritten stands]
  cases found : tree.find path with
  | error failure => rfl
  | ok reached =>
      obtain ⟨elsewhere, entry⟩ := reached
      have different : elsewhere ≠ place := fun same => apart ⟨entry, same ▸ found⟩
      simp [Except.map, different]

theorem readText_of_leadsTo (stands : tree.entry? place = some (.text old)) {path : String}
    (leads : tree.LeadsTo path place) : tree.readText path = .ok old := by
  obtain ⟨entry, found⟩ := leads
  have standing := entry_of_find found
  rw [stands, Option.some.injEq] at standing
  rw [readText, found, ← standing]

theorem writablePlace_overwritten (stands : tree.entry? place = some (.text old))
    (new path : String) :
    (tree.put place (.text new)).writablePlace path = tree.writablePlace path := by
  have start : (tree.put place (.text new)).startOf path = tree.startOf path := rfl
  have directory (other : List String) :
      entry? (tree.put place (.text new)) other = some .directory ↔
        tree.entry? other = some .directory := by
    rw [entry_overwritten stands]
    split_ifs with same
    · simp [same, stands]
    · rfl
  unfold writablePlace
  simp only [start, walk_overwritten stands, checkDirectory_overwritten stands, directory]

end Overwriting

end FileTree

end RowFunctions
