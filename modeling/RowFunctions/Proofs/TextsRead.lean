import RowFunctions.Proofs.SettingsLayers

/-!
# Texts that a program reads

Programs are written against access to files of any kind.  Run on a file tree that notes
which texts are asked for, a program ends as it does on the tree alone and leaves the
tree alike, and the notes tell what it has read and in which order.  What a program reads
is put together along its binds: the texts of the first part and then those of the rest,
for the answer that the first part gives.
-/

namespace RowFunctions

/-- A file tree, with the paths of the texts that were asked for so far. -/
structure ObservedTree where
  tree : FileTree
  read : List String

/-- What a program does to a file tree, and a note of the texts that it asks for. -/
def ObservedTree.observe {Answer : Type} (paths : List String)
    (program : StateM FileTree Answer) : StateM ObservedTree Answer :=
  fun observed =>
    ((program observed.tree).1, ⟨(program observed.tree).2, observed.read ++ paths⟩)

/-- Asking for a text is noted, every other access is not. -/
instance : FileAccess (StateM ObservedTree) where
  workingDirectory := ObservedTree.observe [] FileAccess.workingDirectory
  isPresent path := ObservedTree.observe [] (FileAccess.isPresent path)
  canonical path := ObservedTree.observe [] (FileAccess.canonical path)
  readText path := ObservedTree.observe [path] (FileAccess.readText path)
  writeText path text := ObservedTree.observe [] (FileAccess.writeText path text)

/-- In a file tree a program does what another one does there, and notes some paths. -/
def Reads {Answer : Type} (tree : FileTree) (paths : List String)
    (observed : StateM ObservedTree Answer) (program : StateM FileTree Answer) : Prop :=
  ∀ read, observed ⟨tree, read⟩ = ((program tree).1, ⟨(program tree).2, read ++ paths⟩)

namespace Reads

variable {tree : FileTree}

theorem pure {Answer : Type} (answer : Answer) :
    Reads tree [] (Pure.pure answer) (Pure.pure answer) := by
  intro read
  rw [List.append_nil]
  rfl

/-- The texts of a program are those of its first part and of the rest. -/
theorem bind {First Second : Type} {paths more : List String}
    {observed : StateM ObservedTree First} {program : StateM FileTree First}
    {observedRest : First → StateM ObservedTree Second} {rest : First → StateM FileTree Second}
    {answer : First} {changed : FileTree} (first : Reads tree paths observed program)
    (gives : program tree = (answer, changed))
    (goesOn : Reads changed more (observedRest answer) (rest answer)) :
    Reads tree (paths ++ more) (observed >>= observedRest) (program >>= rest) := by
  intro read
  change observedRest (observed ⟨tree, read⟩).1 (observed ⟨tree, read⟩).2 = _
  rw [first read, bind_apply, gives, goesOn, List.append_assoc]

theorem workingDirectory : Reads tree [] FileAccess.workingDirectory FileAccess.workingDirectory :=
  fun _ => rfl

theorem isPresent (path : String) :
    Reads tree [] (FileAccess.isPresent path) (FileAccess.isPresent path) :=
  fun _ => rfl

theorem canonical (path : String) :
    Reads tree [] (FileAccess.canonical path) (FileAccess.canonical path) :=
  fun _ => rfl

theorem readText (path : String) :
    Reads tree [path] (FileAccess.readText path) (FileAccess.readText path) :=
  fun _ => rfl

theorem writeText (path text : String) :
    Reads tree [] (FileAccess.writeText path text) (FileAccess.writeText path text) :=
  fun _ => rfl

end Reads

/-! ### Looking for settings -/

namespace SettingsFile

variable {tree : FileTree}

end SettingsFile

namespace Settings

variable {tree : FileTree}

end Settings

namespace ToolCommand

variable {tree : FileTree}

end ToolCommand

/-- The plan that a command itself names. -/
def ToolCommand.plan? : ToolCommand → Option String
  | .resolve _ plan => plan
  | _ => none

namespace Invocation

end Invocation

end RowFunctions
