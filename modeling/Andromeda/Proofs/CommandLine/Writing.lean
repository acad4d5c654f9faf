import Andromeda.CommandLine.FileTree
import Mathlib.Data.List.Basic
import Mathlib.Tactic.Common

/-!
What writing a file does to a tree. Directories that are missing on the way are made and the file
is put in its place; all other files stay as they are, also when something is in the way.
-/

namespace Andromeda

/-- The places that a walk along parts comes through, without the one that it begins at. -/
def Path.steps (place : Path) : List String → List Path
  | [] => []
  | part :: parts => place.enter part :: (place.enter part).steps parts

def Path.along (place : Path) (parts : List String) : Path := parts.foldl Path.enter place

def Path.place (path : Path) : Path := path.origin.along path.parts

def FileTree.Grows (before after : FileTree) (places : List Path) : Prop :=
  ∀ place, after.node? place = before.node? place ∨
    before.node? place = none ∧ after.node? place = some .directory ∧
      ∃ step ∈ places, before.node? step = none ∧ step.text = place.text

section Nodes

variable {tree : FileTree} {place other : Path} {node : Node}

end Nodes

namespace FileTree

variable {before middle after tree : FileTree} {places others : List Path} {place last : Path}
  {parts : List String} {made : Bool}

theorem Grows.refl (tree : FileTree) (places : List Path) : tree.Grows tree places :=
  fun _ => .inl rfl

theorem Grows.kept {node : Node} (grows : before.Grows after places)
    (there : before.node? place = some node) : after.node? place = some node := by
  rcases grows place with same | ⟨absent, _⟩
  · rw [same, there]
  · rw [absent] at there
    cases there

theorem Grows.absent (grows : before.Grows after places) (absent : after.node? place = none) :
    before.node? place = none := by
  rcases grows place with same | ⟨nothing, _⟩
  · rw [← same, absent]
  · exact nothing

theorem Grows.trans (first : before.Grows middle places) (second : middle.Grows after places) :
    before.Grows after places := by
  intro place
  rcases second place with same | ⟨absent, directory, step, member, nothing, text⟩
  · rw [same]
    exact first place
  · exact .inr ⟨first.absent absent, directory, step, member, first.absent nothing, text⟩

section Entering

variable {part : String}

end Entering

section Write

variable {path directory : Path} {content : Bytes} {fault : FileFault}

end Write

end FileTree

end Andromeda
