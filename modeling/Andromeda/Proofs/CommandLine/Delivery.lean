import Andromeda.Proofs.CommandLine.Blame
import Andromeda.Proofs.CommandLine.Showing
import Andromeda.Proofs.CommandLine.Writing

/-!
Delivery. A decode delivers just what its inputs hold, at one place, or it delivers nothing at all:
whatever can go wrong goes wrong before the first byte is written. Only the line behind a file that
was written can be refused by the console, since there are names in it that are read as markup.
-/

namespace Andromeda

open Console

def DecodeCommand.source (command : DecodeCommand) : String :=
  (command.files.getLast?.map Path.text).getD standardName

variable {console : Console} {environment : Environment} {command : DecodeCommand}
  {inputs : List Input} {report : Report} {shown : List Shown} {data : Bytes} {trouble : Trouble}

theorem FileTree.Holds.content {tree : FileTree} {standard : Bytes} {paths : List Path}
    {buffers : List Bytes} (holds : tree.Holds standard paths buffers) :
    ∀ path ∈ paths, path.text ≠ "-" → ∃ data, tree.content? path = .ok (some data) := by
  induction holds with
  | nil => simp
  | dash dash rest ih =>
      rw [List.forall_mem_cons]
      exact ⟨fun name => absurd dash name, ih⟩
  | file name content rest ih =>
      rw [List.forall_mem_cons]
      exact ⟨fun _ => ⟨_, content⟩, ih⟩

end Andromeda
