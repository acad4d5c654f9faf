import Andromeda.CommandLine.Run
import Andromeda.Display.Plain
import Andromeda.Proofs.CommandLine.Inputs
import Andromeda.Proofs.Display.Console

namespace Andromeda

open Console

def Aside (shown : List Shown) : Prop := ∀ item ∈ shown, item.channel = .err

variable {console : Console} {environment : Environment} {command : DecodeCommand}
  {inputs : List Input} {report : Report} {shown lines : List Shown} {data : Bytes}

theorem aside_append {first second : List Shown} :
    Aside (first ++ second) ↔ Aside first ∧ Aside second :=
  List.forall_mem_append

theorem aside_shownLog (verbose : Bool) (records : List LogRecord) :
    Aside (shownLog verbose records) := by
  intro item member
  rcases List.mem_map.mp member with ⟨record, _, rfl⟩
  rfl

theorem aside_lines (command : DecodeCommand) (image : Image) : Aside (command.lines image) := by
  intro item member
  rw [DecodeCommand.lines] at member
  split at member
  · rcases List.mem_map.mp member with ⟨field, _, rfl⟩
    rfl
  · cases member

end Andromeda
