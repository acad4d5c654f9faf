import Andromeda.Midi.Message
import Andromeda.Text.Lower

namespace Andromeda

/-- A port with exactly the given name, or the first one that has it within its own name in
any case. Without a name any port will do. -/
def findPort (ports : List String) (name : Option String) : Option String :=
  match name.getD "" with
  | "" => ports.head?
  | name =>
    if ports.contains name then some name
    else ports.find? fun port => within (lower name) (lower port)

structure OpenPort where
  name : String
  batches : List (List Message)
  closed : Bool

def OpenPort.poll (port : OpenPort) : List Message × OpenPort :=
  (port.batches.headD [], { port with batches := port.batches.tail })

def OpenPort.close (port : OpenPort) : OpenPort := { port with closed := true }

end Andromeda
