import Andromeda.Frame

namespace Andromeda

inductive Message where
  /-- A System Exclusive message, without its start and end bytes. -/
  | exclusive (data : Bytes)
  | other
  deriving DecidableEq, Repr

def Message.exclusive? : Message → Option Bytes
  | .exclusive data => some data
  | .other => none

def exclusiveBytes (data : Bytes) : Bytes := 0xF0 :: (data ++ [frameEnd])

def recordedBytes (messages : List Message) : Bytes :=
  (messages.filterMap Message.exclusive?).flatMap exclusiveBytes

end Andromeda
