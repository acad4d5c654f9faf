import Andromeda.Display.Markup
import Andromeda.Display.Shown

namespace Andromeda

def labelled (line : String × String) : String := styled "bold" (line.1 ++ ":") ++ " " ++ line.2

def statusText (duplicates : Nat) : String :=
  if duplicates = 0 then styled "green" "Valid"
  else styled "yellow" s!"Valid ({duplicates} duplicate blocks)"

def imagePanel (image : Image) (source : String) (frameCount : Int) (duplicates : Nat) : Shown :=
  let lines := [("Source", source)] ++ image.fields ++
    [("Frames", s!"{frameCount}"), ("Status", statusText duplicates)]
  .panel .out (styled "bold blue" "A6 Update Image")
    ("\n".intercalate (lines.map labelled))

end Andromeda
