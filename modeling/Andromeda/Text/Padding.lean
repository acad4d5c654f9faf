namespace Andromeda

def spaces (count : Nat) : String := .ofList (List.replicate count ' ')

def padRight (width : Nat) (text : String) : String := text ++ spaces (width - text.length)

end Andromeda
