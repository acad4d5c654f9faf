/-!
Options among the words of a command. A long option may have its value behind an equals sign
and a short one directly behind its letter, else the value is the next word; short options
without a value may be joined. Two dashes end the options, and one dash alone is an argument.
-/

namespace Andromeda

structure OptionForm where
  long : String
  short : Option Char
  takesValue : Bool
  deriving DecidableEq, Repr

structure Choice where
  name : String
  value : String
  deriving DecidableEq, Repr

structure Words where
  choices : List Choice
  arguments : List String
  deriving DecidableEq, Repr

/-- What one word says: options that are complete, and perhaps one whose value is still to
come. -/
inductive OptionWord where
  | refused
  | complete (choices : List Choice)
  | awaiting (choices : List Choice) (name : String)
  deriving DecidableEq, Repr

def readShort (forms : List OptionForm) (choices : List Choice) : List Char → OptionWord
  | [] => .complete choices
  | letter :: letters =>
    match forms.find? fun form => form.short = some letter with
    | none => .refused
    | some form =>
      if !form.takesValue then readShort forms (choices ++ [⟨form.long, ""⟩]) letters
      else if letters.isEmpty then .awaiting choices form.long
      else .complete (choices ++ [⟨form.long, .ofList letters⟩])

def splitValue (word : List Char) : String × Option String :=
  let name := word.takeWhile fun char => char ≠ '='
  match word.drop name.length with
  | [] => (.ofList name, none)
  | _ :: value => (.ofList name, some (.ofList value))

def readOption (forms : List OptionForm) (word : List Char) : OptionWord :=
  let (name, value) := splitValue word
  match forms.find? fun form => form.long = name with
  | some form =>
    match form.takesValue, value with
    | true, some value => .complete [⟨name, value⟩]
    | true, none => .awaiting [] name
    | false, some _ => .refused
    | false, none => .complete [⟨name, ""⟩]
  | none =>
    match word with
    | '-' :: '-' :: _ => .refused
    | _ => readShort forms [] (word.drop 1)

def isOption : List Char → Bool
  | '-' :: _ :: _ => true
  | _ => false

/-- Reads words up to their end. Unless options and arguments may be mixed, the first argument
ends the options. -/
def readWords (forms : List OptionForm) (mixed : Bool) (done : Words) :
    List String → Option Words
  | [] => some done
  | word :: words =>
    if word = "--" then some { done with arguments := done.arguments ++ words }
    else if isOption word.toList then
      match readOption forms word.toList with
      | .refused => none
      | .complete choices =>
        readWords forms mixed { done with choices := done.choices ++ choices } words
      | .awaiting choices name =>
        match words with
        | [] => none
        | value :: words =>
          readWords forms mixed
            { done with choices := done.choices ++ choices ++ [⟨name, value⟩] } words
    else if mixed then
      readWords forms mixed { done with arguments := done.arguments ++ [word] } words
    else some { done with arguments := done.arguments ++ word :: words }

def Words.value? (words : Words) (name : String) : Option String :=
  (words.choices.reverse.find? fun choice => choice.name = name).map Choice.value

def Words.has (words : Words) (name : String) : Bool :=
  words.choices.any fun choice => choice.name = name

end Andromeda
