import ActivityMetrics.Filter.Basic

/-!
# Assignments

On a command line a dimension is bound by an argument `dimension=value`, and broken down by
`dimension=*`. The dimension is a word of ASCII letters and underscores; white space around it and
around the value is ignored. The value has a character at least, and no line break.
-/

namespace ActivityMetrics

namespace Assignment

/-- A letter of the name of a dimension. -/
def isNameChar (c : Char) : Bool :=
  c.isAlpha || c = '_'

/-- The name and the value of an argument, if it has the form of an assignment. -/
def split? (cs : List Char) : Option (String × String) :=
  let cs := Text.dropBlank cs
  let name := cs.takeWhile isNameChar
  match name, Text.dropBlank (cs.dropWhile isNameChar) with
  | _ :: _, '=' :: rest =>
    let value := Text.trimChars rest
    if value.isEmpty || value.contains '\n' then none
    else some (String.ofList name, String.ofList value)
  | _, _ => none

/-- Reads an argument. A value of `*` stands for every item and is absent from the result. -/
def read (s : String) : Outcome (Dimension × Option String) :=
  match split? s.toList with
  | none => .error (.filter (.assignment s))
  | some (name, value) =>
    match Dimension.ofName name with
    | .error e => .error e
    | .ok d => .ok (d, if value = "*" then none else some value)

/-- Reads arguments from left to right, up to the first that fails. -/
def readAll (args : List String) : Outcome (List (Dimension × Option String)) :=
  args.mapM read

end Assignment

end ActivityMetrics
