import ActivityMetrics.Text.Ranges

/-!
# White space

The white space of the library is the Unicode property `White_Space`: 25 characters in ten ranges.
It is what `trim` removes from both ends of a text, and what separates the parts of a date or of an
assignment.
-/

namespace ActivityMetrics.Text

/-- The Unicode property `White_Space`. -/
def blankRanges : Ranges :=
  [(0x09, 0x0D), (0x20, 0x20), (0x85, 0x85), (0xA0, 0xA0), (0x1680, 0x1680), (0x2000, 0x200A),
   (0x2028, 0x2029), (0x202F, 0x202F), (0x205F, 0x205F), (0x3000, 0x3000)]

example : blankRanges.wellFormed = true := by decide
example : blankRanges.size = 25 := by decide

/-- White space. -/
def isBlank (c : Char) : Bool :=
  blankRanges.contains c

/-- The characters left after the white space in front. -/
def dropBlank (cs : List Char) : List Char :=
  cs.dropWhile isBlank

/-- The characters without the white space at the end. -/
def dropBlankEnd (cs : List Char) : List Char :=
  (cs.reverse.dropWhile isBlank).reverse

/-- The characters without the white space at both ends. -/
def trimChars (cs : List Char) : List Char :=
  dropBlankEnd (dropBlank cs)

/-- A text without the white space at both ends. -/
def trim (s : String) : String :=
  String.ofList (trimChars s.toList)

@[simp]
theorem toList_trim (s : String) : (trim s).toList = trimChars s.toList := by
  simp [trim]

/-- The pieces of `cs` between the occurrences of `sep`. There is one more than occurrences, so
the empty list has one empty piece. -/
def splitChars (sep : Char) : List Char → List (List Char)
  | [] => [[]]
  | c :: cs =>
    match splitChars sep cs with
    | [] => [[c]]
    | piece :: pieces => if c = sep then [] :: piece :: pieces else (c :: piece) :: pieces

/-- The pieces of a text between its commas. -/
def splitCommas (s : String) : List String :=
  (splitChars ',' s.toList).map String.ofList

example : splitCommas "a,b,,c," = ["a", "b", "", "c", ""] := by decide
example : splitCommas "" = [""] := by decide

/-- The trimmed pieces of a comma-separated list, the blank ones left out. -/
def listEntries (s : String) : List String :=
  ((splitCommas s).map trim).filter fun v => !v.isEmpty

end ActivityMetrics.Text
