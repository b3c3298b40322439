import ActivityMetrics.Text.CaseTable

/-!
# Lower case

`lowercase` is the full lower-case mapping of Unicode: every character has its own lower case, with
two rules that look further. `İ` becomes two characters, an `i` and a combining dot. A capital sigma
becomes `ς` at the end of a word and `σ` elsewhere.
-/

namespace ActivityMetrics.Text

/-- The run of capital letters that holds the code point `n`. -/
def lowerRun? (n : Nat) : Option CaseRun :=
  lowerRuns.find? fun (first, last, step, _) => first ≤ n && n ≤ last && (n - first) % step == 0

/-- The lower case of a single character. -/
def lowerChar (c : Char) : Char :=
  if c.toNat < 0x80 then c.toLower
  else
    match lowerRun? c.toNat with
    | some (_, _, _, distance) => Char.ofNat (c.toNat + distance).toNat
    | none => c

/-- Past the characters that case ignores comes a letter that has case. -/
def leadsToCased (cs : List Char) : Bool :=
  match cs.dropWhile caseIgnorableRanges.contains with
  | c :: _ => casedRanges.contains c
  | [] => false

/-- The lower case of `c` between the characters before it, nearest first, and those after it. -/
def lowerIn (before : List Char) (c : Char) (after : List Char) : List Char :=
  if c = 'Σ' then
    if leadsToCased before && !leadsToCased after then ['ς'] else ['σ']
  else if c = 'İ' then ['i', '\u0307']
  else [lowerChar c]

/-- The lower case of the characters after `before`, which is held in reverse order. -/
def lowerFrom (before : List Char) : List Char → List Char
  | [] => []
  | c :: cs => lowerIn before c cs ++ lowerFrom (c :: before) cs

/-- The full lower-case mapping of a text. -/
def lowercase (s : String) : String :=
  String.ofList (lowerFrom [] s.toList)

end ActivityMetrics.Text
