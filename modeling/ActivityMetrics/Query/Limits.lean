import ActivityMetrics.Failure
import ActivityMetrics.Query.Clause

/-!
# Limits of a statement

A database refuses a statement that is too large for it. The conditions of a statement form a tree,
and the tree may not be deeper than a thousand levels. A column of a named table is two levels deep,
a mark one, and a comparison is a level above the two. Conditions joined by `AND` lean to the left,
so that each one adds a level to those before it: first the window, then the predicates, then the
conditions of the joins. A subquery stands below everything around it, and the conditions in it,
those of its own joins included, may not reach deeper than the limit either.

A statement may have no more than 32766 marks. The two limits are watched while the statement is
read from left to right, and what comes with the joins is added at the end; the first excess is the
one that is reported.
-/

namespace ActivityMetrics

namespace Limits

/-- The greatest depth of the conditions of a statement. -/
def depth : Nat := 1000

/-- The greatest number of marks of a statement. -/
def marks : Nat := 32766

/-- The depth of a column of a named table. -/
def columnDepth : Nat := 2

/-- The depth of a comparison of a column with a column, with a mark, or with a list of marks. -/
def comparisonDepth : Nat := columnDepth + 1

/-- The depth of a condition to which others are joined. -/
def joinedDepth (first : Nat) (others : List Nat) : Nat :=
  others.foldl (fun d e => max d e + 1) first

end Limits

open Limits

/-- The depth of the condition of a link. -/
def Link.depth : Link → Nat
  | .enrollment _ => joinedDepth comparisonDepth (List.replicate 3 comparisonDepth)
  | .issue | .repository _ | .identity | .group _ => comparisonDepth

namespace Condition

/-- The depth of what a subquery requires, if the condition has one. -/
def innerDepth? : Condition → Option Nat
  | .inProjects _ _ => some (joinedDepth comparisonDepth [comparisonDepth])
  | .notBy _ => some comparisonDepth
  | .notFrom _ => some (joinedDepth comparisonDepth (List.replicate 4 comparisonDepth))
  | .repositoryIs _ _ | .personIs _ | .memberOf _ _ | .closes _ => none

/-- The depth of what a subquery requires, with the conditions of its joins. -/
def innerReach? (c : Condition) : Option Nat :=
  c.innerDepth?.map fun d =>
    match c with
    | .notFrom _ => joinedDepth d [comparisonDepth, comparisonDepth]
    | _ => d

/-- The depth of a condition. A subquery is a level above what it requires, and so is a negation. -/
def depth (c : Condition) : Nat :=
  let inner := c.innerDepth?.getD 0
  match c with
  | .repositoryIs _ _ | .personIs _ | .memberOf _ _ => comparisonDepth
  | .closes _ => joinedDepth comparisonDepth [comparisonDepth]
  | .inProjects _ _ => max columnDepth inner + 1
  | .notBy _ => joinedDepth comparisonDepth [max columnDepth inner + 1 + 1]
  | .notFrom _ => inner + 1 + 1

/-- The number of marks of a condition. -/
def marks (e : Event) (c : Condition) : Nat :=
  (c.predicate e).params.length

end Condition

namespace Clauses

/-- The depth of the conditions of a statement, up to the last predicate. -/
def predicateDepth (cs : Clauses) : Nat :=
  joinedDepth comparisonDepth (comparisonDepth :: cs.predicates.map Condition.depth)

/-- The depth of the conditions of a statement, with those of the joins. -/
def depth (cs : Clauses) : Nat :=
  joinedDepth cs.predicateDepth (cs.joins.map Link.depth)

/-- The greatest depth that a condition reaches, in a subquery or outside. -/
def reach (cs : Clauses) : Nat :=
  (cs.predicates.filterMap Condition.innerReach?).foldl (fun r d => max r (cs.depth + d)) cs.depth

example :
    Clauses.reach ⟨[.repository .scm], List.replicate 5 (.repositoryIs .scm "core")⟩ = 10 := by
  decide
example : Clauses.reach ⟨[], [.inProjects .scm ["suite"]]⟩ = 10 := by decide
example : Clauses.reach ⟨[], [.notFrom ["guild"]]⟩ = 19 := by decide

end Clauses

namespace Limits

/-- What there is too much of. -/
inductive Excess where
  /-- Levels. -/
  | depth
  /-- Marks. -/
  | marks
deriving DecidableEq

/-- The first excess among conditions, given by depth and number of marks, behind some others. -/
def firstExcess? (d m : Nat) : List (Nat × Nat) → Option Excess
  | [] => none
  | (depth, count) :: rest =>
    if marks < m + count then some .marks
    else if Limits.depth < max d depth + 1 then some .depth
    else firstExcess? (max d depth + 1) (m + count) rest

/-- What there is too much of in a statement with some clauses. A limit on the number of rows is one
more mark. -/
def excess? (e : Event) (cs : Clauses) (limited : Bool) : Option Excess :=
  let window := (comparisonDepth, 1)
  let predicates := cs.predicates.map fun c => (c.depth, c.marks e)
  let total := (predicates.map Prod.snd).foldl (· + ·) 2
  match firstExcess? comparisonDepth 1 (window :: predicates) with
  | some excess => some excess
  | none =>
    if limited && marks < total + 1 then some .marks
    else if Limits.depth < cs.reach then some .depth
    else none

/-- The place of the first mark behind some others in a text. -/
def markOffset (others : Nat) : List Char → Nat
  | [] => 0
  | c :: cs =>
    match c, others with
    | '?', 0 => 0
    | '?', n + 1 => markOffset n cs + 1
    | _, n => markOffset n cs + 1

/-- The fault of a statement of some clauses, if it is refused. -/
def fault? (e : Event) (cs : Clauses) (limited : Bool) (text : String) : Option DatabaseFault :=
  (excess? e cs limited).map fun
    | .depth => .tooDeep Limits.depth
    | .marks => .tooManyMarks text (markOffset marks text.toList)

end Limits

end ActivityMetrics
