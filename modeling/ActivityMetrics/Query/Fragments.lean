import ActivityMetrics.Query.Parameter

/-!
# Joins and predicates of a statement

What a statement needs beside the table of its events is collected from several places: tables to
join and predicates to hold. Both are kept as *ordered sets*: an element that is added again stays
where it was first. The sets are generic; they hold joins and predicates as text here, and their
meanings elsewhere.
-/

namespace ActivityMetrics

/-- Adds an element at the end, unless an equal one is present. -/
def keepFirst {α : Type} [BEq α] (xs : List α) (x : α) : List α :=
  if xs.contains x then xs else xs ++ [x]

/-- Adds elements from left to right. -/
def keepFirsts {α : Type} [BEq α] (xs ys : List α) : List α :=
  ys.foldl keepFirst xs

/-- An ordered set of joins and one of predicates. -/
structure Fragments (J P : Type) where
  /-- The joins. -/
  joins : List J := []
  /-- The predicates. -/
  predicates : List P := []

namespace Fragments

variable {J P : Type}

/-- Neither a join nor a predicate. -/
def empty : Fragments J P := {}

/-- There is neither a join nor a predicate. -/
def isEmpty (f : Fragments J P) : Bool :=
  f.joins.isEmpty && f.predicates.isEmpty

/-- The set of a list of joins. -/
def ofJoins [BEq J] (js : List J) : Fragments J P :=
  { joins := keepFirsts [] js }

/-- The set of a single predicate. -/
def ofPredicate (p : P) : Fragments J P :=
  { predicates := [p] }

/-- Adds a join. -/
def join [BEq J] (f : Fragments J P) (j : J) : Fragments J P :=
  { f with joins := keepFirst f.joins j }

/-- Adds a predicate. -/
def restrict [BEq P] (f : Fragments J P) (p : P) : Fragments J P :=
  { f with predicates := keepFirst f.predicates p }

/-- Adds the joins and the predicates of another set. -/
def merge [BEq J] [BEq P] (f g : Fragments J P) : Fragments J P :=
  ⟨keepFirsts f.joins g.joins, keepFirsts f.predicates g.predicates⟩

/-- Replaces every join and every predicate. -/
def map {J' P' : Type} (onJoin : J → J') (onPredicate : P → P') (f : Fragments J P) :
    Fragments J' P' :=
  ⟨f.joins.map onJoin, f.predicates.map onPredicate⟩

/-! ## Building step by step -/

/-- A step in building a set. -/
inductive Step (J P : Type) where
  /-- Add a join. -/
  | join (j : J)
  /-- Add a predicate. -/
  | restrict (p : P)
  /-- Add what other steps build. -/
  | merge (steps : List (Step J P))

mutual

/-- Takes a step. -/
def step [BEq J] [BEq P] (f : Fragments J P) : Step J P → Fragments J P
  | .join j => f.join j
  | .restrict p => f.restrict p
  | .merge ss => f.merge (steps empty ss)

/-- Takes steps from left to right. -/
def steps [BEq J] [BEq P] (f : Fragments J P) : List (Step J P) → Fragments J P
  | [] => f
  | s :: ss => steps (step f s) ss

end

/-- The numbers of joins and predicates after each of some steps. -/
def counts [BEq J] [BEq P] (f : Fragments J P) : List (Step J P) → List (Nat × Nat)
  | [] => []
  | s :: ss =>
    let g := step f s
    (g.joins.length, g.predicates.length) :: counts g ss

end Fragments

/-! ## Fragments as text -/

/-- A table that a statement joins, under an alias, and the condition for it. -/
structure Join where
  /-- The table and its alias. -/
  table : String
  /-- The condition. -/
  on : String
deriving DecidableEq

/-- The text of a join. -/
def Join.text (j : Join) : String :=
  "JOIN " ++ j.table ++ " ON " ++ j.on

/-- A predicate with the parameters of its marks, from left to right. -/
structure Predicate where
  /-- The text. -/
  text : String
  /-- The parameters. -/
  params : List Parameter
deriving BEq

/-- So many marks, separated by commas. -/
def placeholders (n : Nat) : String :=
  String.intercalate ", " (List.replicate n "?")

namespace Predicate

/-- A predicate without parameters. -/
def plain (text : String) : Predicate :=
  ⟨text, []⟩

/-- A column has a value. -/
def equals (column : String) (value : Parameter) : Predicate :=
  ⟨column ++ " = ?", [value]⟩

/-- A column has one of some values. None of them is always false. -/
def oneOf (column : String) (values : List Parameter) : Predicate :=
  if values.isEmpty then plain "0 = 1"
  else ⟨column ++ " IN (" ++ placeholders values.length ++ ")", values⟩

end Predicate

end ActivityMetrics
