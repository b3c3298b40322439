import ActivityMetrics.Proofs.Decimal.Order
import ActivityMetrics.Proofs.Distinct

/-!
# Joins and predicates as ordered sets

Equality of parameters is no identity: zero has two signs, and what is no number differs from
itself. It is symmetric and transitive, and so steps that are nested to any depth add what they hold
one after another (`Fragments.steps_eq`). A predicate whose parameters are numbers, if they are of
floating point, is equal to itself as well (`Predicate.Proper.beq_self`), so it is found in a set
that it was added to.

A list without repeats stands for an ordered set, and of such a set one expects that its elements
are kept in the order in which they come, that to add one again changes nothing, and that it does
not matter how sets are put together. All of this is clear for an equality that is identity. Here it
depends on which of its properties a law uses. That sets may be merged in either grouping uses
symmetry and transitivity alone. That a set merged into itself stays the same uses that every
element is equal to itself, and fails for a parameter that is no number: it is added again and
again. The condition of the theorem is made for this law and for those like it.

What is kept is the first of equal predicates. With the two zeros this can be seen, as the one that
is kept is written with its own sign, and so merging in the other order may keep another predicate,
though an equal one. Hence the law on the other order is one on what a set contains, and not on its
elements.
-/

namespace ActivityMetrics

/-! ## Equality of parameters and predicates

Lists inherit symmetry and transitivity from their elements, and predicates from their
parameters. -/

section

variable {α : Type} [BEq α] [PartialEquivBEq α]

/-- Equality of lists is symmetric where that of their elements is. -/
theorem beq_list_symm {as bs : List α} (h : as == bs) : bs == as := by
  induction as generalizing bs with
  | nil => cases bs with
    | nil => rfl
    | cons => cases h
  | cons a as ih => cases bs with
    | nil => cases h
    | cons b bs =>
      rw [List.cons_beq_cons, Bool.and_eq_true] at h ⊢
      exact ⟨BEq.symm h.1, ih h.2⟩

/-- Equality of lists is transitive where that of their elements is. -/
theorem beq_list_trans {as bs cs : List α} (h : as == bs) (h' : bs == cs) : as == cs := by
  induction as generalizing bs cs with
  | nil => cases bs with
    | nil => exact h'
    | cons => cases h
  | cons a as ih => cases bs with
    | nil => cases h
    | cons b bs => cases cs with
      | nil => cases h'
      | cons c cs =>
        rw [List.cons_beq_cons, Bool.and_eq_true] at h h' ⊢
        exact ⟨BEq.trans h.1 h'.1, ih h.2 h'.2⟩

instance instPartialEquivBEqList : PartialEquivBEq (List α) :=
  ⟨beq_list_symm, beq_list_trans⟩

end

/-- Parameters that are equal: one value, or two floating-point numbers that are. Parameters of
different kinds never are, not even an integer and a floating-point number of one value. -/
inductive Parameter.Same : Parameter → Parameter → Prop
  /-- Anything else is only equal to itself. -/
  | value {v : Parameter} (exact : ∀ x, v ≠ .real x) : Same v v
  /-- The two zeros are equal, for one. -/
  | real {x y : Float} (equal : x == y) : Same (.real x) (.real y)

/-- Equality by kinds is what the parameters are compared by. -/
theorem Parameter.beq_iff_same {v w : Parameter} : v == w ↔ v.Same w := by
  constructor
  · intro h
    cases v with
    | null => cases w with
      | null => exact .value nofun
      | _ => cases h
    | integer i => cases w with
      | integer j =>
        obtain rfl : i = j := beq_iff_eq.1 (show (i == j) = true from h)
        exact .value nofun
      | _ => cases h
    | real x => cases w with
      | real y => exact .real h
      | _ => cases h
    | text s => cases w with
      | text t =>
        obtain rfl : s = t := beq_iff_eq.1 (show (s == t) = true from h)
        exact .value nofun
      | _ => cases h
    | blob a => cases w with
      | blob b =>
        obtain rfl : a = b := beq_iff_eq.1 (show (a == b) = true from h)
        exact .value nofun
      | _ => cases h
  · rintro (exact | equal)
    · cases v with
      | null => rfl
      | integer i => exact beq_self_eq_true i
      | real x => exact absurd rfl (exact x)
      | text s => exact beq_self_eq_true s
      | blob bytes => exact beq_self_eq_true bytes
    · exact equal

instance : PartialEquivBEq Parameter where
  symm h := by
    rw [Parameter.beq_iff_same] at h ⊢
    cases h with
    | value exact => exact .value exact
    | real equal => exact .real (BEq.symm equal)
  trans h h' := by
    rw [Parameter.beq_iff_same] at h h' ⊢
    cases h with
    | value exact => exact h'
    | real equal => cases h' with
      | value exact => exact absurd rfl (exact _)
      | real equal' => exact .real (BEq.trans equal equal')

/-- Predicates are equal if they have one text and equal parameters. -/
theorem Predicate.beq_iff {p q : Predicate} : p == q ↔ p.text = q.text ∧ p.params == q.params := by
  show (p.text == q.text && p.params == q.params) = true ↔ _
  rw [Bool.and_eq_true, beq_iff_eq]

instance : PartialEquivBEq Predicate where
  symm h := by
    rw [Predicate.beq_iff] at h ⊢
    exact ⟨h.1.symm, BEq.symm h.2⟩
  trans h h' := by
    rw [Predicate.beq_iff] at h h' ⊢
    exact ⟨h.1.trans h'.1, BEq.trans h.2 h'.2⟩

/-- A parameter is a number if it is a floating-point number. This leaves out the only parameters
that differ from themselves. -/
def Parameter.Proper : Parameter → Prop
  | .real x => x.isNaN = false
  | _ => True

/-- A proper parameter is equal to itself. -/
theorem Parameter.Proper.beq_self {v : Parameter} (h : v.Proper) : v == v := by
  rw [beq_iff_same]
  cases v with
  | real x =>
    have number := Decimal.isNumber_iff.2 h
    exact .real (Decimal.beq_iff.2 ⟨number, number, rfl⟩)
  | _ => exact .value nofun

/-- The parameters of a predicate are proper. -/
def Predicate.Proper (p : Predicate) : Prop :=
  ∀ v ∈ p.params, v.Proper

/-- A predicate of proper parameters is equal to itself. -/
theorem Predicate.Proper.beq_self {p : Predicate} (h : p.Proper) : p == p := by
  have params (vs : List Parameter) (proper : ∀ v ∈ vs, v.Proper) : vs == vs := by
    induction vs with
    | nil => rfl
    | cons v vs ih =>
      obtain ⟨first, rest⟩ := List.forall_mem_cons.1 proper
      rw [List.cons_beq_cons, Bool.and_eq_true]
      exact ⟨first.beq_self, ih rest⟩
  exact beq_iff.2 ⟨rfl, params p.params h⟩

/-! ## Steps

A set is built by steps, each of which adds a join, adds a predicate, or merges another set that is
itself built by steps. The nesting is undone here: what matters is what is added, from left to
right. -/

namespace Fragments

variable {J P : Type}

mutual

/-- What a step adds, from left to right. -/
def Step.added : Step J P → List (J ⊕ P)
  | .join j => [.inl j]
  | .restrict p => [.inr p]
  | .merge ss => added ss

/-- What steps add, from left to right. -/
def added : List (Step J P) → List (J ⊕ P)
  | [] => []
  | s :: ss => s.added ++ added ss

end

/-- The joins that steps add. -/
def joinsOf (ss : List (Step J P)) : List J :=
  (added ss).filterMap Sum.getLeft?

/-- The predicates that steps add. -/
def predicatesOf (ss : List (Step J P)) : List P :=
  (added ss).filterMap Sum.getRight?

section

variable [BEq J] [BEq P]

/-- Adds joins and predicates one after another. They do not meet, so that each kind keeps its own
order. -/
def addAll (f : Fragments J P) (xs : List (J ⊕ P)) : Fragments J P :=
  ⟨keepFirsts f.joins (xs.filterMap Sum.getLeft?),
    keepFirsts f.predicates (xs.filterMap Sum.getRight?)⟩

/-- First some and then others are added as all of them. -/
theorem addAll_append (f : Fragments J P) (xs ys : List (J ⊕ P)) :
    f.addAll (xs ++ ys) = (f.addAll xs).addAll ys := by
  simp only [addAll, List.filterMap_append, keepFirsts_append]

/-- The empty set adds nothing. -/
theorem merge_empty (f : Fragments J P) : f.merge empty = f :=
  rfl

/-- Three sets are merged in either grouping. The second is reduced before it is merged in the one,
and after it in the other; that an element was dropped in favour of an equal one does not matter, as
equality is transitive. -/
theorem merge_assoc [PartialEquivBEq J] [PartialEquivBEq P] (f g h : Fragments J P) :
    (f.merge g).merge h = f.merge (g.merge h) := by
  simp only [merge, keepFirsts_keepFirsts]

/-- To merge a set to which some are added is to merge the set and to add them. -/
theorem merge_addAll [PartialEquivBEq J] [PartialEquivBEq P] (f g : Fragments J P)
    (xs : List (J ⊕ P)) : f.merge (g.addAll xs) = (f.merge g).addAll xs := by
  simp only [merge, addAll, keepFirsts_keepFirsts]

/-- Merging a set adds nothing, if its elements are there and equal to themselves. Without the
second condition an element is not found although it is there. -/
theorem merge_self {f : Fragments J P} (joins : ∀ j ∈ f.joins, j == j)
    (predicates : ∀ p ∈ f.predicates, p == p) : f.merge f = f := by
  rw [merge, keepFirsts_eq_self fun j hj => contains_of_mem hj (joins j hj),
    keepFirsts_eq_self fun p hp => contains_of_mem hp (predicates p hp)]

mutual

/-- A step adds what it holds, one after another, however deep it is nested. -/
theorem step_eq [PartialEquivBEq J] [PartialEquivBEq P] (f : Fragments J P) :
    (s : Step J P) → step f s = f.addAll s.added
  | .join _ => by rw [step, Step.added]; rfl
  | .restrict _ => by rw [step, Step.added]; rfl
  | .merge ss => by rw [step, steps_eq empty ss, merge_addAll, merge_empty, Step.added]

/-- **So do steps**, from left to right. The recursion is that of the steps: a step that merges is
one over its own steps, and adds to the empty set before it is merged. -/
theorem steps_eq [PartialEquivBEq J] [PartialEquivBEq P] (f : Fragments J P) :
    (ss : List (Step J P)) → steps f ss = f.addAll (added ss)
  | [] => by rw [steps, added]; rfl
  | s :: ss => by rw [steps, step_eq f s, steps_eq _ ss, added, addAll_append]

end

variable [PartialEquivBEq J] [PartialEquivBEq P] (ss : List (Step J P))

/-- The joins of a set that is built step by step. -/
theorem joins_steps : (steps empty ss).joins = keepFirsts [] (joinsOf ss) :=
  congrArg Fragments.joins (steps_eq empty ss)

/-- Its predicates. -/
theorem predicates_steps : (steps empty ss).predicates = keepFirsts [] (predicatesOf ss) :=
  congrArg Fragments.predicates (steps_eq empty ss)

end

/-- The parameters of all steps are proper, however deep they are nested. -/
def Proper (ss : List (Step Join Predicate)) : Prop :=
  ∀ p ∈ predicatesOf ss, p.Proper

/-- Sets that are built by three sequences of steps are ordered sets. The first fields say what the
set is, as a function of what was added; those after them are laws of merging; the last says that
predicates are not lost, unless an equal one is there. -/
structure ActAsSets (ss ts us : List (Step Join Predicate)) : Prop where
  /-- Joins stay where they are added first. -/
  joins_eq : (steps empty ss).joins = (joinsOf ss).eraseDups
  /-- So do predicates. -/
  predicates_eq : (steps empty ss).predicates = (predicatesOf ss).eraseDups
  /-- No join is repeated. -/
  nodup_joins : (steps empty ss).joins.Nodup
  /-- No two predicates are equal. -/
  unrepeated_predicates : Unrepeated (steps empty ss).predicates
  /-- Merging a set into itself changes nothing. -/
  idempotent : (steps empty ss).merge (steps empty ss) = steps empty ss
  /-- Three sets are merged in either grouping. -/
  associative : ((steps empty ss).merge (steps empty ts)).merge (steps empty us)
    = (steps empty ss).merge ((steps empty ts).merge (steps empty us))
  /-- The empty set adds nothing. -/
  merge_empty : (steps empty ss).merge empty = steps empty ss
  /-- To the empty set, a set adds itself. -/
  empty_merge : empty.merge (steps empty ss) = steps empty ss
  /-- In the other order the joins are the same. -/
  same_joins : ∀ j, j ∈ ((steps empty ss).merge (steps empty ts)).joins
    ↔ j ∈ ((steps empty ts).merge (steps empty ss)).joins
  /-- In the other order the predicates are the same, as far as equal ones are. -/
  same_predicates : ∀ p, ((steps empty ss).merge (steps empty ts)).predicates.contains p
    = ((steps empty ts).merge (steps empty ss)).predicates.contains p
  /-- Predicates of one text with different parameters are both kept. -/
  kept_apart : ∀ p ∈ predicatesOf ss, ∀ q ∈ predicatesOf ss, p.text = q.text →
    (p.params == q.params) = false → ∃ p' ∈ (steps empty ss).predicates,
      ∃ q' ∈ (steps empty ss).predicates, p' == p ∧ q' == q ∧ (p' == q') = false

/-- **Sets that are built step by step are ordered sets**, to any depth of merging, if no parameter
is a floating-point number that is no number.

The sequences are arbitrary, with repeats, with the same joins in several of them, and with the same
predicate under different parameters. The last matters for statements: a dimension that is bound to
two values gives one text with two parameters, and to keep only one of them would select too much.
Only the first sequence has to be proper, as the laws are about the set that it builds, with two
others at its side. -/
theorem act_as_sets {ss ts us : List (Step Join Predicate)} (proper : Proper ss) :
    ActAsSets ss ts us where
  joins_eq := by rw [joins_steps, eraseDups_eq_keepFirsts]
  predicates_eq := by rw [predicates_steps, eraseDups_eq_keepFirsts]
  nodup_joins := by
    rw [joins_steps]
    exact nodup_keepFirsts List.nodup_nil
  unrepeated_predicates := by
    rw [predicates_steps]
    exact unrepeated_keepFirsts .nil _
  idempotent := by
    refine merge_self (fun j _ => beq_self_eq_true j) fun p hp => ?_
    rw [predicates_steps] at hp
    have added := (mem_of_mem_keepFirsts hp).resolve_left List.not_mem_nil
    exact (proper p added).beq_self
  associative := merge_assoc _ _ _
  merge_empty := merge_empty _
  empty_merge := by
    rw [steps_eq, merge_addAll, merge_empty]
  same_joins j := by
    rw [mem_joins_merge, mem_joins_merge, or_comm]
  same_predicates p := by
    rw [merge, merge, contains_keepFirsts, contains_keepFirsts, Bool.or_comm]
  kept_apart p hp q hq text differ := by
    rw [predicates_steps]
    obtain ⟨p', hp', same⟩ := exists_mem_keepFirsts [] hp (proper p hp).beq_self
    obtain ⟨q', hq', same'⟩ := exists_mem_keepFirsts [] hq (proper q hq).beq_self
    refine ⟨p', hp', q', hq', same, same', Bool.eq_false_iff.2 fun equal => ?_⟩
    have both : p == q := BEq.trans (BEq.symm same) (BEq.trans equal same')
    rw [(Predicate.beq_iff.1 both).2] at differ
    cases differ

/-- A condition on a column with the two zeros, and with the integer. -/
def zeros : List (Step Join Predicate) :=
  [.restrict ⟨"r.id = ?", [.real 0.0]⟩, .join ⟨"scm_repositories r", "r.id = s.repository_id"⟩,
    .merge [.restrict ⟨"r.id = ?", [.integer 0]⟩,
      .merge [.restrict ⟨"r.id = ?", [.real (-0.0)]⟩,
        .join ⟨"scm_repositories r", "r.id = s.repository_id"⟩]]]

/-- The integer zero is not equal to the first zero, which the second is. -/
theorem act_as_sets_zeros :
    Proper zeros ∧ ActAsSets zeros zeros.reverse [] ∧
      (steps empty zeros).predicates = [⟨"r.id = ?", [.real 0.0]⟩, ⟨"r.id = ?", [.integer 0]⟩] ∧
      (steps empty zeros).joins = [⟨"scm_repositories r", "r.id = s.repository_id"⟩] := by
  have proper : Proper zeros := by
    have first : (Parameter.real 0.0).Proper := rfl
    have second : (Parameter.real (-0.0)).Proper := rfl
    simp only [Proper, predicatesOf, zeros, added, Step.added, List.append_nil, List.cons_append,
      List.nil_append, List.filterMap, Sum.getRight?, List.forall_mem_cons, Predicate.Proper]
    exact ⟨⟨first, nofun⟩, ⟨trivial, nofun⟩, ⟨second, nofun⟩, nofun⟩
  have sets : ActAsSets zeros zeros.reverse [] := act_as_sets proper
  refine ⟨proper, sets, ?_, ?_⟩
  · rw [sets.predicates_eq]
    rfl
  · rw [sets.joins_eq]
    rfl

end Fragments

end ActivityMetrics
