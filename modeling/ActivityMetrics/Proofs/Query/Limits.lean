import ActivityMetrics.Query.Limits
import Mathlib.Algebra.Ring.Nat

/-!
# Which statements are accepted

The limits of a database are watched while a statement is read. Since the number of marks and the
depth only grow, it is enough to look at them in the end: a statement is accepted exactly when it
has no more than 32766 marks and no condition reaches deeper than a thousand levels
(`Limits.excess?_eq_none_iff`).

No filter is protected from these limits, since it may bind as many values and leave out as many
people as anyone likes. So a statement about answers compares what happens where the statements are
accepted, and it has to say which of two statements is accepted when the other one is. For that it
is enough to know how the two numbers are composed: every mark counts one, every condition that is
joined adds a level, and conditions themselves are no deeper than nine.

The two numbers behave differently. Marks are added, and so do not depend on the order of
conditions; of two statements with the same conditions both have as many. The depth does depend on
it. Conditions are joined from the left, each one level above those before it, so a deep condition
counts in full where it comes early and may be hidden under the others where it comes late. This is
why rearranging a filter can make the difference, and why the bounds here are for any order.
-/

namespace ActivityMetrics

namespace Limits

/-- Joining conditions to one does not make it less deep. -/
theorem le_joinedDepth (d : Nat) (others : List Nat) : d ≤ joinedDepth d others := by
  unfold joinedDepth
  induction others generalizing d with
  | nil => exact Nat.le_refl d
  | cons e others ih => exact Nat.le_trans (by omega) (ih (max d e + 1))

theorem le_foldl_max (r : Nat) (f : Nat → Nat) (ds : List Nat) :
    r ≤ ds.foldl (fun r d => max r (f d)) r := by
  induction ds generalizing r with
  | nil => exact Nat.le_refl r
  | cons d ds ih => exact Nat.le_trans (Nat.le_max_left _ _) (ih _)

theorem le_foldl_max_of_mem {r : Nat} (f : Nat → Nat) {ds : List Nat} {d : Nat} (h : d ∈ ds) :
    f d ≤ ds.foldl (fun r d => max r (f d)) r := by
  induction ds generalizing r with
  | nil => cases h
  | cons e ds ih =>
    rcases List.mem_cons.1 h with rfl | h
    · exact Nat.le_trans (Nat.le_max_right _ _) (le_foldl_max _ f ds)
    · exact ih h

theorem foldl_max_le {r bound : Nat} {f : Nat → Nat} {ds : List Nat} (first : r ≤ bound)
    (h : ∀ d ∈ ds, f d ≤ bound) : ds.foldl (fun r d => max r (f d)) r ≤ bound := by
  induction ds generalizing r with
  | nil => exact first
  | cons d ds ih =>
    rw [List.forall_mem_cons] at h
    exact ih (Nat.max_le.2 ⟨first, h.1⟩) h.2

/-- Numbers that are added from left to right. -/
theorem foldl_add_eq (m : Nat) (ns : List Nat) : ns.foldl (· + ·) m = m + ns.sum := by
  induction ns generalizing m with
  | nil => rfl
  | cons n ns ih => rw [List.foldl_cons, ih, List.sum_cons, Nat.add_assoc]

/-- There is no excess on the way when there is none in the end. The induction is on the conditions
that are still to be read, with the depth and the marks so far; the larger of the two is never
lowered again. -/
theorem firstExcess?_eq_none_iff {d m : Nat} (hd : d ≤ depth) (hm : m ≤ marks)
    (cs : List (Nat × Nat)) :
    firstExcess? d m cs = none ↔
      m + (cs.map Prod.snd).sum ≤ marks ∧ joinedDepth d (cs.map Prod.fst) ≤ depth := by
  induction cs generalizing d m with
  | nil => exact ⟨fun _ => ⟨hm, hd⟩, fun _ => rfl⟩
  | cons c cs ih =>
    obtain ⟨e, n⟩ := c
    have deeper := le_joinedDepth (max d e + 1) (cs.map Prod.fst)
    have step : joinedDepth d (((e, n) :: cs).map Prod.fst)
        = joinedDepth (max d e + 1) (cs.map Prod.fst) := rfl
    rw [step, List.map_cons, List.sum_cons, firstExcess?]
    dsimp only
    by_cases many : marks < m + n
    · rw [if_pos many]
      exact iff_of_false (Option.some_ne_none _) fun h => by omega
    · rw [if_neg many]
      by_cases deep : depth < max d e + 1
      · rw [if_pos deep]
        exact iff_of_false (Option.some_ne_none _) fun h => by omega
      · rw [if_neg deep, ih (by omega) (by omega), Nat.add_assoc]

/-- The number of marks of a statement: two for the window, those of the conditions, and one for a
limit on the number of rows. -/
def marksOf (e : Event) (cs : Clauses) (limited : Bool) : Nat :=
  2 + (cs.predicates.map (Condition.marks e)).sum + limited.toNat

/-- **A statement is accepted** exactly when it has no more marks and no deeper conditions than the
limits allow. Which of the limits is hit first matters to the message and to nothing else. -/
theorem excess?_eq_none_iff {e : Event} {cs : Clauses} {limited : Bool} :
    excess? e cs limited = none ↔ marksOf e cs limited ≤ marks ∧ cs.reach ≤ depth := by
  have first := firstExcess?_eq_none_iff (show comparisonDepth ≤ depth by decide)
    (show 1 ≤ marks by decide)
    ((comparisonDepth, 1) :: cs.predicates.map fun c => (c.depth, c.marks e))
  have sums : (cs.predicates.map fun c => (c.depth, c.marks e)).map Prod.snd
      = cs.predicates.map (Condition.marks e) := by
    rw [List.map_map]
    rfl
  have depths : (cs.predicates.map fun c => (c.depth, c.marks e)).map Prod.fst
      = cs.predicates.map Condition.depth := by
    rw [List.map_map]
    rfl
  have shallow : joinedDepth comparisonDepth (comparisonDepth :: cs.predicates.map Condition.depth)
      ≤ cs.reach :=
    Nat.le_trans (le_joinedDepth _ _) (le_foldl_max _ _ _)
  rw [List.map_cons, List.map_cons, sums, depths, List.sum_cons] at first
  dsimp only at first
  rw [excess?, marksOf, sums, foldl_add_eq]
  -- an excess on the way stays one; without it, only the mark of a limit is left to be read
  cases found : firstExcess? comparisonDepth 1
      ((comparisonDepth, 1) :: cs.predicates.map fun c => (c.depth, c.marks e)) with
  | some excess =>
    refine iff_of_false (Option.some_ne_none excess) fun h => ?_
    rw [first.2 ⟨by omega, by omega⟩] at found
    cases found
  | none =>
    have within := first.1 found
    dsimp only
    cases limited with
    | false =>
      rw [Bool.false_and, if_neg Bool.false_ne_true, Bool.toNat_false]
      split
      · exact iff_of_false (Option.some_ne_none _) fun h => by omega
      · exact iff_of_true rfl ⟨by omega, by omega⟩
    | true =>
      rw [Bool.true_and, Bool.toNat_true]
      split
      · rename_i many
        have := of_decide_eq_true many
        exact iff_of_false (Option.some_ne_none _) fun h => by omega
      · rename_i few
        have : ¬ _ := fun h => few (decide_eq_true h)
        split
        · exact iff_of_false (Option.some_ne_none _) fun h => by omega
        · exact iff_of_true rfl ⟨by omega, by omega⟩

end Limits

/-! ## Many marks and deep conditions

Of a condition, two numbers matter: how many marks it has, which for some is as many as there are
values, and how deep it is, which is a number fixed for each kind of condition. -/

/-- A list of marks has the parameters that it was made for. -/
theorem Token.filterMap_param?_marks (vs : List Parameter) :
    (marks vs).filterMap param? = vs := by
  induction vs with
  | nil => rfl
  | cons v vs ih =>
    cases vs with
    | nil => rfl
    | cons u us =>
      rw [marks, List.filterMap_cons, List.filterMap_cons, ih]
      · rfl
      · exact List.cons_ne_nil u us

/-- The parameters of two phrases come one after the other. -/
theorem Phrase.params_append (p q : Phrase) : (p ++ q).params = p.params ++ q.params := by
  rw [params, tokens, List.flatMap_append, List.filterMap_append]
  rfl

theorem Phrase.params_marks (vs : List Parameter) : (marks vs).params = vs := by
  rw [params, tokens, marks, List.flatMap_map]
  exact (congrArg _ (List.flatMap_singleton' _)).trans (Token.filterMap_param?_marks vs)

/-- A subquery has the parameters of its tokens, and no others. -/
theorem Phrase.params_subquery (ts : List Token) :
    Phrase.params [.subquery ts] = ts.filterMap Token.param? := by
  rw [params, tokens, List.flatMap_singleton]
  rfl

/-- There are ten links. -/
def Link.all : List Link :=
  .issue :: .identity :: [Source.scm, .its].map .repository
    ++ [Affiliation.organization, .country, .domain].flatMap fun kind =>
      [.enrollment kind, .group kind]

theorem Link.mem_all (l : Link) : l ∈ all := by
  cases l with
  | issue | identity => decide
  | repository source => cases source <;> decide
  | enrollment kind | group kind => cases kind <;> decide

/-- The condition of a membership is the deepest among those of links. -/
theorem Link.depth_le (l : Link) : l.depth ≤ 6 := by
  cases l <;> exact Nat.le_of_ble_eq_true rfl

/-- The marks of a condition do not depend on what is counted, so all statements of one filter have
as many. -/
theorem Condition.marks_event (p : Condition) (e e' : Event) : p.marks e = p.marks e' := by
  have params : (p.predicate e).params = (p.predicate e').params := by cases p <;> rfl
  rw [marks, marks, params]

theorem Condition.params_closes (e : Event) (c : ClosingCondition) :
    ((closes c).predicate e).params = .text c.field :: c.values.map .text := by
  simp only [predicate, phrase, Phrase.params_append, Phrase.params_marks]
  exact congrArg (_ :: ·) (List.append_nil _)

theorem Condition.params_inProjects (e : Event) (source : Source) (projects : List String) :
    ((inProjects source projects).predicate e).params
      = .text source.name :: projects.map .text := by
  rw [predicate, phrase, Phrase.params_append, Phrase.params_subquery, projectTokens,
    List.filterMap_append, List.filterMap_append, Token.filterMap_param?_marks]
  exact congrArg (_ :: ·) (List.append_nil _)

theorem Condition.params_notBy (e : Event) (uuids : List String) :
    ((notBy uuids).predicate e).params = uuids.map .text := by
  rw [predicate, phrase, Phrase.params_append, Phrase.params_append, Phrase.params_subquery,
    actorTokens, List.filterMap_append, List.filterMap_append, Token.filterMap_param?_marks]
  exact (List.append_nil _).trans (List.append_nil _)

theorem Condition.params_notFrom (e : Event) (names : List String) :
    ((notFrom names).predicate e).params = names.map .text := by
  rw [predicate, phrase, Phrase.params_append, Phrase.params_subquery, membershipTokens,
    List.filterMap_append, List.filterMap_append, Token.filterMap_param?_marks]
  exact List.append_nil _

/-- A closing condition has a mark for its field and one for each of its values. -/
theorem Condition.marks_closes (e : Event) (c : ClosingCondition) :
    (closes c).marks e = 1 + c.values.length := by
  rw [marks, params_closes, List.length_cons, List.length_map, Nat.add_comm]

/-- A condition on projects has a mark for the source and one for each of the projects. -/
theorem Condition.marks_inProjects (e : Event) (source : Source) (projects : List String) :
    (inProjects source projects).marks e = 1 + projects.length := by
  rw [marks, params_inProjects, List.length_cons, List.length_map, Nat.add_comm]

/-- A condition that leaves out people has a mark for each of them. -/
theorem Condition.marks_notBy (e : Event) (uuids : List String) :
    (notBy uuids).marks e = uuids.length := by
  rw [marks, params_notBy, List.length_map]

/-- An exclusion of organizations is the deepest among conditions. -/
theorem Condition.depth_le (p : Condition) : p.depth ≤ 9 := by
  cases p <;> exact Nat.le_of_ble_eq_true rfl

/-- The subquery of an exclusion of organizations is the deepest among subqueries. -/
theorem Condition.innerReach?_le (p : Condition) {d : Nat} (h : p.innerReach? = some d) :
    d ≤ 9 := by
  cases p <;> cases h <;> exact Nat.le_of_ble_eq_true rfl

namespace Limits

/-- Conditions of a mark each have as many marks as there are. -/
theorem sum_marks_of_single {e : Event} {ps : List Condition} (h : ∀ p ∈ ps, p.marks e = 1) :
    (ps.map (Condition.marks e)).sum = ps.length := by
  rw [List.map_congr_left h, List.map_const', List.sum_replicate_nat, Nat.mul_one]

/-- Every condition that is joined adds a level. -/
theorem add_length_le_joinedDepth (d : Nat) (others : List Nat) :
    d + others.length ≤ joinedDepth d others := by
  unfold joinedDepth
  induction others generalizing d with
  | nil => exact Nat.le_refl d
  | cons e others ih =>
    have deeper := ih (max d e + 1)
    rw [List.length_cons]
    exact Nat.le_trans (by omega) deeper

/-- Conditions of a bounded depth add a level each to the bound. -/
theorem joinedDepth_le {d bound : Nat} {others : List Nat} (first : d ≤ bound)
    (h : ∀ e ∈ others, e ≤ bound) : joinedDepth d others ≤ bound + others.length := by
  unfold joinedDepth
  induction others generalizing d bound with
  | nil => exact first
  | cons e others ih =>
    have shallow := h e List.mem_cons_self
    have level : max d e + 1 ≤ bound + 1 := by omega
    have rest := ih level fun x hx => Nat.le_succ_of_le (h x (List.mem_cons_of_mem _ hx))
    rw [List.length_cons]
    exact Nat.le_trans rest (by omega)

/-- To join conditions to a deeper one makes the whole deeper. -/
theorem joinedDepth_mono {d d' : Nat} (h : d ≤ d') (others : List Nat) :
    joinedDepth d others ≤ joinedDepth d' others := by
  unfold joinedDepth
  induction others generalizing d d' with
  | nil => exact h
  | cons e others ih => exact ih (show max d e + 1 ≤ max d' e + 1 by omega)

/-- One more condition in front only adds to the depth. -/
theorem joinedDepth_le_cons {d d' : Nat} (h : d ≤ d') (e : Nat) (others : List Nat) :
    joinedDepth d others ≤ joinedDepth d' (e :: others) :=
  joinedDepth_mono (show d ≤ max d' e + 1 by omega) others

/-- Conditions are joined one after another. -/
theorem joinedDepth_append (d : Nat) (others others' : List Nat) :
    joinedDepth d (others ++ others') = joinedDepth (joinedDepth d others) others' :=
  List.foldl_append

theorem foldl_max_mono {r r' d d' : Nat} (hr : r ≤ r') (hd : d ≤ d') (ns : List Nat) :
    ns.foldl (fun r n => max r (d + n)) r ≤ ns.foldl (fun r n => max r (d' + n)) r' := by
  induction ns generalizing r r' with
  | nil => exact hr
  | cons n ns ih => exact ih (show max r (d + n) ≤ max r' (d' + n) by omega)

end Limits

namespace Clauses

variable {cs : Clauses}

/-- One more link and one more condition in front only add to the reach. -/
theorem reach_le_cons (l : Link) {p : Condition} (flat : p.innerReach? = none) (cs : Clauses) :
    cs.reach ≤ Clauses.reach ⟨l :: cs.joins, p :: cs.predicates⟩ := by
  have window : cs.predicateDepth ≤ predicateDepth ⟨l :: cs.joins, p :: cs.predicates⟩ :=
    Limits.joinedDepth_le_cons (Nat.le_refl (Limits.comparisonDepth + 1)) p.depth _
  have depth : cs.depth ≤ depth ⟨l :: cs.joins, p :: cs.predicates⟩ :=
    Limits.joinedDepth_le_cons window _ _
  unfold reach
  rw [List.filterMap_cons_none flat]
  exact Limits.foldl_max_mono depth depth _

/-- Every predicate of a statement adds a level to the window. -/
theorem length_predicates_lt_predicateDepth (cs : Clauses) :
    cs.predicates.length + Limits.comparisonDepth < cs.predicateDepth := by
  have window := Limits.add_length_le_joinedDepth Limits.comparisonDepth
    (Limits.comparisonDepth :: cs.predicates.map Condition.depth)
  rw [List.length_cons, List.length_map] at window
  unfold predicateDepth
  omega

/-- Every predicate of a statement adds a level. -/
theorem length_predicates_lt_reach (cs : Clauses) : cs.predicates.length < cs.reach := by
  have window := cs.length_predicates_lt_predicateDepth
  have joins : cs.predicateDepth ≤ cs.depth := Limits.le_joinedDepth _ _
  have subqueries : cs.depth ≤ cs.reach := Limits.le_foldl_max _ _ _
  omega

/-- A subquery stands below all levels. -/
theorem add_innerReach_le_reach {p : Condition} (hp : p ∈ cs.predicates) {inner : Nat}
    (hi : p.innerReach? = some inner) : cs.depth + inner ≤ cs.reach := by
  have there : inner ∈ cs.predicates.filterMap Condition.innerReach? :=
    List.mem_filterMap.2 ⟨p, hp, hi⟩
  exact Limits.le_foldl_max_of_mem (cs.depth + ·) there

/-- Conditions and links of a bounded depth add no more than a level each. The window comes first,
then the conditions and then the links, and each bound starts where the one before has ended. -/
theorem depth_le {bound : Nat} (flat : Limits.comparisonDepth ≤ bound)
    (predicates : ∀ p ∈ cs.predicates, p.depth ≤ bound)
    (joins : ∀ l ∈ cs.joins, l.depth ≤ bound) :
    cs.depth ≤ bound + 1 + cs.predicates.length + cs.joins.length := by
  have level : ∀ e ∈ Limits.comparisonDepth :: cs.predicates.map Condition.depth, e ≤ bound := by
    intro e he
    rcases List.mem_cons.1 he with rfl | he
    · exact flat
    · obtain ⟨p, hp, rfl⟩ := List.mem_map.1 he
      exact predicates p hp
  have window := Limits.joinedDepth_le flat level
  rw [List.length_cons, List.length_map] at window
  have joined : ∀ e ∈ cs.joins.map Link.depth, e ≤ bound + 1 + cs.predicates.length := by
    intro e he
    obtain ⟨l, hl, rfl⟩ := List.mem_map.1 he
    exact Nat.le_trans (joins l hl) (by omega)
  have first : cs.predicateDepth ≤ bound + 1 + cs.predicates.length := by
    unfold predicateDepth
    omega
  have links := Limits.joinedDepth_le first joined
  rw [List.length_map] at links
  exact links

/-- Subqueries of a bounded depth reach no deeper than that below all levels. -/
theorem reach_le_depth_add {inner : Nat}
    (subqueries : ∀ p ∈ cs.predicates, ∀ d, p.innerReach? = some d → d ≤ inner) :
    cs.reach ≤ cs.depth + inner := by
  refine Limits.foldl_max_le (Nat.le_add_right _ _) fun d hd => ?_
  obtain ⟨p, hp, below⟩ := List.mem_filterMap.1 hd
  exact Nat.add_le_add_left (subqueries p hp d below) _

/-- Conditions and links of a bounded depth, without subqueries, add no more than a level each. -/
theorem reach_le {bound : Nat} (flat : Limits.comparisonDepth ≤ bound)
    (predicates : ∀ p ∈ cs.predicates, p.depth ≤ bound ∧ p.innerReach? = none)
    (joins : ∀ l ∈ cs.joins, l.depth ≤ bound) :
    cs.reach ≤ bound + 1 + cs.predicates.length + cs.joins.length := by
  have levels := depth_le flat (fun p hp => (predicates p hp).1) joins
  have none_below : ∀ p ∈ cs.predicates, ∀ d, p.innerReach? = some d → d ≤ 0 := by
    intro p hp d below
    rw [(predicates p hp).2] at below
    cases below
  exact Nat.le_trans (reach_le_depth_add none_below) levels

/-- **Whatever the conditions and links are**, each adds no more than a level. So a filter of a few
hundred parts is always accepted, as far as depth goes. -/
theorem reach_le_length (cs : Clauses) :
    cs.reach ≤ 19 + cs.predicates.length + cs.joins.length := by
  have levels : cs.depth ≤ 9 + 1 + cs.predicates.length + cs.joins.length :=
    depth_le (by decide) (fun p _ => p.depth_le) fun l _ => Nat.le_trans l.depth_le (by decide)
  have below := cs.reach_le_depth_add fun p _ d => p.innerReach?_le
  omega

end Clauses

end ActivityMetrics
