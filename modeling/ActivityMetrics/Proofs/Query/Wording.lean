import ActivityMetrics.Proofs.Distinct
import ActivityMetrics.Proofs.Query.Renaming

/-!
# Clauses that are collected as text

Links and conditions are collected first, and worded when they are complete. They could as well be
worded one by one and be collected as text (`Clauses.wording_merge`, `Clauses.wording_foldl_merge`):
different links have different joins, and different conditions have different texts or parameters,
so that the same ones are present already.

The second way is that of a program that composes statements as text from the start, and collapses
joins and predicates that are written alike. The first way is the one to reason about, since a link
says what it does and its text does not. That they give the same statement has to be shown for the
order as well, as the parameters follow it.
-/

namespace ActivityMetrics

/-! ## Links -/

/-- **Different links have different joins.** Their tables tell them apart, or the names under which
the tables are joined. -/
theorem Link.join_injective (e : Event) : Function.Injective (join e) := by
  have tables : (all.map fun l => l.tableName ++ " " ++ l.tableAlias.text).Nodup := by
    decide +kernel
  exact fun l l' same => injective_of_nodup_map mem_all tables (congrArg Join.table same)

/-! ## Conditions -/

theorem Source.name_injective : Function.Injective name := by
  intro s t same
  cases s <;> cases t <;> first
    | rfl
    | exact absurd same (by decide)

/-- Texts are compared as parameters as they are compared themselves. -/
theorem Parameter.beq_map_text (ss ts : List String) :
    (ss.map text == ts.map text) = (ss == ts) := by
  induction ss generalizing ts with
  | nil => cases ts <;> rfl
  | cons s ss ih =>
    cases ts with
    | nil => rfl
    | cons t ts => exact congrArg (s == t && ·) (ih ts)

namespace Condition

/-- The condition of the same kind that asks for nothing. What is left of a condition then is its
kind, and there are ten of them. -/
def bare : Condition → Condition
  | .repositoryIs source _ => .repositoryIs source ""
  | .personIs _ => .personIs ""
  | .memberOf kind _ => .memberOf kind ""
  | .inProjects _ _ => .inProjects .scm []
  | .notBy _ => .notBy []
  | .notFrom _ => .notFrom []
  | .closes _ => .closes ⟨"", []⟩

/-- There are ten kinds of conditions. -/
def kinds : List Condition :=
  [.repositoryIs .scm "", .repositoryIs .its "", .personIs "", .memberOf .organization "",
    .memberOf .country "", .memberOf .domain "", .inProjects .scm [], .notBy [], .notFrom [],
    .closes ⟨"", []⟩]

theorem bare_mem_kinds (p : Condition) : p.bare ∈ kinds := by
  cases p with
  | repositoryIs source name => cases source <;> simp [bare, kinds]
  | memberOf kind name => cases kind <;> simp [bare, kinds]
  | personIs uuid | inProjects source projects | notBy uuids | notFrom names | closes condition =>
    simp [bare, kinds]

/-- The first four characters of a condition. -/
def start (e : Event) (p : Condition) : List Char :=
  (p.phrase e).chars.take 4

theorem start_bare (e : Event) (p : Condition) : p.bare.start e = p.start e := by
  cases p with
  | repositoryIs source name | personIs uuid | memberOf kind name => rfl
  | inProjects source projects =>
    cases e <;> simp [start, bare, phrase, Event.repository, Alias.text]
  | notBy uuids => cases e <;> simp [start, bare, phrase, Event.actor, Alias.text]
  | notFrom names => simp [start, bare, phrase]
  | closes condition => simp [start, bare, phrase, Alias.text]

/-- Conditions of different kinds start differently. The first four characters are enough, so the
rest need not be looked at. -/
theorem bare_eq_of_text {e : Event} {p q : Condition}
    (same : (p.predicate e).text = (q.predicate e).text) : p.bare = q.bare := by
  have nodup : (kinds.map (start e)).Nodup := by cases e <;> decide +kernel
  have chars : (p.phrase e).chars = (q.phrase e).chars := by
    rw [← Phrase.toList_text, ← Phrase.toList_text]
    exact congrArg String.toList same
  refine List.inj_on_of_nodup_map nodup p.bare_mem_kinds q.bare_mem_kinds ?_
  rw [start_bare, start_bare, start, start, chars]

/-- Conditions of a kind are told apart by the texts that they ask for. -/
theorem eq_of_bare_of_texts {p q : Condition} (kind : p.bare = q.bare) (texts : p.texts = q.texts) :
    p = q := by
  cases p with
  | repositoryIs source name | personIs uuid | memberOf kind name | notBy uuids | notFrom names =>
    cases q <;> cases kind
    cases texts
    rfl
  | inProjects source projects =>
    cases q <;> cases kind
    obtain ⟨same, rfl⟩ := List.cons.inj texts
    rw [Source.name_injective same]
  | closes condition =>
    cases q <;> cases kind
    obtain ⟨field, values⟩ := List.cons.inj texts
    exact congrArg closes (congrArg₂ ClosingCondition.mk field values)

/-- **Different conditions have different predicates.** They differ in their texts if they are of
different kinds, and in their parameters otherwise. -/
theorem beq_predicate (e : Event) (p q : Condition) :
    (p.predicate e == q.predicate e) = (p == q) := by
  -- equality of parameters is not lawful for all numbers, but it is for texts
  have parts : (p.predicate e == q.predicate e)
      = ((p.predicate e).text == (q.predicate e).text
        && (p.predicate e).params == (q.predicate e).params) := rfl
  rw [parts, params_eq, params_eq, Parameter.beq_map_text, Bool.eq_iff_iff, Bool.and_eq_true,
    beq_iff_eq, beq_iff_eq, beq_iff_eq]
  constructor
  · rintro ⟨text, texts⟩
    exact eq_of_bare_of_texts (bare_eq_of_text text) texts
  · rintro rfl
    exact ⟨rfl, rfl⟩

end Condition

/-! ## Collecting -/

namespace Clauses

/-- **Clauses that are added are added as text.** What is left out as known in one way is left out
in the other. -/
theorem wording_merge (e : Event) (cs cs' : Clauses) :
    wording e (cs.merge cs') = (wording e cs).merge (wording e cs') := by
  have joins : keepFirsts (cs.joins.map (Link.join e)) (cs'.joins.map (Link.join e))
      = (keepFirsts cs.joins cs'.joins).map (Link.join e) :=
    keepFirsts_map (fun _ _ _ _ same => Link.join_injective e same)
      (List.subset_append_left _ _) (List.subset_append_right _ _)
  have predicates : keepFirsts (cs.predicates.map (Condition.predicate e))
        (cs'.predicates.map (Condition.predicate e))
      = (keepFirsts cs.predicates cs'.predicates).map (Condition.predicate e) :=
    keepFirsts_map_of_beq (fun p _ q _ => p.beq_predicate e q)
      (List.subset_append_left _ _) (List.subset_append_right _ _)
  exact (congrArg₂ Fragments.mk joins predicates).symm

/-- Clauses that are merged one after another are worded as the wordings are merged. -/
theorem wording_foldl_merge (e : Event) (cs : Clauses) (added : List Clauses) :
    wording e (added.foldl Fragments.merge cs)
      = (added.map (wording e)).foldl Fragments.merge (wording e cs) := by
  induction added generalizing cs with
  | nil => rfl
  | cons first rest ih => rw [List.foldl_cons, ih, wording_merge, List.map_cons, List.foldl_cons]

end Clauses

end ActivityMetrics
