import ActivityMetrics.Proofs.Query.Limits
import ActivityMetrics.Proofs.Query.Names

/-!
# Renamed texts

What a condition asks for reaches a statement as parameters only, each text on its own
(`Condition.params_eq`). So a condition on other texts has the same text itself
(`Condition.text_rename`), as long as there are as many of them.

Nothing that is asked for can change what a statement does, in other words, apart from the values
that it is compared with. In particular no value is ever read as a part of the language, whatever
characters it holds.
-/

namespace ActivityMetrics

/-- Marks are written alike, whatever their parameters. -/
theorem Token.chars_marks_congr {vs us : List Parameter} (h : vs.length = us.length) :
    chars (marks vs) = chars (marks us) := by
  induction vs generalizing us with
  | nil => rw [List.eq_nil_of_length_eq_zero h.symm]
  | cons v vs ih =>
    obtain ⟨u, us, rfl⟩ := List.exists_cons_of_length_eq_add_one h.symm
    have rest := ih (Nat.succ.inj h)
    cases vs with
    | nil =>
      cases us with
      | nil => rw [marks, marks, chars_mark, chars_mark]
      | cons u' us => cases h
    | cons v' vs =>
      cases us with
      | nil => cases h
      | cons u' us => simp only [marks, chars_mark, chars_words, rest]

/-- The closing condition on other texts. -/
def ClosingCondition.rename (c : ClosingCondition) (r : String → String) : ClosingCondition :=
  ⟨r c.field, c.values.map r⟩

namespace Condition

/-- The texts that a condition asks for. A condition on projects asks for the source, too. -/
def texts : Condition → List String
  | .repositoryIs _ name => [name]
  | .personIs uuid => [uuid]
  | .memberOf _ name => [name]
  | .inProjects source projects => source.name :: projects
  | .notBy uuids => uuids
  | .notFrom names => names
  | .closes condition => condition.field :: condition.values

/-- The condition on other texts. Projects are not renamed: they are found in a warehouse, and under
other names there may be more of them or fewer. -/
def rename (r : String → String) : Condition → Condition
  | .repositoryIs source name => .repositoryIs source (r name)
  | .personIs uuid => .personIs (r uuid)
  | .memberOf kind name => .memberOf kind (r name)
  | .inProjects source projects => .inProjects source projects
  | .notBy uuids => .notBy (uuids.map r)
  | .notFrom names => .notFrom (names.map r)
  | .closes condition => .closes (condition.rename r)

/-- **The text of a condition does not depend on the texts that it asks for.** It does depend on
their number, which renaming keeps. -/
theorem text_rename (r : String → String) (e : Event) (p : Condition) :
    ((p.rename r).predicate e).text = (p.predicate e).text := by
  have marks : ∀ texts : List String, Token.chars (Token.marks ((texts.map r).map .text))
      = Token.chars (Token.marks (texts.map .text)) := fun texts =>
    Token.chars_marks_congr (by simp)
  refine String.toList_inj.1 ?_
  show ((p.rename r).phrase e).text.toList = (p.phrase e).text.toList
  rw [Phrase.toList_text, Phrase.toList_text]
  cases p with
  | repositoryIs source name | personIs uuid | memberOf kind name | inProjects source projects =>
    rfl
  | notBy uuids =>
    simp only [rename, phrase, actorTokens, Phrase.chars_append, Phrase.chars_subquery,
      Token.chars_append, marks]
  | notFrom names =>
    simp only [rename, phrase, membershipTokens, Phrase.chars_append, Phrase.chars_subquery,
      Token.chars_append, marks]
  | closes condition =>
    simp only [rename, ClosingCondition.rename, phrase, Phrase.chars_append, Phrase.chars_marks,
      marks]
    rfl

/-- **The parameters of a condition are the texts that it asks for**, one by one. -/
theorem params_eq (e : Event) (p : Condition) : (p.predicate e).params = p.texts.map .text := by
  cases p with
  | repositoryIs source name | personIs uuid | memberOf kind name => rfl
  | inProjects source projects => exact params_inProjects e source projects
  | notBy uuids => exact params_notBy e uuids
  | notFrom names => exact params_notFrom e names
  | closes condition => exact params_closes e condition

end Condition

end ActivityMetrics
