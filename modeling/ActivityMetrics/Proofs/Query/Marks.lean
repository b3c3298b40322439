import ActivityMetrics.Proofs.Query.Limits
import ActivityMetrics.Proofs.Query.Statement

/-!
# Marks and parameters

The text of a statement and its parameters are composed side by side, so that nothing but their
places ties a mark to its parameter. If a mark went missing, or a text that is not a mark held one,
every parameter behind it would be read as another, and the answer would be wrong without any sign
of it.

Both fit together when this is so of every piece: a token has a mark exactly where it has a
parameter, so the predicate of a condition has as many marks as parameters
(`Condition.balanced_predicate`), and the rest of a statement adds the marks of the window and of
the limit (`Statement.WellMarked.linesUp`). Marks are counted in the text itself, as the database
does it. No text that comes from a user stands in a statement, so none can bring a mark along.
-/

namespace ActivityMetrics

/-- The number of marks in a text. Every question mark is one, since no statement holds a quoted
text with a question mark in it. -/
def marksIn (text : String) : Nat :=
  text.toList.count '?'

/-! ## Marks of composed texts

A text that is put together has the marks of its pieces. All the words around them have none, which
is checked where the words are. -/

@[simp]
theorem marksIn_append (s t : String) : marksIn (s ++ t) = marksIn s + marksIn t := by
  unfold marksIn
  rw [String.toList_append, List.count_append]

theorem marksIn_join (texts : List String) :
    marksIn (String.join texts) = (texts.map marksIn).sum := by
  induction texts with
  | nil => rfl
  | cons t ts ih => rw [String.join_cons, marksIn_append, ih, List.map_cons, List.sum_cons]

/-- A list has the marks of its items, if what separates them has none. -/
theorem marksIn_listed {sep : String} (h : marksIn sep = 0) (texts : List String) :
    marksIn (Statement.listed sep texts) = (texts.map marksIn).sum := by
  cases texts with
  | nil => exact congrArg marksIn String.intercalate_nil
  | cons t ts =>
    have others : marksIn ∘ (sep ++ ·) = marksIn :=
      funext fun u => by rw [Function.comp, marksIn_append, h, Nat.zero_add]
    rw [Statement.listed_cons, marksIn_append, marksIn_join, List.map_map, others, List.map_cons,
      List.sum_cons]

/-- A clause has the marks of its items, if its keyword and its separator have none. -/
theorem marksIn_clause {keyword sep : String} (hk : marksIn keyword = 0) (hs : marksIn sep = 0)
    (texts : List String) :
    marksIn (Statement.clause keyword sep texts) = (texts.map marksIn).sum := by
  cases texts with
  | nil => rfl
  | cons t ts =>
    rw [Statement.clause, marksIn_append, hk, marksIn_listed hs, Nat.zero_add]
    exact List.cons_ne_nil t ts

theorem sum_marksIn_eq_zero {texts : List String} (h : ∀ t ∈ texts, marksIn t = 0) :
    (texts.map marksIn).sum = 0 := by
  rw [List.map_congr_left h, List.map_const', List.sum_replicate_nat, Nat.mul_zero]

/-- A number is written without a mark. -/
theorem marksIn_toString (n : Nat) : marksIn (toString n) = 0 := by
  refine List.count_eq_zero.2 fun there => ?_
  have digit : '?' ∈ Nat.toDigits 10 n := by simpa using there
  exact absurd (Nat.isDigit_of_mem_toDigits (by decide) (by decide) digit) (by decide)

/-- A time is computed from its column without a mark. -/
theorem TimeExpression.marksIn_text {column : String} (h : marksIn column = 0)
    (t : TimeExpression) : marksIn (t.text column) = 0 := by
  cases t with
  | column => exact h
  | date | thursday =>
    rw [text, marksIn_append, marksIn_append, h]
    rfl

/-- **A bucket is computed without a mark.** The induction is on the expression, with one case for
each way to compose it. -/
theorem BucketExpression.marksIn_text {column : String} (h : marksIn column = 0)
    (x : BucketExpression) : marksIn (x.text column) = 0 := by
  induction x with
  | part p t =>
    have letter : marksIn p.letter = 0 := by cases p <;> rfl
    show marksIn ("CAST(strftime('%" ++ p.letter ++ "', " ++ t.text column ++ ") AS INTEGER)") = 0
    simp only [marksIn_append, letter, t.marksIn_text h]
    rfl
  | constant n => exact marksIn_toString n
  | sum a b iha ihb =>
    show marksIn (a.text column ++ " + " ++ b.text column) = 0
    rw [marksIn_append, marksIn_append, iha, ihb]
    rfl
  | difference a b iha ihb =>
    show marksIn (a.text column ++ " - " ++ b.text column) = 0
    rw [marksIn_append, marksIn_append, iha, ihb]
    rfl
  | product a b iha ihb =>
    show marksIn (a.text column ++ " * " ++ b.text column) = 0
    rw [marksIn_append, marksIn_append, iha, ihb]
    rfl
  | quotient a b iha ihb =>
    show marksIn (a.text column ++ " / " ++ b.text column) = 0
    rw [marksIn_append, marksIn_append, iha, ihb]
    rfl
  | bracket a ih =>
    show marksIn ("(" ++ a.text column ++ ")") = 0
    rw [marksIn_append, marksIn_append, ih]
    rfl

/-! ## Pieces of a statement

Tokens are the only place where a mark and its parameter are made together. A token of words or a
column could have a mark in its text; that it has none is a condition here, and is discharged for
each phrase that is ever written. -/

namespace Token

/-- A token has a mark only where it has a parameter. -/
def Plain : Token → Prop
  | .words s => marksIn s = 0
  | .column c => marksIn c.text = 0
  | .mark _ => True

/-- Tokens have marks only where they have parameters. -/
def AllPlain (ts : List Token) : Prop :=
  ∀ t ∈ ts, t.Plain

variable {ts us : List Token}

@[simp]
theorem allPlain_nil : AllPlain [] :=
  List.forall_mem_nil _

@[simp]
theorem allPlain_words {s : String} : AllPlain (.words s :: ts) ↔ marksIn s = 0 ∧ AllPlain ts :=
  List.forall_mem_cons

@[simp]
theorem allPlain_column {c : Column} :
    AllPlain (.column c :: ts) ↔ marksIn c.text = 0 ∧ AllPlain ts :=
  List.forall_mem_cons

@[simp]
theorem allPlain_mark {v : Parameter} : AllPlain (.mark v :: ts) ↔ AllPlain ts :=
  List.forall_mem_cons.trans (iff_of_eq (true_and _))

@[simp]
theorem allPlain_append : AllPlain (ts ++ us) ↔ AllPlain ts ∧ AllPlain us :=
  List.forall_mem_append

@[simp]
theorem allPlain_marks (vs : List Parameter) : AllPlain (marks vs) := by
  induction vs with
  | nil => exact allPlain_nil
  | cons v vs ih =>
    cases vs with
    | nil => exact allPlain_mark.2 allPlain_nil
    | cons u us => exact allPlain_mark.2 (allPlain_words.2 ⟨rfl, ih⟩)

theorem marksIn_join (h : AllPlain ts) :
    marksIn (String.join (ts.map text)) = (ts.filterMap param?).length := by
  induction ts with
  | nil => rfl
  | cons t ts ih =>
    obtain ⟨first, rest⟩ := List.forall_mem_cons.1 h
    have own : marksIn t.text = t.param?.toList.length := by
      cases t with
      | words s | column c => exact first
      | mark v => exact show marksIn "?" = 1 by decide
    rw [List.map_cons, String.join_cons, marksIn_append, ih rest, own, List.filterMap_cons]
    cases t.param? with
    | none => exact Nat.zero_add _
    | some v => exact Nat.add_comm _ _

end Token

namespace Phrase

variable {p q : Phrase}

/-- A phrase has marks only where it has parameters. -/
def Plain (p : Phrase) : Prop :=
  Token.AllPlain p.tokens

/-- **A phrase has as many marks as parameters.** -/
theorem marksIn_text (h : p.Plain) : marksIn p.text = p.params.length :=
  Token.marksIn_join h

@[simp]
theorem plain_append : Plain (p ++ q) ↔ p.Plain ∧ q.Plain := by
  rw [Plain, tokens, List.flatMap_append]
  exact Token.allPlain_append

@[simp]
theorem plain_words {s : String} : (words s).Plain ↔ marksIn s = 0 :=
  List.forall_mem_singleton

@[simp]
theorem plain_column {c : Column} : (column c).Plain ↔ marksIn c.text = 0 :=
  List.forall_mem_singleton

@[simp]
theorem plain_tokens {ts : List Token} : Plain (ts.map .token) ↔ Token.AllPlain ts := by
  rw [Plain, tokens, List.flatMap_map]
  exact iff_of_eq (congrArg _ (List.flatMap_singleton' ts))

@[simp]
theorem plain_marks (vs : List Parameter) : (marks vs).Plain :=
  plain_tokens.2 (Token.allPlain_marks vs)

@[simp]
theorem plain_nil : Plain [] :=
  Token.allPlain_nil

@[simp]
theorem plain_subquery {ts : List Token} :
    Plain (.subquery ts :: p) ↔ Token.AllPlain ts ∧ p.Plain :=
  Token.allPlain_append

end Phrase

/-! ## Conditions and links

There are finitely many phrases, apart from their values, and values are in parameters. So each
phrase is gone through once. -/

/-- The columns of events hold no mark. -/
theorem Event.marksIn_columns (e : Event) :
    marksIn e.actor.text = 0 ∧ marksIn e.date.text = 0 ∧ marksIn e.repository.text = 0 := by
  cases e <;> exact ⟨rfl, rfl, rfl⟩

/-- The condition that a membership is current has no mark. -/
theorem allPlain_duringPhrase (e : Event) {enrollment : Alias} (h : marksIn enrollment.text = 0) :
    Token.AllPlain (duringPhrase e enrollment) := by
  have date := e.marksIn_columns.2.1
  have bound : ∀ name, marksIn (Column.text ⟨enrollment, name⟩) = marksIn "." + marksIn name := by
    intro name
    rw [Column.text, marksIn_append, marksIn_append, h, Nat.zero_add]
  simp +decide [duringPhrase, date, bound]

/-- The phrase of a condition has marks only where it has parameters. -/
theorem Condition.plain_phrase (e : Event) (p : Condition) : (p.phrase e).Plain := by
  obtain ⟨actor, date, repository⟩ := e.marksIn_columns
  cases p with
  | repositoryIs source name => cases source <;> simp +decide [phrase]
  | personIs uuid => simp +decide [phrase]
  | memberOf kind name => cases kind <;> simp +decide [phrase]
  | inProjects source projects => simp +decide [phrase, projectTokens, repository]
  | notBy uuids => simp +decide [phrase, actorTokens, actor]
  | notFrom names =>
    have inner : marksIn (Alias.text .innerEnrollment) = 0 := rfl
    have during := allPlain_duringPhrase e inner
    simp +decide [phrase, membershipTokens, actor, during]
  | closes condition => simp +decide [phrase]

/-- The phrase of a link has no parameters, and so no marks. -/
theorem Link.plain_phrase (e : Event) (l : Link) : (l.phrase e).Plain := by
  obtain ⟨actor, date, repository⟩ := e.marksIn_columns
  cases l with
  | issue => simp +decide [phrase]
  | repository source => cases source <;> simp +decide [phrase, repository]
  | identity => simp +decide [phrase, actor]
  | enrollment kind =>
    have own : marksIn (Alias.text (.enrollment kind)) = 0 := by cases kind <;> rfl
    have during := allPlain_duringPhrase e own
    cases kind <;> simp +decide [phrase, during]
  | group kind => cases kind <;> simp +decide [phrase]

/-- A predicate has as many marks as parameters. So when predicates are put one after another, each
keeps its own parameters. -/
def Predicate.Balanced (p : Predicate) : Prop :=
  marksIn p.text = p.params.length

/-- **The predicate of a condition is balanced**, whatever values it holds and however many. -/
theorem Condition.balanced_predicate (e : Event) (p : Condition) : (p.predicate e).Balanced :=
  Phrase.marksIn_text (p.plain_phrase e)

/-- The condition of a join has no mark, and neither has its table. -/
theorem Link.marksIn_join (e : Event) (l : Link) :
    marksIn (l.join e).table = 0 ∧ marksIn (l.join e).on = 0 := by
  constructor
  · show marksIn (l.tableName ++ " " ++ l.tableAlias.text) = 0
    rw [marksIn_append, marksIn_append]
    cases l with
    | issue | identity => rfl
    | repository source => cases source <;> rfl
    | enrollment kind | group kind => cases kind <;> rfl
  · have none : (l.phrase e).params = [] := by cases l <;> rfl
    exact (Phrase.marksIn_text (l.plain_phrase e)).trans (congrArg List.length none)

/-! ## Statements

A statement has marks in three places: in its window, in its predicates, and in its limit, in this
order. The parts in between are shown to have none, one after another. -/

namespace Statement

variable {s : Statement} {mode : Mode} {q : CompiledStatement}

/-- Only the predicates of a statement have marks, and they are balanced. It is a condition on the
parts of a statement, before they are put together. -/
structure WellMarked (s : Statement) : Prop where
  /-- The table of the events has no mark. -/
  table : marksIn s.table = 0
  /-- The joins have none. -/
  joins : ∀ j ∈ s.fragments.joins, marksIn j.table = 0 ∧ marksIn j.on = 0
  /-- The values and their names have none. -/
  fields : ∀ f ∈ s.fields, marksIn f.name = 0 ∧ marksIn f.expr = 0
  /-- The expression for the items has none. -/
  key : ∀ d key, s.grouping = some (d, some key) → marksIn key = 0
  /-- The column of the time has none. -/
  dateColumn : marksIn s.dateColumn = 0
  /-- The predicates have as many marks as parameters. -/
  predicates : ∀ p ∈ s.fragments.predicates, p.Balanced

theorem marksIn_dimension (d : Dimension) : marksIn d.name = 0 := by
  cases d <;> rfl

namespace WellMarked

/-- The name and the key of a dimension have no mark. -/
theorem of_key (h : s.WellMarked) {name key : String} (hk : s.key? = .ok (some (name, key))) :
    marksIn name = 0 ∧ marksIn key = 0 := by
  unfold key? at hk
  split at hk
  · cases hk
  · rename_i d key grouping
    cases hk
    exact ⟨marksIn_dimension d, h.key d key grouping⟩
  · cases hk

/-- The expression of a bucket has no mark. -/
theorem of_bucket (h : s.WellMarked) : ∀ b ∈ (s.bucket? mode).toList, marksIn b = 0 := by
  intro b hb
  cases mode with
  | aggregate => cases hb
  | timeSeries =>
    rw [List.mem_singleton.1 hb]
    exact BucketExpression.marksIn_text h.dateColumn _

/-- Nothing that is selected has a mark. -/
theorem of_selected (h : s.WellMarked) {key : Option (String × String)} (hk : s.key? = .ok key) :
    ∀ t ∈ s.selected mode key, marksIn t = 0 := by
  simp only [selected, List.forall_mem_append, List.forall_mem_map, marksIn_append]
  refine ⟨⟨fun b hb => ?_, fun k there => ?_⟩, fun f hf => ?_⟩
  · rw [h.of_bucket b hb]
    rfl
  · obtain ⟨name, key⟩ := k
    cases Option.mem_toList.1 there
    obtain ⟨name, key⟩ := h.of_key hk
    rw [name, key]
    rfl
  · obtain ⟨name, expr⟩ := h.fields f hf
    rw [name, expr]
    rfl

/-- Nothing that is grouped by has a mark. -/
theorem of_grouped (h : s.WellMarked) {key : Option (String × String)} (hk : s.key? = .ok key) :
    ∀ t ∈ s.grouped mode key, marksIn t = 0 := by
  simp only [grouped, List.forall_mem_append, List.forall_mem_map]
  refine ⟨h.of_bucket, fun k there => ?_⟩
  cases Option.mem_toList.1 there
  exact (h.of_key hk).2

/-- Nothing that is ordered by has a mark. -/
theorem of_ordered (h : s.WellMarked) {key : Option (String × String)} (hk : s.key? = .ok key) :
    ∀ t ∈ s.ordered mode key, marksIn t = 0 := by
  simp only [ordered, List.forall_mem_append, List.forall_mem_map]
  refine ⟨fun _ _ => rfl, ?_⟩
  cases key with
  | none => exact List.forall_mem_nil _
  | some k =>
    have item : marksIn (k.1 ++ " ASC") = 0 := by
      rw [marksIn_append, (h.of_key hk).1]
      rfl
    cases mode with
    | timeSeries => exact List.forall_mem_singleton.2 item
    | aggregate =>
      refine List.forall_mem_append.2 ⟨?_, List.forall_mem_singleton.2 item⟩
      simp only [List.forall_mem_map, marksIn_append]
      intro f hf
      rw [(h.fields f (List.mem_of_mem_head? (Option.mem_toList.1 hf))).1]
      rfl

/-- No mark stands before the window. -/
theorem of_heading (h : s.WellMarked) {key : Option (String × String)} (hk : s.key? = .ok key) :
    marksIn (s.heading mode key) = 0 := by
  have joins : ∀ t ∈ s.fragments.joins.map (fun j => " " ++ j.text), marksIn t = 0 := by
    simp only [List.forall_mem_map, Join.text, marksIn_append]
    intro j hj
    rw [(h.joins j hj).1, (h.joins j hj).2]
    rfl
  simp only [heading, marksIn_append, marksIn_join, sum_marksIn_eq_zero joins, h.table]
  rw [marksIn_listed rfl, sum_marksIn_eq_zero (h.of_selected hk)]
  rfl

/-- No mark stands between the predicates and the limit. -/
theorem of_ending (h : s.WellMarked) {key : Option (String × String)} (hk : s.key? = .ok key) :
    marksIn (s.ending mode key) = 0 := by
  rw [ending, marksIn_append, marksIn_clause rfl rfl, marksIn_clause rfl rfl,
    sum_marksIn_eq_zero (h.of_grouped hk), sum_marksIn_eq_zero (h.of_ordered hk)]

end WellMarked

end Statement

/-- The marks of a text and the parameters that are sent with it belong to each other, from left to
right. Equal numbers would not be enough, so the text is given with every mark in its place. -/
structure CompiledStatement.LinesUp (q : CompiledStatement) (s : Statement) (mode : Mode) :
    Prop where
  /-- There are as many marks as parameters. -/
  marks : marksIn q.text = q.params.length
  /-- The parameters are the two days of the window, those of every predicate, and the limit. -/
  params : q.params = [.ofDate s.start, .ofDate s.stop] ++ s.fragments.predicates.flatMap (·.params)
    ++ (s.statedLimit mode).toList.map fun n => .integer n
  /-- The marks stand in the same order: those of the two bounds, those of the predicates, and that
  of the limit. There is none elsewhere. -/
  text : ∃ before after, marksIn before = 0 ∧ marksIn after = 0 ∧
    q.text = before ++ s.dateColumn ++ " >= ?" ++ " AND " ++ s.dateColumn ++ " < ?"
      ++ String.join (s.fragments.predicates.map fun p => " AND (" ++ p.text ++ ")")
      ++ after ++ (s.statedLimit mode).elim "" fun _ => " LIMIT ?"
  /-- The column of the bounds has no mark. -/
  dateColumn : marksIn s.dateColumn = 0
  /-- Every predicate has as many marks as parameters. -/
  predicates : ∀ p ∈ s.fragments.predicates, p.Balanced
  /-- A limit is stated for a total by item, if there is one. -/
  limit : (s.statedLimit mode).isSome ↔ mode = .aggregate ∧ s.grouping.isSome ∧ s.limit.isSome

/-- **The marks of a statement and its parameters line up.** The text is written as it is composed,
the marks of each part are counted, and no part but the bounds, the predicates and the limit has
any. -/
theorem Statement.WellMarked.linesUp {s : Statement} {mode : Mode} {q : CompiledStatement}
    (h : s.WellMarked) (hq : s.compile mode = .ok q) : q.LinesUp s mode := by
  obtain ⟨_, key, hk, rfl⟩ := compile_eq_ok_iff.1 hq
  have text : (s.composed mode key).text = s.heading mode key ++ s.dateColumn ++ " >= ?"
      ++ " AND " ++ s.dateColumn ++ " < ?"
      ++ String.join (s.fragments.predicates.map fun p => " AND (" ++ p.text ++ ")")
      ++ s.ending mode key ++ (s.statedLimit mode).elim "" fun _ => " LIMIT ?" := by
    have bracket : ∀ t : String, " AND " ++ ("(" ++ t) = " AND (" ++ t := by
      intro t
      rw [← String.append_assoc]
      rfl
    simp only [composed, required, List.cons_append, List.nil_append, listed_cons, List.map_cons,
      String.join_cons, List.map_map, Function.comp_def, String.append_assoc, bracket]
  have predicates : marksIn (String.join (s.fragments.predicates.map fun p =>
        " AND (" ++ p.text ++ ")"))
      = (s.fragments.predicates.flatMap (·.params)).length := by
    rw [marksIn_join, List.map_map, List.length_flatMap]
    refine congrArg List.sum (List.map_congr_left fun p hp => ?_)
    show marksIn (" AND (" ++ p.text ++ ")") = p.params.length
    rw [marksIn_append, marksIn_append, h.predicates p hp]
    exact Nat.zero_add _
  have limit : marksIn ((s.statedLimit mode).elim "" fun _ => " LIMIT ?")
      = (s.statedLimit mode).toList.length := by
    cases s.statedLimit mode with
    | none => rfl
    | some n => exact show marksIn " LIMIT ?" = 1 by decide
  refine ⟨?_, rfl, ⟨_, _, h.of_heading hk, h.of_ending hk, text⟩, h.dateColumn, h.predicates,
    isSome_statedLimit_iff⟩
  have bounds : marksIn " >= ?" = 1 ∧ marksIn " AND " = 0 ∧ marksIn " < ?" = 1 := by decide
  rw [text]
  simp only [marksIn_append, h.of_heading hk, h.of_ending hk, h.dateColumn, predicates, limit,
    bounds, composed, List.length_append, List.length_map, List.length_cons, List.length_nil]
  omega

end ActivityMetrics
