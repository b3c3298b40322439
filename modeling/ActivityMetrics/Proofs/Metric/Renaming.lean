import ActivityMetrics.Proofs.Metric.Binding
import ActivityMetrics.Proofs.Metric.Timely
import ActivityMetrics.Proofs.Query.Renaming

/-!
# Texts from a user

A filter holds texts that come from a user: the values that dimensions are bound to, the people and
organizations that are left out, and the change that closes an issue. None of them gets into the
text of a statement; they are parameters, one by one. So a filter with other texts in their place
gives the same statement with other parameters (`Count.compile_rename`), as long as the other texts
are told apart where these are: a dimension that is bound twice to a value is restricted once.

That no text of a user gets into a statement cannot be said by looking for the text there. A user
may well ask for a repository of the name of a column, and the column is in the statement all the
same. What is meant is that the statement does not depend on the texts, and this is said by
exchanging them: whatever is put in their place, even if it is made of quotes and marks, the
statement is the same character by character. The parameters show where the texts went.

Two things stand in the way of an exchange that changes nothing. Equal conditions are asked once, so
that two values must not be made equal; hence an exchange that is one-to-one. And a project is
replaced by its tree, whose size depends on the name, so that a statement with a project has more or
fewer marks for another name. Filters that bind projects are left out.
-/

namespace ActivityMetrics

/-- A pair of a dimension and a value, with another value. -/
def rebind (r : String → String) (b : Dimension × String) : Dimension × String :=
  (b.1, r b.2)

/-- The selection with other values. -/
def Selection.rename (s : Selection) (r : String → String) : Selection :=
  match s with
  | .bound pairs => .bound (pairs.map (rebind r))
  | .every d => .every d

/-! ## Filters

The texts of a filter are exchanged everywhere at once, and what the filter adds to a statement is
followed. -/

namespace Filter

/-- The filter with other texts from its user, in all places where a text may stand: bound values,
what is left out, the value of the global pair and the closing condition. Names of dimensions are no
texts of the user by then, and neither are periods and limits. -/
def rename (f : Filter) (r : String → String) : Filter :=
  { f with
    selection := f.selection.rename r
    excludedActors := f.excludedActors.map r
    excludedOrganizations := f.excludedOrganizations.map r
    global := f.global.map (rebind r)
    closing := f.closing.map (·.rename r) }

variable {f : Filter} {r : String → String}

/-- The bindings have the other values, in the same order. -/
theorem bindings_rename (f : Filter) (r : String → String) :
    (f.rename r).bindings = f.bindings.map (rebind r) := by
  have pairs : (f.selection.rename r).pairs = f.selection.pairs.map (rebind r) := by
    cases f.selection <;> rfl
  rw [bindings, bindings, List.map_append, ← pairs, ← Option.toList_map]
  rfl

/-- The condition that closes an issue has the same text for other values. -/
theorem text_closes_rename (f : Filter) (r : String → String) (e : Event) :
    ((Condition.closes (f.rename r).closingCondition).predicate e).text
      = ((Condition.closes f.closingCondition).predicate e).text := by
  show ((Condition.closes ((f.closing.map (·.rename r)).getD .standard)).predicate e).text = _
  unfold closingCondition
  cases f.closing with
  | none => rfl
  | some given => exact Condition.text_rename r e (.closes given)

/-- The exclusions are one condition for people and one for organizations, if there are any. -/
theorem exclusions_eq (f : Filter) :
    f.exclusions = (if f.excludedActors = [] then [] else [.notBy f.excludedActors])
      ++ (if f.excludedOrganizations = [] then [] else [.notFrom f.excludedOrganizations]) := by
  unfold exclusions actorExclusion organizationExclusion
  cases f.excludedActors <;> cases f.excludedOrganizations <;> rfl

/-- A renamed filter has the same exclusions, on the other texts. -/
theorem exclusions_rename (f : Filter) (r : String → String) :
    (f.rename r).exclusions = f.exclusions.map (Condition.rename r) := by
  rw [exclusions_eq, exclusions_eq]
  show (if f.excludedActors.map r = [] then _ else [Condition.notBy (f.excludedActors.map r)])
    ++ (if f.excludedOrganizations.map r = [] then _
      else [Condition.notFrom (f.excludedOrganizations.map r)]) = _
  cases f.excludedActors <;> cases f.excludedOrganizations <;> rfl

/-- The exclusions ask for the people and organizations in the order in which they are given. -/
theorem texts_exclusions (f : Filter) :
    f.exclusions.flatMap Condition.texts = f.excludedActors ++ f.excludedOrganizations := by
  rw [exclusions_eq]
  cases f.excludedActors <;> cases f.excludedOrganizations <;> simp [Condition.texts]

/-- The exclusions are different from each other. -/
theorem nodup_exclusions (f : Filter) : f.exclusions.Nodup := by
  rw [exclusions_eq]
  cases f.excludedActors <;> cases f.excludedOrganizations <;> simp

/-- The links of a filter are those of the dimensions that it binds, in order. -/
theorem joins_clauses (f : Filter) (w : Warehouse) (source : Source) :
    (f.clauses w source).joins = keepFirsts [] (f.bindings.flatMap fun b =>
      (b.1.clauses source).joins) := by
  have excluded : ((actorExclusion f.excludedActors).toList
      ++ (organizationExclusion f.excludedOrganizations).toList).flatMap (·.joins) = [] :=
    List.flatMap_eq_nil_iff.2 fun _ => joins_of_mem_excluded
  rw [clauses, Fragments.joins_foldl_merge, List.flatMap_append, List.flatMap_map, excluded,
    List.append_nil]
  rfl

/-- The joins of a filter do not depend on its values. -/
theorem joins_clauses_rename (f : Filter) (r : String → String) (w : Warehouse) (source : Source) :
    ((f.rename r).clauses w source).joins = (f.clauses w source).joins := by
  rw [joins_clauses, joins_clauses, bindings_rename, List.flatMap_map]
  rfl

end Filter

/-! ## Bindings

The condition of a binding has one text, its value, except for projects. -/

namespace Dimension

variable {d : Dimension} {source : Source}

/-- Bindings of dimensions other than projects are told apart by their conditions. -/
theorem condition_injOn {w : Warehouse} {source : Source} {a b : Dimension × String}
    (ha : a.1 ≠ .project) (hb : b.1 ≠ .project)
    (same : a.1.condition w source a.2 = b.1.condition w source b.2) : a = b := by
  obtain ⟨d, v⟩ := a
  obtain ⟨d', v'⟩ := b
  cases d with
  | project => exact absurd rfl ha
  | repository | company | country | domain | person =>
    cases d' with
    | project => exact absurd rfl hb
    | repository | company | country | domain | person => cases same <;> rfl

/-- No binding leaves anything out, or closes an issue. -/
theorem condition_not_mem_exclusions (f : Filter) (w : Warehouse) (v : String) :
    d.condition w source v ∉ f.exclusions := by
  intro excluded
  cases d <;> rcases Filter.eq_of_mem_exclusions excluded with same | same <;> cases same

/-- A binding with another value asks the same for the other value. -/
theorem condition_rename (w : Warehouse) (source : Source) {r : String → String} {v : String}
    (h : d ≠ .project) : d.condition w source (r v) = (d.condition w source v).rename r := by
  cases d <;> first
    | rfl
    | exact absurd rfl h

/-- The value is the only text that it asks for. -/
theorem texts_condition (w : Warehouse) (source : Source) {v : String} (h : d ≠ .project) :
    (d.condition w source v).texts = [v] := by
  cases d <;> first
    | rfl
    | exact absurd rfl h

end Dimension

/-- **The conditions of a filter**: one for every binding, and those of what is left out. Only
bindings can occur several times. Written in this way, the order of the conditions is that of the
filter, and the parameters can be read off. -/
theorem Filter.predicates_clauses {f : Filter} (free : ∀ b ∈ f.bindings, b.1 ≠ .project)
    (w : Warehouse) (source : Source) :
    (f.clauses w source).predicates =
      (keepFirsts [] f.bindings).map (fun b => b.1.condition w source b.2) ++ f.exclusions := by
  have all : (f.clauses w source).predicates =
      keepFirsts [] (f.bindings.map (fun b => b.1.condition w source b.2) ++ f.exclusions) := by
    rw [clauses, Fragments.predicates_foldl_merge, List.flatMap_append, List.flatMap_map]
    exact congrArg (fun ps => keepFirsts [] (ps ++ _)) List.map_eq_flatMap.symm
  have bound : keepFirsts [] (f.bindings.map fun b => b.1.condition w source b.2)
      = (keepFirsts [] f.bindings).map fun b => b.1.condition w source b.2 :=
    keepFirsts_map (fun a ha b hb => Dimension.condition_injOn (free a ha) (free b hb))
      (List.nil_subset _) (List.Subset.refl _)
  -- the exclusions are new behind the bindings, and there is at most one of each kind
  rw [all, keepFirsts_append, bound]
  refine keepFirsts_eq_append f.nodup_exclusions fun p excluded there => ?_
  obtain ⟨b, _, rfl⟩ := List.mem_map.1 there
  exact b.1.condition_not_mem_exclusions f w b.2 excluded

/-! ## Queries

Before anything is exchanged, the texts of a statement are listed in the order in which it has them.
Those of the standard condition for closing an issue are not the user's. -/

namespace Count

variable {c : Count} {w : Warehouse} {f : Filter} {group : Option Dimension} {r : String → String}

/-- A filter adds its conditions to that of the metric. -/
theorem predicates_query (c : Count) (w : Warehouse) (f : Filter) (group : Option Dimension) :
    (c.query w f group).clauses.predicates
      = (c.definition f).base.predicates ++ (f.clauses w c.source).predicates := by
  have nodup : (f.clauses w c.source).predicates.Nodup := by
    rw [Filter.clauses, Fragments.predicates_foldl_merge]
    exact nodup_keepFirsts List.nodup_nil
  have new : ∀ p ∈ (f.clauses w c.source).predicates, p ∉ (c.definition f).base.predicates := by
    intro p hp base
    obtain ⟨rfl, _⟩ := mem_base_predicates base
    rcases Filter.mem_predicates_clauses.1 hp with ⟨⟨d, v⟩, _, same⟩ | excluded
    · cases d <;> cases same
    · rcases Filter.eq_of_mem_exclusions excluded with same | same <;> cases same
  have restricted := keepFirsts_eq_append nodup new
  cases group <;> exact restricted

/-- A query joins the same for other texts. -/
theorem joins_query_rename (c : Count) (w : Warehouse) (f : Filter) (group : Option Dimension)
    (r : String → String) :
    (c.query w (f.rename r) group).clauses.joins = (c.query w f group).clauses.joins := by
  have base : (c.definition (f.rename r)).base.joins = (c.definition f).base.joins := by
    cases c <;> rfl
  have restricted : ((c.definition (f.rename r)).base.merge ((f.rename r).clauses w c.source)).joins
      = ((c.definition f).base.merge (f.clauses w c.source)).joins := by
    show keepFirsts _ _ = keepFirsts _ _
    rw [base, f.joins_clauses_rename]
  cases group with
  | none => exact restricted
  | some d => exact congrArg (keepFirsts · _) restricted

/-- The texts of the standard closing condition, where a metric counts what closes an issue and the
filter has no condition of its own. -/
def standardTexts (c : Count) (f : Filter) : List String :=
  match c.event, f.closing with
  | .changes, none => (Condition.closes .standard).texts
  | _, _ => []

/-- The texts of the closing condition that is given, where a metric counts what closes an issue. -/
def givenTexts (c : Count) (f : Filter) : List String :=
  match c.event, f.closing with
  | .changes, some given => (Condition.closes given).texts
  | _, _ => []

/-- The texts from the user that a statement asks for: those of the closing condition that is given,
the values of the bindings, and what is left out. -/
def userTexts (c : Count) (f : Filter) : List String :=
  c.givenTexts f ++ (keepFirsts [] f.bindings).map Prod.snd ++ f.excludedActors
    ++ f.excludedOrganizations

/-- The parameters of a statement with some texts from its user: the window first, then the texts
that do not depend on the user, then those that do, and the limit at last. -/
def sent (c : Count) (f : Filter) (group : Option Dimension) (mode : Mode) (texts : List String) :
    List Parameter :=
  [.ofDate f.start, .ofDate f.stop] ++ (c.standardTexts f).map .text ++ texts.map .text
    ++ (if mode = .aggregate ∧ group.isSome then f.limit else none).toList.map fun n => .integer n

/-- The bindings that are left after repeats are dropped are bindings. -/
theorem of_mem_bindings {b : Dimension × String} (free : ∀ b ∈ f.bindings, b.1 ≠ .project)
    (hb : b ∈ keepFirsts [] f.bindings) : b.1 ≠ .project :=
  free b ((mem_keepFirsts.1 hb).resolve_left List.not_mem_nil)

/-- **The conditions of a query ask for** the standard texts and for those from the user. -/
theorem texts_query (c : Count) (w : Warehouse) (group : Option Dimension)
    (free : ∀ b ∈ f.bindings, b.1 ≠ .project) :
    (c.query w f group).clauses.predicates.flatMap Condition.texts
      = c.standardTexts f ++ c.userTexts f := by
  have base : (c.definition f).base.predicates.flatMap Condition.texts
      = c.standardTexts f ++ c.givenTexts f := by
    have closing : (Condition.closes f.closingCondition).texts
        = Count.closed.standardTexts f ++ Count.closed.givenTexts f := by
      unfold standardTexts givenTexts Filter.closingCondition
      cases f.closing with
      | none => exact (List.append_nil _).symm
      | some given => rfl
    cases c with
    | commits | authors | committers | repositories | opened | openers => rfl
    | closed | closers => exact (List.append_nil _).trans closing
  have values : ((keepFirsts [] f.bindings).map fun b => b.1.condition w c.source b.2).flatMap
      Condition.texts = (keepFirsts [] f.bindings).map Prod.snd := by
    rw [List.flatMap_map, List.map_eq_flatMap]
    exact List.flatMap_congr fun b hb => b.1.texts_condition w c.source (of_mem_bindings free hb)
  rw [predicates_query, Filter.predicates_clauses free, List.flatMap_append, List.flatMap_append,
    base, values, f.texts_exclusions, userTexts]
  simp only [List.append_assoc]

/-- Every parameter of a predicate is a text that its condition asks for. -/
theorem params_query (c : Count) (w : Warehouse) (group : Option Dimension)
    (free : ∀ b ∈ f.bindings, b.1 ≠ .project) :
    (c.query w f group).statement.fragments.predicates.flatMap (·.params)
      = (c.standardTexts f).map .text ++ (c.userTexts f).map .text := by
  rw [← List.map_append, ← c.texts_query w group free, List.map_flatMap]
  show ((c.query w f group).clauses.predicates.map (Condition.predicate _)).flatMap _ = _
  rw [List.flatMap_map]
  exact List.flatMap_congr fun p _ => p.params_eq _

/-! ## Renaming

What is not the user's stays, and what is the user's is exchanged, without a change to how much
there is of it. -/

/-- The standard texts are no user's. -/
theorem standardTexts_rename (c : Count) (f : Filter) (r : String → String) :
    c.standardTexts (f.rename r) = c.standardTexts f := by
  show (match c.event, f.closing.map (·.rename r) with | .changes, none => _ | _, _ => _) = _
  unfold standardTexts
  cases f.closing <;> cases c.event <;> rfl

/-- An exchange that is one-to-one keeps which bindings are repeats. -/
theorem keepFirsts_bindings_rename (f : Filter) (injective : Function.Injective r) :
    keepFirsts [] (f.rename r).bindings = (keepFirsts [] f.bindings).map (rebind r) := by
  rw [f.bindings_rename]
  refine keepFirsts_map (fun a _ b _ same => ?_) (List.nil_subset _) (List.Subset.refl _)
  have dimension : (rebind r a).1 = (rebind r b).1 := congrArg Prod.fst same
  have value : (rebind r a).2 = (rebind r b).2 := congrArg Prod.snd same
  exact Prod.ext dimension (injective value)

/-- The texts from the user are exchanged one by one. -/
theorem userTexts_rename (c : Count) (f : Filter) (injective : Function.Injective r) :
    c.userTexts (f.rename r) = (c.userTexts f).map r := by
  have given : c.givenTexts (f.rename r) = (c.givenTexts f).map r := by
    show (match c.event, f.closing.map (·.rename r) with | .changes, some _ => _ | _, _ => _) = _
    unfold givenTexts
    cases f.closing <;> cases c.event <;> rfl
  rw [userTexts, userTexts, given, keepFirsts_bindings_rename f injective, List.map_append,
    List.map_append, List.map_append, List.map_map, List.map_map]
  rfl

/-- The conditions on other texts have the same texts themselves. -/
theorem predicateTexts_rename (c : Count) (w : Warehouse) (group : Option Dimension)
    (free : ∀ b ∈ f.bindings, b.1 ≠ .project) (injective : Function.Injective r) :
    (c.query w (f.rename r) group).statement.fragments.predicates.map (·.text)
      = (c.query w f group).statement.fragments.predicates.map (·.text) := by
  have free' : ∀ b ∈ (f.rename r).bindings, b.1 ≠ .project := by
    rw [f.bindings_rename]
    exact List.forall_mem_map.2 free
  -- conditions come from the metric, from what is bound and from what is left out, in this order
  have base : (c.definition (f.rename r)).base.predicates.map (fun p => (p.predicate c.event).text)
      = (c.definition f).base.predicates.map fun p => (p.predicate c.event).text := by
    cases c with
    | commits | authors | committers | repositories | opened | openers => rfl
    | closed | closers => exact congrArg ([·]) (f.text_closes_rename r .changes)
  have bound : (((keepFirsts [] f.bindings).map (rebind r)).map fun b =>
        b.1.condition w c.source b.2).map (fun p => (p.predicate c.event).text)
      = ((keepFirsts [] f.bindings).map fun b => b.1.condition w c.source b.2).map
        fun p => (p.predicate c.event).text := by
    rw [List.map_map, List.map_map, List.map_map]
    refine List.map_congr_left fun b hb => ?_
    show ((b.1.condition w c.source (r b.2)).predicate c.event).text = _
    rw [Dimension.condition_rename w c.source (of_mem_bindings free hb), Condition.text_rename]
    rfl
  have excluded : (f.exclusions.map (Condition.rename r)).map (fun p =>
        (p.predicate c.event).text)
      = f.exclusions.map fun p => (p.predicate c.event).text := by
    rw [List.map_map]
    exact List.map_congr_left fun p _ => p.text_rename r c.event
  have texts : ∀ g : Filter, (c.query w g group).statement.fragments.predicates.map (·.text)
      = (c.query w g group).clauses.predicates.map fun p => (p.predicate c.event).text := by
    intro g
    rw [← event_query c w g group]
    exact List.map_map
  rw [texts, texts, predicates_query, predicates_query, Filter.predicates_clauses free,
    Filter.predicates_clauses free', keepFirsts_bindings_rename f injective, f.exclusions_rename,
    List.map_append, List.map_append, List.map_append, List.map_append, base, bound, excluded]

/-- Of a statement nothing but its conditions can change. -/
theorem statement_rename (c : Count) (w : Warehouse) (f : Filter) (group : Option Dimension)
    (r : String → String) :
    (c.query w (f.rename r) group).statement = { (c.query w f group).statement with
      fragments := ⟨(c.query w f group).statement.fragments.joins,
        (c.query w (f.rename r) group).statement.fragments.predicates⟩ } := by
  have joins : (c.query w (f.rename r) group).statement.fragments.joins
      = (c.query w f group).statement.fragments.joins := by
    show List.map (Link.join _) _ = List.map (Link.join _) _
    rw [joins_query_rename, event_query, event_query]
  rw [← joins]
  cases c <;> rfl

/-- Only a dimension without a key has no expression for its items. -/
theorem unkeyed_of_key? {e : Failure} (h : (c.query w f group).statement.key? = .error e) :
    ∃ d ∈ group, d.key? c.source = none ∧ e = .unsupportedDimension d.name c.source.name := by
  cases group with
  | none => cases h
  | some d =>
    have grouping : (c.query w f (some d)).statement.grouping
        = some (d, (d.key? c.source).map fun key => key.column.text) := rfl
    rw [Statement.key?, grouping] at h
    cases hd : d.key? c.source with
    | none =>
      rw [hd] at h
      cases h
      exact ⟨d, rfl, hd, rfl⟩
    | some key =>
      rw [hd] at h
      cases h

/-- The parameters are the bounds of the window, the standard texts, the texts from the user, and
the limit. -/
theorem params_composed (c : Count) (w : Warehouse) (group : Option Dimension) (mode : Mode)
    (free : ∀ b ∈ f.bindings, b.1 ≠ .project) (key : Option (String × String)) :
    ((c.query w f group).statement.composed mode key).params
      = c.sent f group mode (c.userTexts f) := by
  have grouped : (c.query w f group).statement.grouping.isSome = group.isSome := Option.isSome_map
  rw [Statement.composed, sent, params_query c w group free, Statement.statedLimit, grouped]
  simp only [List.append_assoc]
  rfl

/-- With the texts exchanged, so are the parameters. -/
theorem sent_rename (c : Count) (f : Filter) (injective : Function.Injective r)
    (group : Option Dimension) (mode : Mode) :
    c.sent (f.rename r) group mode (c.userTexts (f.rename r))
      = c.sent f group mode ((c.userTexts f).map r) := by
  rw [userTexts_rename c f injective, sent, standardTexts_rename]
  rfl

/-- **A text from a user never gets into a statement.** Under other texts that are told apart where
these are, the text of the statement is the same, and its parameters are the same but for those
texts, each in the place of the other.

The parameters are listed in full for both, so that nothing of a user is in a parameter where it
does not belong either. If a breakdown has no key, there is no statement for either filter, and the
failure names the dimension and nothing that the user wrote. The exchange is any function on texts
that is one-to-one; in particular it may put quotes, marks or words of the language of statements
into every one of them. -/
theorem compile_rename (c : Count) (w : Warehouse) {f : Filter}
    (free : ∀ b ∈ f.bindings, b.1 ≠ .project) {r : String → String}
    (injective : Function.Injective r) (group : Option Dimension) (mode : Mode) :
    (∃ d ∈ group, d.key? c.source = none ∧
      (c.query w f group).statement.compile mode
        = .error (.unsupportedDimension d.name c.source.name) ∧
      (c.query w (f.rename r) group).statement.compile mode
        = .error (.unsupportedDimension d.name c.source.name)) ∨
    ∃ text, (c.query w f group).statement.compile mode
        = .ok ⟨text, c.sent f group mode (c.userTexts f)⟩ ∧
      (c.query w (f.rename r) group).statement.compile mode
        = .ok ⟨text, c.sent f group mode ((c.userTexts f).map r)⟩ := by
  have free' : ∀ b ∈ (f.rename r).bindings, b.1 ≠ .project := by
    rw [f.bindings_rename]
    exact List.forall_mem_map.2 free
  have same := c.statement_rename w f group r
  have texts := c.predicateTexts_rename w group free injective
  have keys : (c.query w (f.rename r) group).statement.key?
      = (c.query w f group).statement.key? := by
    rw [same]
    rfl
  have value := fun g => (c.query w g group).fields_ne_nil
  cases hk : (c.query w f group).statement.key? with
  | error e =>
    obtain ⟨d, hd, unkeyed, rfl⟩ := unkeyed_of_key? hk
    exact .inl ⟨d, hd, unkeyed, Statement.compile_of_no_key (value f) hk,
      Statement.compile_of_no_key (value (f.rename r)) (keys.trans hk)⟩
  | ok key =>
    refine .inr ⟨((c.query w f group).statement.composed mode key).text, ?_, ?_⟩
    · rw [Statement.compile_of_key (value f) hk, ← params_composed c w group mode free key]
    · rw [Statement.compile_of_key (value (f.rename r)) (keys.trans hk),
        ← sent_rename c f injective, ← params_composed c w group mode free' key,
        ← Statement.text_composed_congr same texts key]

/-- What a member of a company resolved around a new year; the company is bound twice. -/
def resolved : Filter :=
  { Filter.newYear (.bound [(.person, "ada"), (.company, "guild"), (.company, "guild")]) with
    closing := some ⟨"resolution", ["FIXED"]⟩ }

/-- With a mark behind every text, the statement has no more marks than before. -/
theorem compile_rename_resolved :
    ∃ text, (closers.query .empty resolved (some .country)).statement.compile .timeSeries
      = .ok ⟨text, [.text "2020-12-31", .text "2021-01-05", .text "resolution", .text "FIXED",
          .text "ada", .text "guild", .text "core", .text "bot"]⟩ ∧
      (closers.query .empty (resolved.rename (· ++ "?"))
        (some .country)).statement.compile .timeSeries
      = .ok ⟨text, [.text "2020-12-31", .text "2021-01-05", .text "resolution?", .text "FIXED?",
          .text "ada?", .text "guild?", .text "core?", .text "bot?"]⟩ := by
  have free : ∀ b ∈ resolved.bindings, b.1 ≠ .project := by decide
  have injective : Function.Injective (· ++ "?") := fun s t same => by
    simpa using same
  have texts : closers.userTexts resolved
      = ["resolution", "FIXED", "ada", "guild", "core", "bot"] := by decide
  have renamed := closers.compile_rename .empty free injective (some .country) .timeSeries
  rw [texts] at renamed
  obtain ⟨d, hd, unkeyed, _⟩ | compiled := renamed
  · cases hd
    cases unkeyed
  · exact compiled

end Count

end ActivityMetrics
