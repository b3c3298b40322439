import ActivityMetrics.Metric.Query
import ActivityMetrics.Proofs.Query.Matches

/-!
# The clauses of a metric under a filter

The links of a query come from the metric, from the dimensions that the filter binds, and from the
dimension that is broken down. In whatever order they are merged, they form a chain
(`Count.chain_query`), so the matches of the query are described by the links and conditions that
occur. In particular, to bind a dimension to a value is to keep the matches that belong to the item
of this value (`Count.mem_matchesIn_only_iff`).

This is the module that lets others forget how a statement is put together. A link is a join of the
statement, and a join may only refer to what has been joined before it. So a list of links has a
meaning of its own only where each link finds what it needs, and two lists with the same links in
another order need not both have one. Merging keeps the first of equal links and drops the later
ones, which could drop a link that something behind it needs. That it does not is the content of
`Link.Chain.keepFirsts`, and everything later is said of the links as a set
(`Count.mem_joins_query`).

The only link whose place matters is that to the issue of a change, which has to be the first. It
comes from the metric alone, and the metric's links are what the others are merged into.
-/

namespace ActivityMetrics

open Fragments

/-! ## Merging chains

A chain is built up from its front, link by link, and merging adds the links of the second chain one
by one at the end of the first. -/

namespace Link.Chain

variable {source : Source} {ls ls' : List Link} {l : Link}

/-- A link can be added to a chain that supports it. If it is there already, nothing changes. -/
theorem keepFirst (h : Chain source ls) (of_source : ∀ s, l = .repository s → s = source)
    (no_issue : l ≠ .issue) (supported : ∀ s, l.needs = some s → s = .issue ∨ s ∈ ls.map slot) :
    Chain source (keepFirst ls l) := by
  unfold ActivityMetrics.keepFirst
  split
  · exact h
  · rename_i absent
    exact .snoc h (fun there => absent (List.contains_iff_mem.2 there)) of_source
      (fun issue => absurd issue no_issue) supported

/-- A chain without an issue can follow any chain. What a link of the second chain needs is in front
of it there, and so it is in the merged chain, at its own place or at an earlier one. -/
theorem keepFirsts (h : Chain source ls) (h' : Chain source ls') (no_issue : .issue ∉ ls') :
    Chain source (keepFirsts ls ls') := by
  -- on the second chain from its front: the links that are merged already carry the next one
  induction h' with
  | nil => exact h
  | @snoc ls' l _ _ of_source _ supported ih =>
    rw [keepFirsts_append]
    have merged := ih fun there => no_issue (List.mem_append_left _ there)
    refine merged.keepFirst of_source ?_ fun s needed => ?_
    · rintro rfl
      exact no_issue (List.mem_append_right _ (List.mem_singleton.2 rfl))
    · refine (supported s needed).imp_right fun there => ?_
      obtain ⟨l', hl', rfl⟩ := List.mem_map.1 there
      exact List.mem_map.2 ⟨l', mem_keepFirsts.2 (.inr hl'), rfl⟩

end Link.Chain

open Link (Chain)

/-! ## Dimensions

Every dimension comes with the links that lead from an event to its item, and with the condition
that the item has a given value. -/

namespace Dimension

variable {source : Source}

/-- No dimension is reached through the issue of a change. -/
theorem issue_not_mem_links (source : Source) (d : Dimension) : .issue ∉ d.links source := by
  cases d <;> simp [links, links.membership]

/-- The links to a group: the person, an enrolment of the person, and the entity that the enrolment
names. Each needs the one before. -/
theorem chain_membership (source : Source) (kind : Affiliation) :
    Chain source (links.membership kind) := by
  have person : Chain source [.identity] :=
    .snoc .nil List.not_mem_nil nofun nofun nofun
  have member : Chain source [.identity, .enrollment kind] :=
    .snoc person (by simp) nofun nofun fun s needed => by
      cases needed
      exact .inr List.mem_cons_self
  refine .snoc member (by simp) nofun nofun fun s needed => ?_
  cases needed
  exact .inr (List.mem_cons_of_mem _ List.mem_cons_self)

/-- The links of a dimension support each other. The place of an event needs the event alone, and
what a person belongs to needs the person. -/
theorem chain_links (source : Source) (d : Dimension) : Chain source (d.links source) := by
  cases d with
  | repository =>
    refine .snoc .nil List.not_mem_nil (fun s h => ?_) nofun fun s needed => ?_
    · cases h
      rfl
    · cases needed
      exact .inl rfl
  | company | country | domain => exact chain_membership source _
  | project => exact .nil
  | person => exact .snoc .nil List.not_mem_nil nofun nofun nofun

/-- The clauses of a dimension have its links, and no others. -/
@[simp]
theorem mem_joins_clauses {d : Dimension} {l : Link} :
    l ∈ (d.clauses source).joins ↔ l ∈ d.links source :=
  mem_joins_ofJoins

/-- Binding a dimension to a value does not change what is joined, only what is asked. -/
@[simp]
theorem joins_boundClauses (w : Warehouse) (d : Dimension) (value : Option String) :
    (d.boundClauses w source value).joins = (d.clauses source).joins := by
  cases value <;> rfl

/-- Binding a dimension to a value asks one condition. -/
@[simp]
theorem predicates_boundClauses (w : Warehouse) (d : Dimension) (v : String) :
    (d.boundClauses w source (some v)).predicates = [d.condition w source v] :=
  rfl

/-- The joins of a dimension are a chain as they are written. -/
theorem chain_clauses (source : Source) (d : Dimension) :
    Chain source (d.clauses source).joins :=
  Chain.nil.keepFirsts (d.chain_links source) (d.issue_not_mem_links source)

end Dimension

/-- **A dimension is bound to a value by keeping the matches of its item.** The condition of a
binding and the key of a breakdown are written in different parts of a statement, and read the same
column. -/
theorem Dimension.holds_condition_iff {w : Warehouse} {e : Event} {source : Source} {d : Dimension}
    {key : GroupKey} (h : d.key? source = some key) {v : String} {m : Match} :
    (d.condition w source v).holds w e m ↔ key.valueOf m = some v := by
  cases d <;> cases h <;> exact beq_iff_eq

/-- The slot that a key reads: the record of a match that has the name or the number by which items
are told apart. -/
def GroupKey.slot : GroupKey → Slot
  | .repository _ => .place
  | .person => .identity
  | .group kind => .group kind

/-- A match belongs to an item exactly where this slot is filled. -/
theorem GroupKey.isSome_valueOf (key : GroupKey) (m : Match) :
    (key.valueOf m).isSome = m.filled key.slot := by
  cases key <;> exact Option.isSome_map

/-- The links of a dimension lead to what its key reads. This is why no match of a breakdown is
without an item. -/
theorem Dimension.slot_mem_links {source : Source} {d : Dimension} {key : GroupKey}
    (h : d.key? source = some key) : key.slot ∈ (d.links source).map Link.slot := by
  cases d <;> cases h <;> simp [links, links.membership, Link.slot, GroupKey.slot]

/-! ## Filters

What a filter adds to a statement are the clauses of its bindings and those of its exclusions. The
exclusions join nothing: they look people up in statements of their own. -/

namespace Filter

variable {f : Filter} {w : Warehouse} {source : Source}

/-- The conditions that leave out people and organizations. A filter that leaves out nobody has
none. -/
def exclusions (f : Filter) : List Condition :=
  ((actorExclusion f.excludedActors).toList
    ++ (organizationExclusion f.excludedOrganizations).toList).flatMap (·.predicates)

/-- People are left out by one condition, and organizations by another one. -/
theorem eq_of_mem_exclusions {p : Condition} (h : p ∈ f.exclusions) :
    p = .notBy f.excludedActors ∨ p = .notFrom f.excludedOrganizations := by
  simp only [exclusions, actorExclusion, organizationExclusion, List.mem_flatMap,
    List.mem_append, Option.mem_toList] at h
  obtain ⟨cs, excluded | excluded, hp⟩ := h
  all_goals
    split at excluded
    · cases excluded
    cases excluded
  · exact .inl (List.mem_singleton.1 hp)
  · exact .inr (List.mem_singleton.1 hp)

/-- An exclusion joins nothing. -/
theorem joins_of_mem_excluded {cs : Clauses}
    (h : cs ∈ (actorExclusion f.excludedActors).toList
      ++ (organizationExclusion f.excludedOrganizations).toList) : cs.joins = [] := by
  simp only [actorExclusion, organizationExclusion, List.mem_append, Option.mem_toList] at h
  rcases h with h | h
  all_goals
    split at h
    · cases h
    · cases h
      rfl

/-- The joins of a filter are the links of the dimensions that it binds. -/
theorem mem_joins_clauses {l : Link} :
    l ∈ (f.clauses w source).joins ↔ ∃ b ∈ f.bindings, l ∈ b.1.links source := by
  rw [clauses, mem_joins_foldl_merge]
  constructor
  · rintro (h | ⟨cs, hcs, h⟩)
    · cases h
    · rcases List.mem_append.1 hcs with bound | excluded
      · obtain ⟨b, hb, rfl⟩ := List.mem_map.1 bound
        rw [Dimension.joins_boundClauses, Dimension.mem_joins_clauses] at h
        exact ⟨b, hb, h⟩
      · rw [joins_of_mem_excluded excluded] at h
        cases h
  · rintro ⟨b, hb, h⟩
    refine .inr ⟨b.1.boundClauses w source (some b.2),
      List.mem_append_left _ (List.mem_map.2 ⟨b, hb, rfl⟩), ?_⟩
    rw [Dimension.joins_boundClauses, Dimension.mem_joins_clauses]
    exact h

/-- The conditions of a filter are one for each binding, and its exclusions. -/
theorem mem_predicates_clauses {p : Condition} :
    p ∈ (f.clauses w source).predicates ↔
      (∃ b ∈ f.bindings, p = b.1.condition w source b.2) ∨ p ∈ f.exclusions := by
  rw [clauses, mem_predicates_foldl_merge, exclusions, List.mem_flatMap]
  constructor
  · rintro (h | ⟨cs, hcs, h⟩)
    · cases h
    · rcases List.mem_append.1 hcs with bound | excluded
      · obtain ⟨b, hb, rfl⟩ := List.mem_map.1 bound
        rw [Dimension.predicates_boundClauses, List.mem_singleton] at h
        exact .inl ⟨b, hb, h⟩
      · exact .inr ⟨cs, excluded, h⟩
  · rintro (⟨b, hb, rfl⟩ | ⟨cs, excluded, h⟩)
    · refine .inr ⟨b.1.boundClauses w source (some b.2),
        List.mem_append_left _ (List.mem_map.2 ⟨b, hb, rfl⟩), ?_⟩
      rw [Dimension.predicates_boundClauses]
      exact List.mem_singleton.2 rfl
    · exact .inr ⟨cs, List.mem_append_right _ excluded, h⟩

/-- Merging bound and excluded clauses keeps a chain, whatever the order of the clauses, since none
of them joins an issue. -/
theorem chain_foldl_merge {css : List Clauses} {cs : Clauses} (h : Chain source cs.joins)
    (hs : ∀ c ∈ css, Chain source c.joins ∧ .issue ∉ c.joins) :
    Chain source (css.foldl merge cs).joins := by
  induction css generalizing cs with
  | nil => exact h
  | cons c css ih =>
    have first := hs c List.mem_cons_self
    exact ih (h.keepFirsts first.1 first.2) fun c hc => hs c (List.mem_cons_of_mem _ hc)

/-- The joins of a filter are a chain. -/
theorem chain_clauses (f : Filter) (w : Warehouse) (source : Source) :
    Chain source (f.clauses w source).joins := by
  refine chain_foldl_merge .nil fun cs hcs => ?_
  rcases List.mem_append.1 hcs with bound | excluded
  · obtain ⟨b, _, rfl⟩ := List.mem_map.1 bound
    rw [Dimension.joins_boundClauses, Dimension.mem_joins_clauses]
    exact ⟨b.1.chain_clauses source, b.1.issue_not_mem_links source⟩
  · rw [joins_of_mem_excluded excluded]
    exact ⟨.nil, List.not_mem_nil⟩

/-- They do not include the issue of a change. -/
theorem issue_not_mem_joins_clauses (f : Filter) (w : Warehouse) (source : Source) :
    .issue ∉ (f.clauses w source).joins := by
  rw [mem_joins_clauses]
  rintro ⟨b, _, h⟩
  exact b.1.issue_not_mem_links source h

/-- Two filters differ only in what they bind, and in how their answers are laid out. Two filters of
the same frame look at the same events, of which each selects its own. -/
structure SameFrame (g f : Filter) : Prop where
  /-- The windows begin together. -/
  start : g.start = f.start
  /-- The windows end together. -/
  stop : g.stop = f.stop
  /-- The same people are left out. -/
  actors : g.excludedActors = f.excludedActors
  /-- The same organizations are left out. -/
  organizations : g.excludedOrganizations = f.excludedOrganizations
  /-- The same changes close an issue. -/
  closing : g.closingCondition = f.closingCondition

/-- Two filters restrict activity alike: they also bind the same dimensions to the same values, in
whatever order, however often, and in whichever slot. Their statements are not the same text, and
need not be accepted together. -/
structure RestrictsAs (g f : Filter) : Prop extends SameFrame g f where
  /-- The bindings are the same. -/
  bindings : ∀ b, b ∈ g.bindings ↔ b ∈ f.bindings

/-- In the same frame the same conditions leave out people and organizations. -/
theorem SameFrame.exclusions {g f : Filter} (h : g.SameFrame f) : g.exclusions = f.exclusions := by
  rw [Filter.exclusions, h.actors, h.organizations]
  rfl

/-- To restrict alike is symmetric. -/
theorem RestrictsAs.symm {g f : Filter} (h : g.RestrictsAs f) : f.RestrictsAs g :=
  ⟨⟨h.start.symm, h.stop.symm, h.actors.symm, h.organizations.symm, h.closing.symm⟩,
    fun b => (h.bindings b).symm⟩

/-- The same filter for a single item of a dimension. It binds the item where the filter grouped by
all items, so that its answer is one number and not a list. -/
def only (f : Filter) (d : Dimension) (v : String) : Filter :=
  { f with selection := .bound [(d, v)] }

/-- A filter for every item of a dimension groups by it. -/
theorem group?_of_every {d : Dimension} (h : f.selection = .every d) : f.group? = some d := by
  rw [group?, h]
  rfl

/-- No filter groups by a dimension but the one for every item of it. -/
theorem group?_eq_some_iff {d : Dimension} : f.group? = some d ↔ f.selection = .every d := by
  unfold group?
  cases f.selection <;> simp [Selection.group?]

/-- A single item is bound in front of everything else that a breakdown binds. -/
theorem bindings_only {d : Dimension} (h : f.selection = .every d) (v : String) :
    (f.only d v).bindings = (d, v) :: f.bindings := by
  rw [bindings, bindings, h]
  rfl

end Filter

/-! ## Queries

The query of a count merges what the metric asks for, what the filter asks for, and the links of the
dimension that is broken down, in this order. -/

namespace Count

variable {w : Warehouse} {f g : Filter} {group : Option Dimension}

/-- What a metric joins by itself is a chain, and the only one that may begin with the issue of a
change. -/
theorem chain_base (c : Count) (f : Filter) : Chain c.source (c.definition f).base.joins := by
  have identity : ∀ source, Chain source [.identity] := fun source =>
    .snoc .nil List.not_mem_nil nofun nofun nofun
  have issue : ∀ source, Chain source [.issue] := fun source =>
    .snoc .nil List.not_mem_nil nofun (fun _ => rfl) nofun
  cases c with
  | commits | repositories | opened => exact .nil
  | authors | committers | openers => exact identity _
  | closed => exact issue _
  | closers =>
    exact .snoc (issue _) (show Link.identity ∉ [Link.issue] by decide) nofun nofun nofun

/-- **The links of a query form a chain.** So the matches of a query are those that satisfy each
link and each condition, and the order of the joins can be forgotten from here on. -/
theorem chain_query (c : Count) (w : Warehouse) (f : Filter) (group : Option Dimension) :
    Chain c.source (c.query w f group).clauses.joins := by
  have restricted := (c.chain_base f).keepFirsts (f.chain_clauses w c.source)
    (f.issue_not_mem_joins_clauses w c.source)
  cases group with
  | none => exact restricted
  | some d =>
    refine restricted.keepFirsts (d.chain_clauses c.source) ?_
    rw [Dimension.mem_joins_clauses]
    exact d.issue_not_mem_links c.source

/-- The joins of a query, as a set: those of the metric, of the bindings, and of the breakdown. -/
theorem mem_joins_query {c : Count} {l : Link} :
    l ∈ (c.query w f group).clauses.joins ↔
      l ∈ (c.definition f).base.joins ∨ (∃ b ∈ f.bindings, l ∈ b.1.links c.source) ∨
        ∃ d ∈ group, l ∈ d.links c.source := by
  cases group with
  | none => simp [query, Filter.mem_joins_clauses]
  | some d => simp [query, Filter.mem_joins_clauses, or_assoc]

/-- The conditions of a query, as a set. A breakdown adds none, it only tells apart the items of
what is matched. -/
theorem mem_predicates_query {c : Count} {p : Condition} :
    p ∈ (c.query w f group).clauses.predicates ↔
      p ∈ (c.definition f).base.predicates ∨
        (∃ b ∈ f.bindings, p = b.1.condition w c.source b.2) ∨ p ∈ f.exclusions := by
  cases group with
  | none => simp [query, Filter.mem_predicates_clauses]
  | some d =>
    simp only [query, Option.elim_some, mem_predicates_merge, Filter.mem_predicates_clauses]
    exact or_iff_left List.not_mem_nil

/-- **Every match of a breakdown belongs to an item.** The links of its dimension are joined, and a
joined record is there. An event that has no item is therefore not in the breakdown at all, and not
in an item without a name. -/
theorem exists_item {c : Count} {d : Dimension} {key : GroupKey}
    (hk : d.key? c.source = some key) {m : Match}
    (h : m ∈ (c.query w f (some d)).matchesIn w) : ∃ v, key.valueOf m = some v := by
  obtain ⟨_, _, links, _⟩ := (Clauses.mem_matchesIn_iff (c.chain_query w f (some d))).1 h
  obtain ⟨l, hl, same⟩ := List.mem_map.1 (Dimension.slot_mem_links hk)
  have linked : l ∈ (c.query w f (some d)).clauses.joins :=
    mem_joins_query.2 (.inr (.inr ⟨d, rfl, hl⟩))
  have filled := (links l linked).filled
  rw [same, ← GroupKey.isSome_valueOf] at filled
  exact Option.isSome_iff_exists.1 filled

/-- The only field of a filter that a metric reads for itself is what closes an issue. -/
theorem definition_congr (h : g.closingCondition = f.closingCondition) (c : Count) :
    c.definition g = c.definition f := by
  unfold definition closing
  rw [h]

/-- Filters that bind the same, in whatever order and slot, have the same matches: as sets their
joins are the same, and so are their conditions. -/
theorem mem_matchesIn_iff_of_restrictsAs {c : Count} (h : g.RestrictsAs f) {m : Match} :
    m ∈ (c.query w g group).matchesIn w ↔ m ∈ (c.query w f group).matchesIn w := by
  have base := definition_congr h.closing c
  have joins : ∀ l, l ∈ (c.query w g group).clauses.joins ↔
      l ∈ (c.query w f group).clauses.joins := fun l => by
    simp only [mem_joins_query, base, h.bindings]
  have predicates : ∀ p, p ∈ (c.query w g group).clauses.predicates ↔
      p ∈ (c.query w f group).clauses.predicates := fun p => by
    simp only [mem_predicates_query, base, h.bindings, h.exclusions]
  have event : (c.query w g group).event = (c.query w f group).event := congrArg (·.event) base
  unfold Query.matchesIn
  rw [event, show (c.query w g group).start = (c.query w f group).start from h.start,
    show (c.query w g group).stop = (c.query w f group).stop from h.stop]
  exact Clauses.mem_matchesIn_congr (c.chain_query w f group) (c.chain_query w g group) joins
    predicates

/-- **The matches of one more binding** are those of the breakdown that belong to the item. The two
queries join the same: one binds the dimension, and the other breaks it down. They differ in one
condition, and it is that the match belongs to the item. This is where the sum over the items of a
breakdown comes from, and the equality of an item in a breakdown with the item alone. -/
theorem mem_matchesIn_iff_of_bound {c : Count} {d : Dimension} {key : GroupKey}
    (hk : d.key? c.source = some key) {v : String} (frame : g.SameFrame f)
    (bindings : ∀ b, b ∈ g.bindings ↔ b = (d, v) ∨ b ∈ f.bindings) {m : Match} :
    m ∈ (c.query w g none).matchesIn w ↔
      m ∈ (c.query w f (some d)).matchesIn w ∧ key.valueOf m = some v := by
  have base := definition_congr frame.closing c
  -- to bind an item and to tell items apart takes the same links
  have joins : ∀ l, l ∈ (c.query w g none).clauses.joins ↔
      l ∈ (c.query w f (some d)).clauses.joins := by
    intro l
    simp only [mem_joins_query, base, bindings, or_and_right, exists_or, exists_eq_left,
      Option.mem_def, Option.some.injEq, exists_eq_left', reduceCtorEq, false_and, exists_false,
      or_false]
    exact or_congr_right or_comm
  have predicates : ∀ p, p ∈ (c.query w g none).clauses.predicates ↔
      p = d.condition w c.source v ∨ p ∈ (c.query w f (some d)).clauses.predicates := by
    intro p
    simp only [mem_predicates_query, base, frame.exclusions, bindings, or_and_right, exists_or,
      exists_eq_left, or_assoc]
    exact or_left_comm
  have event : (c.query w g none).event = (c.query w f (some d)).event := congrArg (·.event) base
  unfold Query.matchesIn
  rw [← Dimension.holds_condition_iff hk, event,
    show (c.query w g none).start = (c.query w f (some d)).start from frame.start,
    show (c.query w g none).stop = (c.query w f (some d)).stop from frame.stop]
  exact Clauses.mem_matchesIn_iff_of_restricted (c.chain_query w f (some d))
    (c.chain_query w g none) joins predicates

/-- **The matches of a single item** are those of the breakdown that belong to the item. The filter
of the item binds it where that of the breakdown had every item. -/
theorem mem_matchesIn_only_iff {c : Count} {d : Dimension} {key : GroupKey}
    (hk : d.key? c.source = some key) (every : f.selection = .every d) {v : String} {m : Match} :
    m ∈ (c.query w (f.only d v) none).matchesIn w ↔
      m ∈ (c.query w f (some d)).matchesIn w ∧ key.valueOf m = some v := by
  have frame : (f.only d v).SameFrame f := ⟨rfl, rfl, rfl, rfl, rfl⟩
  refine mem_matchesIn_iff_of_bound hk frame fun b => ?_
  rw [Filter.bindings_only every, List.mem_cons]

end Count

end ActivityMetrics
