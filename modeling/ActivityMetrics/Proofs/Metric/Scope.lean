import ActivityMetrics.Proofs.Metric.Binding
import ActivityMetrics.Proofs.Metric.Query
import ActivityMetrics.Proofs.Query.Wording

/-!
# Scope

A statement introduces the table of the events and those that it joins, each under an alias, and
refers to columns by these aliases. The joins of a query come from the metric, from the dimensions
that are bound, and from the one that is broken down; still, no alias is introduced twice, and none
is used before it is there (`Count.wellScoped_statement`).

Nobody who writes a part of a statement knows the other parts. A dimension brings the joins that it
needs, the next dimension brings its own, and if both need the person of the event, the join of the
person is there twice until the parts are merged. What merges them compares texts. So the statement
is well scoped for three reasons that have to come together: equal joins are dropped, different
joins have different aliases, and what is dropped stays at its first place, in front of what refers
to it.

The property is one of the text. The aliases that are used are those that can be found in the
characters of a statement in front of a dot, outside of its subqueries (`namesIn`), and not those
that some record says it uses. That a part uses what it is said to use is shown for its wording
(`Link.namesIn_phrase`, `Condition.namesIn_phrase`).
-/

namespace ActivityMetrics

namespace Statement

/-- The alias of a table: what stands behind the last blank. -/
def aliasIn (table : String) : String :=
  String.ofList (table.toList.reverse.takeWhile (· ≠ ' ')).reverse

/-- The aliases that a statement introduces, that of the events first. They are read off the texts
of its tables, as the database would do it. -/
def introduced (s : Statement) : List String :=
  aliasIn s.table :: s.fragments.joins.map fun j => aliasIn j.table

/-- Every alias is introduced once, and used only where it is known. A join is read from left to
right, so its condition may look at what stands before it and at its own table; everything after the
joins may look at all of them. Names inside subqueries are left out, as a subquery brings its tables
along. -/
structure WellScoped (s : Statement) : Prop where
  /-- No alias is introduced twice. -/
  once : s.introduced.Nodup
  /-- The condition of a join refers to the events, to tables that are joined before, and to its
  own. -/
  joins : ∀ before j after, s.fragments.joins = before ++ j :: after →
    namesIn j.on ⊆ aliasIn s.table :: (before ++ [j]).map fun j => aliasIn j.table
  /-- The predicates refer to what is introduced. -/
  predicates : ∀ p ∈ s.fragments.predicates, namesIn p.text ⊆ s.introduced
  /-- The values refer to what is introduced. -/
  fields : ∀ f ∈ s.fields, namesIn f.expr ⊆ s.introduced
  /-- The column of the time refers to what is introduced. -/
  dateColumn : namesIn s.dateColumn ⊆ s.introduced
  /-- The expression for the items refers to what is introduced. -/
  key : ∀ d key, s.grouping = some (d, some key) → namesIn key ⊆ s.introduced

/-- A table with an alias of one word behind it has this alias. -/
theorem aliasIn_append (t : String) {a : String} (h : ' ' ∉ a.toList) :
    aliasIn (t ++ " " ++ a) = a := by
  unfold aliasIn
  rw [String.toList_append, String.toList_append, List.reverse_append, List.reverse_append,
    List.takeWhile_append_of_pos]
  · simp
  · intro c hc
    have : c ≠ ' ' := by
      rintro rfl
      exact h (List.mem_reverse.1 hc)
    exact decide_eq_true this

end Statement

/-! ## Aliases

Aliases are named by what they stand for, and turned into text only in a statement. Different ones
have different texts, so that scopes can be compared without texts. -/

namespace Alias

/-- There are sixteen aliases: ten for single tables, and two for each kind of group. -/
def all : List Alias :=
  [.commit, .issue, .change, .repository, .tracker, .identity, .innerIdentity, .innerEnrollment,
    .innerGroup, .innerProject]
    ++ [Affiliation.organization, .country, .domain].flatMap fun kind =>
      [.enrollment kind, .group kind]

/-- The list has all of them. -/
theorem mem_all (a : Alias) : a ∈ all := by
  cases a with
  | enrollment kind | group kind => cases kind <;> decide
  | _ => decide

/-- Aliases can be told apart by their texts. -/
theorem text_injective : Function.Injective text :=
  injective_of_nodup_map mem_all (by decide +kernel)

/-- An alias is one word. -/
theorem blank_not_mem (a : Alias) : ' ' ∉ a.text.toList := by
  have : ∀ a ∈ all, ' ' ∉ a.text.toList := by decide +kernel
  exact this a a.mem_all

end Alias

/-- The table of events is introduced under its alias. -/
theorem Event.aliasIn_table (e : Event) : Statement.aliasIn e.table = e.tableAlias.text := by
  cases e <;> decide +kernel

/-- The column of the time is one of the table of events. -/
theorem Event.namesIn_date (e : Event) : namesIn e.date.text = [e.tableAlias.text] := by
  cases e <;> decide +kernel

/-- What is counted is a column of one table. -/
theorem Counted.namesIn_text (c : Counted) : namesIn c.text = [c.column.table.text] := by
  cases c <;> decide +kernel

/-- A key is a column of one table. -/
theorem GroupKey.namesIn_column (k : GroupKey) :
    namesIn k.column.text = [k.column.table.text] := by
  cases k with
  | repository source => cases source <;> decide +kernel
  | person => decide +kernel
  | group kind => cases kind <;> decide +kernel

/-- A link introduces its table under its alias. -/
theorem Link.aliasIn_join (e : Event) (l : Link) :
    Statement.aliasIn (l.join e).table = l.tableAlias.text :=
  Statement.aliasIn_append l.tableName l.tableAlias.blank_not_mem

/-! ## Links

A link is a join, and its condition refers to its own table and to what stands before it. Which
tables these are is found link by link; that they do stand before it is a property of chains. -/

namespace Link

/-- Different links introduce different aliases. So a table that is joined by two dimensions is
joined by one link. -/
theorem tableAlias_injective : Function.Injective tableAlias :=
  injective_of_nodup_map mem_all (by decide)

/-- Only the issue is an event of its own and a record that belongs to another one. -/
theorem eq_issue_of_tableAlias {e : Event} {l : Link} (same : l.tableAlias = e.tableAlias) :
    l = .issue ∧ e = .issues := by
  cases l with
  | issue =>
    cases e with
    | issues => exact ⟨rfl, rfl⟩
    | commits | commitsByCommitter | changes => cases same
  | repository source => cases source <;> cases e <;> cases same
  | identity | enrollment kind | group kind => cases e <;> cases same

/-- The condition of a link refers to its own table, to that of the events, to the issue of a
change, or to the table of a link that has to come before. -/
theorem of_mem_aliases {e : Event} {l : Link} (change : l = .issue → e = .changes) {a : Alias}
    (ha : a ∈ (l.phrase e).aliases) :
    a = l.tableAlias ∨ a = e.tableAlias ∨ (e = .changes ∧ l ≠ .issue ∧ a = .issue) ∨
      ∃ l' : Link, l.needs = some l'.slot ∧ l' ≠ .issue ∧ l'.slot ≠ .place ∧ l'.tableAlias = a := by
  cases l with
  | issue =>
    cases change rfl
    have both : a = .issue ∨ a = .change := by simpa [phrase] using ha
    exact both.imp_right .inl
  -- a change has no repository of its own, and refers to that of its issue
  | repository source =>
    have both : a = source.repositoryAlias ∨ a = e.repository.table := by simpa [phrase] using ha
    refine both.imp_right fun own => ?_
    cases e with
    | commits | commitsByCommitter | issues => exact .inl own
    | changes => exact .inr (.inl ⟨rfl, Link.noConfusion, own⟩)
  | identity =>
    have both : a = .identity ∨ a = e.actor.table := by simpa [phrase] using ha
    refine both.imp_right fun own => .inl ?_
    cases e <;> exact own
  | enrollment kind =>
    have listed : a ∈ [.enrollment kind, .identity, .enrollment kind, e.date.table,
      .enrollment kind, e.date.table, .enrollment kind] := ha
    have one : a = .enrollment kind ∨ a = .identity ∨ a = e.date.table := by
      simp only [List.mem_cons, List.not_mem_nil, or_false] at listed
      tauto
    refine one.imp_right fun other => ?_
    rcases other with rfl | own
    · exact .inr (.inr ⟨.identity, rfl, by decide, by decide, rfl⟩)
    · cases e <;> exact .inl own
  | group kind =>
    have both : a = .group kind ∨ a = .enrollment kind := by simpa [phrase] using ha
    refine both.imp_right fun other => ?_
    exact .inr (.inr ⟨.enrollment kind, rfl, Link.noConfusion, Slot.noConfusion, other.symm⟩)

namespace Chain

variable {source : Source} {ls ls' before after : List Link} {l : Link}

/-- What the last link of a chain satisfies. -/
theorem of_concat (h : Chain source (ls ++ [l])) :
    Chain source ls ∧ (l = .issue → ls = []) ∧
      ∀ s, l.needs = some s → s = .issue ∨ s ∈ ls.map slot := by
  generalize same : ls ++ [l] = all at h
  cases h with
  | nil => exact absurd same (by simp)
  | snoc chain _ _ first supported =>
    obtain ⟨rfl, last⟩ := List.append_inj' same rfl
    cases last
    exact ⟨chain, first, supported⟩

/-- The front of a chain is a chain. -/
theorem of_append (h : Chain source (ls ++ ls')) : Chain source ls := by
  induction ls' using List.reverseRecOn with
  | nil => rwa [List.append_nil] at h
  | append_singleton ls' l ih =>
    rw [← List.append_assoc] at h
    exact ih h.of_concat.1

/-- What a link reads stands before it. -/
theorem supported_before (h : Chain source (before ++ l :: after)) {s : Slot}
    (hs : l.needs = some s) : s = .issue ∨ s ∈ before.map slot := by
  rw [List.append_cons] at h
  exact h.of_append.of_concat.2.2 s hs

/-- The issue stands before all other links. -/
theorem issue_mem_before (h : Chain source (before ++ l :: after))
    (hi : .issue ∈ before ++ l :: after) (other : l ≠ .issue) : .issue ∈ before := by
  rcases List.mem_append.1 hi with there | there
  · exact there
  · obtain ⟨between, rest, rfl⟩ :=
      List.append_of_mem ((List.mem_cons.1 there).resolve_left other.symm)
    -- the issue would end a chain in which the link stands before it
    rw [← List.cons_append, ← List.append_assoc, List.append_cons] at h
    exact absurd (h.of_append.of_concat.2.1 rfl) (by simp)

end Chain

end Link

/-! ## Dimensions

Beside links, a dimension brings a condition or a key, and these use a table that it links. A
project is the exception: it uses the table that has the repository of the event. -/

namespace Dimension

variable {source : Source} {d : Dimension} {a : Alias}

/-- A membership leads to its group. -/
theorem exists_group_mem_membership (kind : Affiliation) :
    ∃ l ∈ links.membership kind, l.tableAlias = .group kind :=
  ⟨.group kind, by simp [links.membership], rfl⟩

/-- To bind a dimension is to refer to a table that it links, or to the repository of the event. -/
theorem of_mem_aliases_condition {w : Warehouse} {e : Event} {v : String}
    (ha : a ∈ ((d.condition w source v).phrase e).aliases) :
    a = e.repository.table ∨ ∃ l ∈ d.links source, l.tableAlias = a := by
  have member : ∀ kind, a ∈ ((Condition.memberOf kind v).phrase e).aliases →
      ∃ l ∈ links.membership kind, l.tableAlias = a := by
    intro kind ha
    have own : a = .group kind := by
      simpa [Condition.phrase, Affiliation.nameColumn] using ha
    exact own ▸ exists_group_mem_membership kind
  cases d with
  | repository =>
    have own : a = source.repositoryName.table := by simpa [condition, Condition.phrase] using ha
    exact .inr ⟨.repository source, List.mem_cons_self, by rw [own]; cases source <;> rfl⟩
  | company | country | domain => exact .inr (member _ ha)
  | project => exact .inl (by simpa [condition, Condition.phrase] using ha)
  | person =>
    have own : a = .identity := by simpa [condition, Condition.phrase, uuidColumn] using ha
    exact .inr ⟨.identity, List.mem_cons_self, own.symm⟩

/-- The items of a dimension are read off a table that it links. -/
theorem exists_link_of_key {key : GroupKey} (hk : d.key? source = some key) :
    ∃ l ∈ d.links source, l.tableAlias = key.column.table := by
  cases d with
  | repository =>
    cases hk
    exact ⟨.repository source, List.mem_cons_self, by cases source <;> rfl⟩
  | company | country | domain =>
    cases hk
    exact exists_group_mem_membership _
  | project => cases hk
  | person =>
    cases hk
    exact ⟨.identity, List.mem_cons_self, rfl⟩

end Dimension

/-! ## Queries

The scope of a query has the alias of its events and those of its links. What is said of aliases
here becomes a statement about texts in the end. -/

/-- The aliases that a query introduces. -/
def Query.scope (q : Query) : List Alias :=
  q.event.tableAlias :: q.clauses.joins.map Link.tableAlias

/-- What the text of joins introduces are the texts of the aliases of links. -/
theorem Link.introduced (e : Event) (ls : List Link) :
    Statement.aliasIn e.table :: (ls.map (join e)).map (fun j => Statement.aliasIn j.table)
      = (e.tableAlias :: ls.map tableAlias).map Alias.text := by
  rw [e.aliasIn_table, List.map_cons, List.map_map, List.map_map]
  exact congrArg _ (List.map_congr_left fun l _ => l.aliasIn_join e)

/-- What a statement introduces is its scope in writing. -/
theorem Query.introduced_statement (q : Query) :
    q.statement.introduced = q.scope.map Alias.text :=
  Link.introduced q.event q.clauses.joins

namespace Count

variable {c : Count} {w : Warehouse} {f : Filter} {group : Option Dimension}

/-- **The joins and predicates of a statement** are collected as text from the metric, the filter
and the dimension that is broken down, and only equal texts fall together. -/
theorem fragments_statement (c : Count) (w : Warehouse) (f : Filter) (group : Option Dimension) :
    (c.query w f group).statement.fragments =
      ((f.clauses w c.source :: group.toList.map (Dimension.clauses c.source)).map
        (Clauses.wording c.event)).foldl .merge
          (Clauses.wording c.event (c.definition f).base) := by
  rw [← Clauses.wording_foldl_merge, ← event_query c w f group]
  cases group <;> rfl

/-- Only changes are linked to an issue. -/
theorem event_of_issue_mem_joins (h : .issue ∈ (c.query w f group).clauses.joins) :
    c.event = .changes := by
  rcases mem_joins_query.1 h with base | ⟨b, _, bound⟩ | ⟨d, _, grouped⟩
  · exact event_of_issue_mem_base base
  · exact absurd bound (b.1.issue_not_mem_links c.source)
  · exact absurd grouped (d.issue_not_mem_links c.source)

/-- The metrics of changes link the issue of a change, for which other links may ask. -/
theorem issue_mem_joins (h : c.event = .changes) :
    .issue ∈ (c.query w f group).clauses.joins := by
  cases c with
  | closed | closers => exact mem_joins_query.2 (.inl List.mem_cons_self)
  | commits | authors | committers | repositories | opened | openers => cases h

/-- **No alias is introduced twice.** The links are different, and none of them introduces the table
of the events again; the issue of a change would for events that are issues, but it is linked for
changes only. -/
theorem nodup_scope (c : Count) (w : Warehouse) (f : Filter) (group : Option Dimension) :
    (c.query w f group).scope.Nodup := by
  refine List.nodup_cons.2 ⟨fun there => ?_,
    (c.nodup_joins_query w f group).map Link.tableAlias_injective⟩
  obtain ⟨l, hl, same⟩ := List.mem_map.1 there
  rw [event_query] at same
  obtain ⟨rfl, issues⟩ := Link.eq_issue_of_tableAlias same
  cases issues.symm.trans (event_of_issue_mem_joins hl)

/-- What a link introduces is in scope. -/
theorem mem_scope_of_link {l : Link} (hl : l ∈ (c.query w f group).clauses.joins) :
    l.tableAlias ∈ (c.query w f group).scope :=
  List.mem_cons_of_mem _ (List.mem_map.2 ⟨l, hl, rfl⟩)

/-- The table of the events is in scope. -/
theorem mem_scope_of_event {a : Alias} (h : a = c.event.tableAlias) :
    a ∈ (c.query w f group).scope := by
  rw [h, ← event_query c w f group]
  exact List.mem_cons_self

/-- The repository of an event is in scope. That of a change is found through its issue. -/
theorem repository_mem_scope : c.event.repository.table ∈ (c.query w f group).scope := by
  have found : c.event.repository.table = c.event.tableAlias ∨
      c.event = .changes ∧ c.event.repository.table = Link.issue.tableAlias := by
    cases c.event with
    | commits | commitsByCommitter | issues => exact .inl rfl
    | changes => exact .inr ⟨rfl, rfl⟩
  rcases found with own | ⟨changes, issue⟩
  · exact mem_scope_of_event own
  · rw [issue]
    exact mem_scope_of_link (issue_mem_joins changes)

/-- What is counted is in scope. -/
theorem counted_mem_scope :
    (c.query w f group).counted.column.table ∈ (c.query w f group).scope := by
  have person : .identity ∈ (c.definition f).base.joins →
      Alias.identity ∈ (c.query w f group).scope := fun base =>
    mem_scope_of_link (mem_joins_query.2 (.inl base))
  cases c with
  | commits | repositories | opened | closed => exact mem_scope_of_event rfl
  | authors | committers | openers => exact person List.mem_cons_self
  | closers => exact person (List.mem_cons_of_mem _ List.mem_cons_self)

/-- The items of a dimension are in scope. -/
theorem key_mem_scope {d : Dimension} {key : GroupKey} (hd : d ∈ group)
    (hk : d.key? c.source = some key) : key.column.table ∈ (c.query w f group).scope := by
  obtain ⟨l, hl, same⟩ := Dimension.exists_link_of_key hk
  rw [← same]
  exact mem_scope_of_link (mem_joins_query.2 (.inr (.inr ⟨d, hd, hl⟩)))

/-- **Whatever a condition of a query refers to is in scope.** An exclusion that looks at
organizations refers to nothing outside of its subquery but columns of the event. -/
theorem mem_scope_of_condition {p : Condition} (hp : p ∈ (c.query w f group).clauses.predicates)
    {a : Alias} (ha : a ∈ (p.phrase c.event).aliases) : a ∈ (c.query w f group).scope := by
  rcases mem_predicates_query.1 hp with base | ⟨b, hb, rfl⟩ | excluded
  · obtain ⟨rfl, changes⟩ := mem_base_predicates base
    have own : a = .change := by simpa [Condition.phrase] using ha
    exact mem_scope_of_event (by rw [own, changes]; rfl)
  · rcases Dimension.of_mem_aliases_condition ha with rfl | ⟨l, hl, rfl⟩
    · exact repository_mem_scope
    · exact mem_scope_of_link (mem_joins_query.2 (.inr (.inl ⟨b, hb, hl⟩)))
  · rcases Filter.eq_of_mem_exclusions excluded with rfl | rfl
    · have own : a = c.event.actor.table := by simpa [Condition.phrase] using ha
      exact mem_scope_of_event (by rw [own]; cases c.event <;> rfl)
    · exact absurd ha (by simp [Condition.phrase])

/-- **Whatever the condition of a link refers to is known where it is joined.** It is not enough for
it to be in scope: the database reads joins from left to right. -/
theorem mem_scope_of_join {before after : List Link} {l : Link}
    (split : (c.query w f group).clauses.joins = before ++ l :: after) {a : Alias}
    (ha : a ∈ (l.phrase c.event).aliases) :
    a ∈ c.event.tableAlias :: (before ++ [l]).map Link.tableAlias := by
  have chain : Link.Chain c.source (before ++ l :: after) := split ▸ c.chain_query w f group
  have joined : ∀ l' ∈ before ++ [l], l'.tableAlias = a →
      a ∈ c.event.tableAlias :: (before ++ [l]).map Link.tableAlias := fun l' hl' same =>
    List.mem_cons_of_mem _ (List.mem_map.2 ⟨l', hl', same⟩)
  have change : l = .issue → c.event = .changes := by
    rintro rfl
    exact event_of_issue_mem_joins (split ▸ List.mem_append_right _ List.mem_cons_self)
  rcases Link.of_mem_aliases change ha with own | event | ⟨changes, other, issue⟩ |
    ⟨l', needed, other, place, same⟩
  · exact joined l (List.mem_append_right _ (List.mem_singleton.2 rfl)) own.symm
  · exact List.mem_cons.2 (.inl event)
  · have first : Link.issue ∈ before ++ l :: after := split ▸ issue_mem_joins changes
    exact joined .issue (List.mem_append_left _ (chain.issue_mem_before first other)) issue.symm
  · have slot : l'.slot ∈ before.map Link.slot :=
      (chain.supported_before needed).resolve_left fun issue =>
        other (by cases l' <;> cases issue; rfl)
    exact joined l' (List.mem_append_left _ (Link.mem_of_slot_mem slot place)) same

/-- **Every statement is well scoped.** Whatever is bound, left out or broken down, no alias is
introduced twice, a join refers to what stands before it, and everything else to what is introduced.

There are no conditions. Dimensions may be bound several times and in any order, the dimension that
is broken down may be bound as well, and for projects, which have no key, the statement is well
scoped all the same, although it is never sent. -/
theorem wellScoped_statement (c : Count) (w : Warehouse) (f : Filter) (group : Option Dimension) :
    (c.query w f group).statement.WellScoped := by
  have event := event_query c w f group
  have known : ∀ {as : List Alias}, as ⊆ (c.query w f group).scope →
      as.map Alias.text ⊆ (c.query w f group).statement.introduced := fun sub => by
    rw [Query.introduced_statement]
    exact List.map_subset _ sub
  have known_one : ∀ {a : Alias}, a ∈ (c.query w f group).scope →
      [a.text] ⊆ (c.query w f group).statement.introduced := fun there =>
    known fun _ one => List.mem_singleton.1 one ▸ there
  constructor
  case once =>
    rw [Query.introduced_statement]
    exact (c.nodup_scope w f group).map Alias.text_injective
  case joins =>
    intro before j after split
    -- joins are worded links, so the links split where the joins do
    obtain ⟨before, rest, joins, rfl, same⟩ := List.map_eq_append_iff.1 split
    obtain ⟨l, after, rfl, rfl, rfl⟩ := List.map_eq_cons_iff.1 same
    have introduced := Link.introduced c.event (before ++ [l])
    rw [List.map_append, ← event] at introduced
    refine introduced ▸ ?_
    show namesIn (l.phrase (c.query w f group).event).text ⊆ _
    rw [Link.namesIn_phrase, event]
    exact List.map_subset _ fun a ha => mem_scope_of_join joins ha
  case predicates =>
    intro p hp
    obtain ⟨q, hq, rfl⟩ := List.mem_map.1 hp
    rw [event]
    -- a predicate is a worded condition, which uses the aliases of its phrase
    show namesIn (q.phrase c.event).text ⊆ _
    rw [Condition.namesIn_phrase]
    exact known fun a ha => mem_scope_of_condition hq ha
  case fields =>
    intro v hv
    rw [List.mem_singleton.1 hv]
    show namesIn (c.query w f group).counted.text ⊆ _
    rw [Counted.namesIn_text]
    exact known_one counted_mem_scope
  case dateColumn =>
    show namesIn (c.query w f group).event.date.text ⊆ _
    rw [Event.namesIn_date]
    exact known_one List.mem_cons_self
  case key =>
    intro d key grouping
    obtain ⟨d', hd, same⟩ := Option.map_eq_some_iff.1 grouping
    obtain ⟨k, hk, rfl⟩ := Option.map_eq_some_iff.1 (congrArg Prod.snd same)
    rw [GroupKey.namesIn_column]
    exact known_one (key_mem_scope hd hk)

end Count

end ActivityMetrics
