import ActivityMetrics.Proofs.Metric.Events

/-!
# One more binding

A filter that binds one more dimension asks for the links of the dimension and for its condition,
beside everything that it asked for before (`Count.counts_also_iff`). A person or a group selects an
event on the way that the raw actor leads. The raw actor has one link, so the records that serve the
other conditions serve these as well: the event is selected exactly when the person acted
(`Count.counts_also_person_iff`), or a member of the group (`Count.counts_also_affiliation_iff`).

The second step is not automatic. An event is counted when there are records that satisfy all
conditions of the statement at once. That some records satisfy the conditions so far, and some
records those of one more dimension, does not give records for both: the statement has one join with
the identities and not one for each condition. What makes it true is that the two choices cannot
disagree. A raw actor has at most one link, since the links have the raw actor as their key, and the
memberships of a kind are only joined for the dimension of this kind, so that they are still free to
be chosen.

A binding to a group is therefore only taken for a dimension that the filter does not bind yet.
Bound to two organizations, a statement still joins one membership, and an event of a person who is
a member of both is not selected.
-/

namespace ActivityMetrics

/-- A person is at an instant a member of the group of a name. The person has an enrolment of the
kind that covers the instant, and its target is an entity of this name. -/
def Warehouse.IsMember (w : Warehouse) (kind : Affiliation) (name uuid instant : String) : Prop :=
  ∃ n ∈ w.enrollments, (n.uuid = uuid ∧ n.kind = kind ∧ n.covers instant) ∧
    ∃ g ∈ w.entities kind, g.id = n.target ∧ g.name = name

instance (w : Warehouse) (kind : Affiliation) (name uuid instant : String) :
    Decidable (w.IsMember kind name uuid instant) :=
  inferInstanceAs (Decidable (∃ _ ∈ _, _))

/-- The person behind a raw actor is at an instant a member of the group of a name. An event has a
raw actor and not a person; without a link nobody is behind it, and no group has it. -/
def Warehouse.HasMember (w : Warehouse) (kind : Affiliation) (name : String) (actor : Option Int)
    (instant : String) : Prop :=
  ∃ i ∈ w.identities, some i.id = actor ∧ w.IsMember kind name i.uuid instant

/-- An exclusion looks for the members of some organizations. It does so by a statement within the
statement, but on the same way: link, enrolment, entity. -/
theorem Condition.belongsToOne_iff_hasMember {w : Warehouse} {names : List String}
    {actor : Option Int} {instant : String} :
    belongsToOne w names actor instant ↔
      ∃ name ∈ names, w.HasMember .organization name actor instant := by
  rw [belongsToOne_iff]
  constructor
  · rintro ⟨i, hi, acts, n, hn, during, o, ho, target, listed⟩
    exact ⟨o.name, listed, i, hi, acts, n, hn, during, o, ho, target, rfl⟩
  · rintro ⟨_, listed, i, hi, acts, n, hn, during, o, ho, target, rfl⟩
    exact ⟨i, hi, acts, n, hn, during, o, ho, target, listed⟩

/-- With one organization to be excluded, this is the condition under which the organization would
select. -/
theorem Condition.belongsToOne_singleton_iff {w : Warehouse} {name : String} {actor : Option Int}
    {instant : String} :
    belongsToOne w [name] actor instant ↔ w.HasMember .organization name actor instant := by
  simp only [belongsToOne_iff_hasMember, List.mem_singleton, exists_eq_left]

namespace Dimension

variable {d : Dimension} {kind : Affiliation}

/-- The dimensions with members are linked alike, by the identity, the enrolment and the entity of
their kind. -/
theorem links_of_affiliation (h : d.affiliation? = some kind) (source : Source) :
    d.links source = links.membership kind := by
  cases d <;> cases h <;> rfl

/-- Their condition is one on the name of the entity. -/
theorem condition_of_affiliation (h : d.affiliation? = some kind) (w : Warehouse) (source : Source)
    (v : String) : d.condition w source v = .memberOf kind v := by
  cases d <;> cases h <;> rfl

/-- The memberships of a kind are linked by one dimension only. So a filter without a binding of
this dimension has no use for them yet. -/
theorem eq_of_membership_mem_links (h : d.affiliation? = some kind) {other : Dimension}
    {source : Source} {l : Link} (hl : l = .enrollment kind ∨ l = .group kind)
    (linked : l ∈ other.links source) : other = d := by
  rcases hl with rfl | rfl <;> cases d <;> cases h <;> cases other <;>
    simp_all [links, links.membership]

end Dimension

namespace Filter

variable {f : Filter} {d : Dimension} {v : String}

/-- The filter with one more dimension bound to a value. The binding comes last, and a grouping is
dropped, as the filters whose counts are compared here have none. -/
def also (f : Filter) (d : Dimension) (v : String) : Filter :=
  { f with selection := .bound (f.selection.pairs ++ [(d, v)]) }

/-- A filter with a dimension bound besides binds what it bound before, and the dimension to the
value. -/
theorem mem_bindings_also {b : Dimension × String} :
    b ∈ (f.also d v).bindings ↔ b ∈ f.bindings ∨ b = (d, v) := by
  simp [bindings, also, Selection.pairs, or_assoc, or_comm (a := b = (d, v))]

end Filter

namespace Count

variable {c : Count} {w : Warehouse} {f g : Filter} {r : EventRecord} {m : Match}
variable {d : Dimension} {v : String}

/-! ## What a metric always asks for

Beside its bindings a statement has links and conditions that come from the metric. There are few:
the identity of those who count people, the issue of a change, and that the change closes. -/

/-- A metric joins issues and identities by itself, but nothing that belongs to a group. -/
theorem mem_base_joins {l : Link} (h : l ∈ (c.definition f).base.joins) :
    l = .issue ∨ l = .identity := by
  cases c with
  | commits | repositories | opened => cases h
  | authors | committers | openers => exact .inr (List.mem_singleton.1 h)
  | closed => exact .inl (List.mem_singleton.1 h)
  | closers =>
    have both : l ∈ [Link.issue, Link.identity] := h
    simpa using both

/-- Only changes have to be linked to an issue. -/
theorem event_of_issue_mem_base (h : .issue ∈ (c.definition f).base.joins) :
    c.event = .changes := by
  cases c with
  | closed | closers => rfl
  | commits | repositories | opened => cases h
  | authors | committers | openers => cases List.mem_singleton.1 h

/-- Only changes have a condition of their own: that they close an issue. -/
theorem mem_base_predicates {p : Condition} (h : p ∈ (c.definition f).base.predicates) :
    p = .closes f.closingCondition ∧ c.event = .changes := by
  cases c with
  | closed | closers => exact ⟨List.mem_singleton.1 h, rfl⟩
  | commits | authors | committers | repositories | opened | openers => cases h

/-- An event of a metric of changes is a change. -/
theorem exists_change (h : c.event = .changes) (hr : r ∈ c.event.records w) :
    ∃ x ∈ w.changes, r = .change x := by
  rw [h] at hr
  obtain ⟨x, hx, rfl⟩ := List.mem_map.1 hr
  exact ⟨x, hx, rfl⟩

/-! ## Bindings and events

The clauses of a statement are compared with those of the statement with one more binding. They are
the same sets of links and conditions with a few more members, whatever the order in which they are
written. -/

/-- Filters that bind the same count the same events. -/
theorem counts_iff_of_restrictsAs (h : g.RestrictsAs f) : c.Counts w g r ↔ c.Counts w f r :=
  exists_congr fun _ => and_congr_left fun _ => mem_matchesIn_iff_of_restrictsAs h

/-- One more dimension needs its own links. Those it has in common with another are joined once. -/
theorem mem_joins_also_iff {l : Link} :
    l ∈ (c.query w (f.also d v) none).clauses.joins ↔
      l ∈ (c.query w f none).clauses.joins ∨ l ∈ d.links c.source := by
  have base : c.definition (f.also d v) = c.definition f := definition_congr rfl c
  simp only [mem_joins_query, base, Filter.mem_bindings_also, or_and_right, exists_or,
    exists_eq_left, Option.mem_def, reduceCtorEq, false_and, exists_false, or_false, or_assoc]

/-- One more dimension has a condition of its own. -/
theorem mem_predicates_also_iff {p : Condition} :
    p ∈ (c.query w (f.also d v) none).clauses.predicates ↔
      p ∈ (c.query w f none).clauses.predicates ∨ p = d.condition w c.source v := by
  have base : c.definition (f.also d v) = c.definition f := definition_congr rfl c
  have exclusions : (f.also d v).exclusions = f.exclusions := rfl
  simp only [mem_predicates_query, base, exclusions, Filter.mem_bindings_also, or_and_right,
    exists_or, exists_eq_left]
  exact (or_congr_right or_right_comm).trans or_assoc.symm

/-- **An event is counted under one more dimension** when the records can be chosen so that the
dimension has its value. The choice is one for all conditions, old and new. That the new ones may be
checked on their own is what the section after this is about, and it is not true of all of them. -/
theorem counts_also_iff :
    c.Counts w (f.also d v) r ↔
      (r ∈ c.event.records w ∧ f.start.text ≤ r.date ∧ r.date < f.stop.text) ∧
        ∃ m : Match, m.record = r ∧
          ((∀ l ∈ (c.query w f none).clauses.joins, l.Holds w c.event m) ∧
            ∀ p ∈ (c.query w f none).clauses.predicates, p.holds w c.event m) ∧
          (∀ l ∈ d.links c.source, l.Holds w c.event m) ∧
            (d.condition w c.source v).holds w c.event m := by
  rw [counts_iff]
  simp only [mem_joins_also_iff, mem_predicates_also_iff, or_imp, forall_and, forall_eq]
  refine and_congr_right fun _ => exists_congr fun m => and_congr_right fun _ => ?_
  -- only the order of the four conditions is left
  constructor
  · rintro ⟨⟨links, more⟩, conditions, last⟩
    exact ⟨⟨links, conditions⟩, more, last⟩
  · rintro ⟨⟨links, conditions⟩, more, last⟩
    exact ⟨⟨links, more⟩, conditions, last⟩

/-- What is counted under one more dimension is counted without it: the same records serve. -/
theorem Counts.of_also (h : c.Counts w (f.also d v) r) : c.Counts w f r := by
  obtain ⟨window, m, record, ⟨links, conditions⟩, _⟩ := counts_also_iff.1 h
  exact counts_iff.2 ⟨window, m, record, links, conditions⟩

/-! ## Selecting an actor

For the dimensions that follow the raw actor, the records of the event are changed where the
dimension needs it, and the change is seen not to touch what the other conditions read. -/

/-- **A raw actor has one link**, so a match that has a link has this one. A match without a link
may be given one, and a match with a link has no choice. -/
theorem identity_eq_of_mem (keyed : w.Keyed) {ls : List Link} {e : Event}
    (links : ∀ l ∈ ls, l.Holds w e m) {i : Identity} (known : i ∈ w.identities)
    (actor : some i.id = e.actorOf m.record) (h : .identity ∈ ls) : m.identity = some i := by
  obtain ⟨j, known', record, actor'⟩ := links _ h
  have same : j.id = i.id := Option.some.inj (actor'.symm.trans actor.symm)
  rw [record, List.inj_on_of_nodup_map keyed.identities known' known same]

/-- **A person selects an event** exactly when the person acted. This is the condition that an
exclusion of the person negates, and it speaks of the raw actor alone. -/
theorem counts_also_person_iff (keyed : w.Keyed) {u : String} :
    c.Counts w (f.also .person u) r ↔
      c.Counts w f r ∧ Condition.actsAsOne w [u] (c.event.actorOf r) := by
  constructor
  · intro h
    refine ⟨h.of_also, Condition.actsAsOne_iff.2 ?_⟩
    obtain ⟨_, m, rfl, _, links, condition⟩ := counts_also_iff.1 h
    obtain ⟨i, known, record, actor⟩ := links _ List.mem_cons_self
    have person : (m.identity.map (·.uuid) == some u) = true := condition
    rw [record, beq_iff_eq] at person
    exact ⟨i, known, actor.symm, List.mem_singleton.2 (Option.some.inj person)⟩
  · rintro ⟨h, acts⟩
    obtain ⟨window, m, rfl, links, conditions⟩ := counts_iff.1 h
    obtain ⟨i, known, actor, person⟩ := Condition.actsAsOne_iff.1 acts
    -- the match is that of the event with the link of the actor, which it had if it had one
    let m' : Match := { m with identity := some i }
    have agree : ∀ s ∈ (c.query w f none).clauses.joins.map Link.slot, m.AgreeAt m' s := by
      intro s hs
      cases s with
      | identity =>
        exact identity_eq_of_mem keyed links known actor
          (Link.mem_of_slot_mem (l := .identity) hs nofun)
      | issue => exact fun _ _ => rfl
      | place | enrollment kind | group kind => exact rfl
    have record : m.record = m'.record := rfl
    have before := Clauses.holds_of_agree (c.chain_query w f none) (c.supported_query w f) record
      (fun _ _ => rfl) agree links conditions
    refine counts_also_iff.2 ⟨window, m', rfl, before, fun l hl => ?_, ?_⟩
    · rw [List.mem_singleton.1 hl]
      exact ⟨i, known, rfl, actor.symm⟩
    · show (some i.uuid == some u) = true
      rw [List.mem_singleton.1 person, beq_self_eq_true]

/-- The links to the groups of a kind come from the dimension of the kind. A filter that does not
bind it leaves the membership of a match open. -/
theorem membership_not_mem_joins {kind : Affiliation} (hd : d.affiliation? = some kind)
    (free : ∀ b ∈ f.bindings, b.1 ≠ d) {l : Link} (h : l = .enrollment kind ∨ l = .group kind) :
    l ∉ (c.query w f none).clauses.joins := by
  rw [mem_joins_query]
  rintro (base | ⟨b, hb, hl⟩ | ⟨_, none, _⟩)
  · rcases h with rfl | rfl <;> rcases mem_base_joins base with issue | identity <;> contradiction
  · exact free b hb (Dimension.eq_of_membership_mem_links hd h hl)
  · cases none

/-- What a group selects was done by a member. The three links of the dimension are the three
records of a membership, and the condition names the entity. -/
theorem Counts.hasMember {kind : Affiliation} (hd : d.affiliation? = some kind)
    (h : c.Counts w (f.also d v) r) : w.HasMember kind v (c.event.actorOf r) r.date := by
  obtain ⟨_, m, rfl, _, links, condition⟩ := counts_also_iff.1 h
  rw [Dimension.links_of_affiliation hd] at links
  rw [Dimension.condition_of_affiliation hd] at condition
  obtain ⟨i, known, identity, actor⟩ := links .identity (by simp [Dimension.links.membership])
  obtain ⟨k, member, enrollment, person, of_kind, during⟩ :=
    links (.enrollment kind) (by simp [Dimension.links.membership])
  obtain ⟨o, group, place, target⟩ := links (.group kind) (by simp [Dimension.links.membership])
  have name : ((m.group kind).map (·.name) == some v) = true := condition
  rw [place, beq_iff_eq] at name
  rw [identity] at person
  rw [enrollment] at target
  exact ⟨i, known, actor.symm, k, member, ⟨(Option.some.inj person).symm, of_kind, during⟩, o,
    group, (Option.some.inj target).symm, Option.some.inj name⟩

/-- What a member did is selected by the group. The records of the event are kept but for the link
of the actor, which they have already if they have one, and for the membership, which nothing else
asks for. -/
theorem Counts.also_of_hasMember {kind : Affiliation} (keyed : w.Keyed)
    (hd : d.affiliation? = some kind) (free : ∀ b ∈ f.bindings, b.1 ≠ d) (h : c.Counts w f r)
    (member : w.HasMember kind v (c.event.actorOf r) r.date) : c.Counts w (f.also d v) r := by
  obtain ⟨window, m, rfl, links, conditions⟩ := counts_iff.1 h
  obtain ⟨i, known, actor, k, member, ⟨person, of_kind, during⟩, o, group, target, name⟩ := member
  -- the memberships of the kind are still free in the match of the event
  let m' : Match :=
    { m with
      identity := some i
      enrollment := Affiliation.update m.enrollment kind (some k)
      group := Affiliation.update m.group kind (some o) }
  have agree : ∀ s ∈ (c.query w f none).clauses.joins.map Link.slot, m.AgreeAt m' s := by
    intro s hs
    cases s with
    | identity =>
      exact identity_eq_of_mem keyed links known actor
        (Link.mem_of_slot_mem (l := .identity) hs nofun)
    | issue => exact fun _ _ => rfl
    | place => exact rfl
    | enrollment kind' =>
      refine (Affiliation.update_other _ _ ?_).symm
      rintro rfl
      exact membership_not_mem_joins hd free (.inl rfl)
        (Link.mem_of_slot_mem (l := .enrollment _) hs nofun)
    | group kind' =>
      refine (Affiliation.update_other _ _ ?_).symm
      rintro rfl
      exact membership_not_mem_joins hd free (.inr rfl)
        (Link.mem_of_slot_mem (l := .group _) hs nofun)
  have record : m.record = m'.record := rfl
  have before := Clauses.holds_of_agree (c.chain_query w f none) (c.supported_query w f) record
    (fun _ _ => rfl) agree links conditions
  have enrollment : m'.enrollment kind = some k := Affiliation.update_same _ _ _
  have place : m'.group kind = some o := Affiliation.update_same _ _ _
  refine counts_also_iff.2 ⟨window, m', rfl, before, fun l hl => ?_, ?_⟩
  · rw [Dimension.links_of_affiliation hd] at hl
    simp only [Dimension.links.membership, List.mem_cons, List.not_mem_nil, or_false] at hl
    rcases hl with rfl | rfl | rfl
    · exact ⟨i, known, rfl, actor.symm⟩
    · exact ⟨k, member, enrollment, congrArg some person.symm, of_kind, during⟩
    · exact ⟨o, group, place, by rw [enrollment, target]; rfl⟩
  · rw [Dimension.condition_of_affiliation hd]
    show ((m'.group kind).map (·.name) == some v) = true
    rw [place, ← name]
    exact beq_self_eq_true _

/-- **A group selects an event** exactly when a member acted, if the filter does not bind its
dimension already. A person may be a member more than once; one membership that covers the event is
enough, and the event is counted once all the same. -/
theorem counts_also_affiliation_iff {kind : Affiliation} (keyed : w.Keyed)
    (hd : d.affiliation? = some kind) (free : ∀ b ∈ f.bindings, b.1 ≠ d) :
    c.Counts w (f.also d v) r ↔
      c.Counts w f r ∧ w.HasMember kind v (c.event.actorOf r) r.date :=
  ⟨fun h => ⟨h.of_also, h.hasMember hd⟩, fun h => h.1.also_of_hasMember keyed hd free h.2⟩

end Count

end ActivityMetrics
