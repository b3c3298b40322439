import ActivityMetrics.Proofs.Metric.Events

/-!
# Filters that narrow each other

A filter narrows another one when it binds at least the same, and leaves out at least the same
(`Filter.Narrows`). Its queries have more links and stronger conditions. Further links may multiply
the matches of an event, but what is left of a match without them is a match of the wider filter,
about the same event, with the same value and in the same item (`Count.exists_wider`). Since values
are counted once, however many matches they have, nothing is counted more often.

The number of matches is of no use here. To bind a company joins the enrolments of the person behind
an event, and someone who is enrolled twice gives two matches where there was one. A metric that
counted matches would count more under a narrower filter. What can be compared are the values, by
sending each match of the narrower filter to one of the wider filter, and this needs no more than
that the map exists: it may send several matches to one.
-/

namespace ActivityMetrics

/-! ## Values of the match that is left

Records are taken out of a match, all that the wider filter has no link for. What the wider query
reads is still in it. -/

/-- A key sees the slot that it reads, and no other. -/
theorem GroupKey.valueOf_keep {key : GroupKey} {slots : List Slot} (h : key.slot ∈ slots)
    (m : Match) : key.valueOf (m.keep slots) = key.valueOf m := by
  have own := Match.agreeAt_keep h m
  cases key with
  | repository | person | group kind => exact congrArg (Option.map _) own.symm

/-- What is counted is the event, or the person behind it. So two matches of one event with the same
person are counted as one value. -/
theorem Counted.valueOf_congr {c : Counted} {m m' : Match} (record : m.record = m'.record)
    (identity : c = .person → m.identity = m'.identity) : c.valueOf m = c.valueOf m' := by
  unfold valueOf
  rw [record]
  cases c with
  | person => rw [identity rfl]
  | commit | repository | issue | changedIssue => cases m'.record <;> rfl

/-! ## Narrower filters

To narrow is a preorder, and it is said of the whole filter at once, so that a chain of bindings and
exclusions is one step. -/

namespace Filter

/-- A filter restricts activity at least as much as another one. The window is the same; to narrow a
window is not meant. -/
structure Narrows (g f : Filter) : Prop where
  /-- The windows begin together. -/
  start : g.start = f.start
  /-- The windows end together. -/
  stop : g.stop = f.stop
  /-- The same changes close an issue. -/
  closing : g.closingCondition = f.closingCondition
  /-- What was bound still is. -/
  bindings : f.bindings ⊆ g.bindings
  /-- Who was left out still is. -/
  actors : f.excludedActors ⊆ g.excludedActors
  /-- The organizations that were left out still are. -/
  organizations : f.excludedOrganizations ⊆ g.excludedOrganizations

variable {f g h : Filter} {w : Warehouse} {e : Event} {r : EventRecord}

/-- Every filter narrows itself. -/
theorem Narrows.refl (f : Filter) : f.Narrows f :=
  ⟨rfl, rfl, rfl, List.Subset.refl _, List.Subset.refl _, List.Subset.refl _⟩

/-- What narrows a narrower filter narrows the wider one. -/
theorem Narrows.trans (n : h.Narrows g) (n' : g.Narrows f) : h.Narrows f where
  start := n.start.trans n'.start
  stop := n.stop.trans n'.stop
  closing := n.closing.trans n'.closing
  bindings := List.Subset.trans n'.bindings n.bindings
  actors := List.Subset.trans n'.actors n.actors
  organizations := List.Subset.trans n'.organizations n.organizations

/-- Events that a narrower filter spares were spared before. This is the step in which the order
turns around: more people are excluded, and fewer events are left. -/
theorem Narrows.spares (n : g.Narrows f) (spared : g.Spares w e r) : f.Spares w e r := by
  constructor
  · intro acts
    refine spared.actors (Condition.actsAsOne_iff.2 ?_)
    obtain ⟨i, known, actor, excluded⟩ := Condition.actsAsOne_iff.1 acts
    exact ⟨i, known, actor, n.actors excluded⟩
  · intro belongs
    refine spared.organizations (Condition.belongsToOne_iff.2 ?_)
    obtain ⟨i, known, actor, k, enrolled, covers, o, named, target, excluded⟩ :=
      Condition.belongsToOne_iff.1 belongs
    exact ⟨i, known, actor, k, enrolled, covers, o, named, target, n.organizations excluded⟩

end Filter

namespace Count

variable {c : Count} {w : Warehouse} {f g : Filter} {m : Match} {group group' : Option Dimension}

/-- People are counted where the metric itself looks for them. So the person of a match is still
there when the links of a narrower filter are taken away. -/
theorem identity_mem_joins (h : (c.query w f group).counted = .person) :
    .identity ∈ (c.query w f group).clauses.joins := by
  refine mem_joins_query.2 (.inl ?_)
  cases c with
  | authors | committers | openers => exact List.mem_cons_self
  | closers => exact List.mem_cons_of_mem _ List.mem_cons_self
  | commits | repositories | opened | closed => cases h

/-- **What is left of a match of a narrower filter** is a match of the wider one, about the same
event, with the same value and in the same item. The two queries may also differ in that the
narrower one is broken down; the wider one is then not, or by the same dimension. -/
theorem exists_wider (n : g.Narrows f) (coarser : ∀ d ∈ group', d ∈ group)
    (hm : m ∈ (c.query w g group).matchesIn w) :
    ∃ m' ∈ (c.query w f group').matchesIn w, m'.record = m.record ∧
      (c.query w f group').counted.valueOf m' = (c.query w g group).counted.valueOf m ∧
      ∀ d ∈ group', ∀ key, d.key? c.source = some key → key.valueOf m' = key.valueOf m := by
  have same := definition_congr n.closing c
  have joins : ∀ l ∈ (c.query w f group').clauses.joins,
      l ∈ (c.query w g group).clauses.joins := by
    intro l hl
    rw [mem_joins_query] at hl ⊢
    rw [same]
    rcases hl with base | ⟨b, hb, own⟩ | ⟨d, hd, own⟩
    · exact .inl base
    · exact .inr (.inl ⟨b, n.bindings hb, own⟩)
    · exact .inr (.inr ⟨d, coarser d hd, own⟩)
  obtain ⟨window, _, links, conditions⟩ :=
    (Clauses.mem_matchesIn_iff (c.chain_query w g group)).1 hm
  rw [event_query] at window links conditions
  -- every condition of the wider query is one of the narrower query, or follows from a stronger
  -- exclusion
  have weaker : ∀ p ∈ (c.query w f group').clauses.predicates, p.holds w c.event m := by
    obtain ⟨base, bound, spared⟩ := forall_predicates_iff.1 conditions
    rw [same] at base
    exact forall_predicates_iff.2 ⟨base, fun b hb => bound b (n.bindings hb), n.spares spared⟩
  have kept := Clauses.keep_mem_matchesIn (c.chain_query w f group') (c.supported_query w f)
    (c.issue_mem_joins_or w f) window (fun l hl => links l (joins l hl)) weaker
  have counted : (c.query w g group).counted = (c.query w f group').counted :=
    congrArg (·.counted) same
  refine ⟨m.keep ((c.query w f group').clauses.joins.map Link.slot), ?_, rfl, ?_,
    fun d hd key hk => ?_⟩
  · rw [show (c.query w g group).start = (c.query w f group').start from n.start,
      show (c.query w g group).stop = (c.query w f group').stop from n.stop] at kept
    rw [Query.matchesIn, event_query]
    exact kept
  · rw [counted]
    refine Counted.valueOf_congr rfl fun person => ?_
    have linked : Slot.identity ∈ (c.query w f group').clauses.joins.map Link.slot :=
      List.mem_map.2 ⟨.identity, identity_mem_joins person, rfl⟩
    exact (Match.agreeAt_keep linked m).symm
  · refine GroupKey.valueOf_keep ?_ m
    obtain ⟨l, hl, reads⟩ := List.mem_map.1 (Dimension.slot_mem_links hk)
    exact List.mem_map.2 ⟨l, mem_joins_query.2 (.inr (.inr ⟨d, hd, hl⟩)), reads⟩

end Count

end ActivityMetrics
