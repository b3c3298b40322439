import ActivityMetrics.Proofs.Metric.Exclusion
import ActivityMetrics.Proofs.Metric.SameAnswers

/-!
# Linking a raw actor again

All links from raw actors to people are kept under the number of the raw actor alone, whatever
source gave it out. To link a raw actor of one source therefore ends the link that the other source
has under the same number, and the events of the other source are attributed to the new person
(`Warehouse.addIdentity_other_source`). Only if these events belong to that person anyway, or if
there are none, do the metrics of the other source give the same answers as before.

Two sources number their actors independently, and both begin with one, so that the numbers meet as
a rule and not by accident. The link is looked up in two ways. To resolve an actor asks for the
number and the source, and finds nothing once the number has a link of the other source. A statement
joins by the number alone and finds the link that is there, whoever it leads to. So one and the same
operation makes an actor unknown in the first way and somebody else in the second.

That answers are the same in the harmless case is shown as for other changes that no answer sees:
the matches of a query are followed, and in each of them the link is replaced by the new one. That
they differ otherwise is shown by counting: the new person keeps every event and gets at least one
more.
-/

namespace ActivityMetrics

/-- The match with the link to the person replaced. Enrolments are by person, and stay. -/
def Match.relink (g : Identity → Identity) (m : Match) : Match :=
  { m with identity := m.identity.map g }

/-- A warehouse differs from another in links only, and each event has the same links but for a
replacement that keeps raw actors and people. -/
structure Warehouse.Relinked (w w' : Warehouse) (e : Event) (g : Identity → Identity) : Prop where
  /-- A replaced link is of the same raw actor. -/
  id : ∀ i, (g i).id = i.id
  /-- A replaced link leads to the same person. -/
  uuid : ∀ i, (g i).uuid = i.uuid
  /-- All records but those of people and links are the same. -/
  rest : ∃ people identities, w' = { w with people, identities }
  /-- The links of an event are replaced. -/
  links : ∀ r ∈ e.records w, w'.identities.filter (fun i => e.actorOf r == some i.id)
    = (w.identities.filter fun i => e.actorOf r == some i.id).map g

namespace Warehouse.Relinked

variable {w w' : Warehouse} {e : Event} {g : Identity → Identity} {m : Match}

/-- Events do not change. -/
theorem records (h : w.Relinked w' e g) : e.records w' = e.records w := by
  obtain ⟨people, identities, rfl⟩ := h.rest
  cases e <;> rfl

/-- The same is read from a match that is relinked, since the person is the same. -/
theorem readsAs (h : w.Relinked w' e g) (m : Match) : m.ReadsAs (m.relink g) := by
  refine ⟨rfl, rfl, ?_, fun _ => rfl⟩
  show (m.identity.map g).map (·.uuid) = _
  simp only [Option.map_map, Function.comp_def, h.uuid]

/-- **A link extends the match that is relinked** to the matches that are relinked. Only one link of
a statement looks at the table of links at all. -/
theorem extend (h : w.Relinked w' e g) (l : Link) (known : m.record ∈ e.records w) :
    l.extend w' e (m.relink g) = (l.extend w e m).map (Match.relink g) := by
  have links := h.links _ known
  have reads := h.readsAs m
  obtain ⟨people, identities, rfl⟩ := h.rest
  cases l with
  | issue | repository source => simp only [Link.extend, List.map_map]; rfl
  | identity =>
    simp only [Link.extend, List.map_map]
    rw [show (m.relink g).record = m.record from rfl, links, List.map_map]
    rfl
  | enrollment kind =>
    simp only [Link.extend, List.map_map, reads.person]
    rfl
  | group kind =>
    simp only [Link.extend, List.map_map]
    cases kind <;> rfl

/-- What people did is unchanged. Exclusions look the link up by themselves, and find the replaced
one. -/
theorem any_identities (h : w.Relinked w' e g) {r : EventRecord} (known : r ∈ e.records w)
    {p : Identity → Bool} (hp : ∀ i, p (g i) = p i) :
    (w'.identities.any fun i => some i.id == e.actorOf r && p i)
      = w.identities.any fun i => some i.id == e.actorOf r && p i := by
  have links := h.links r known
  have through : ∀ is : List Identity, (is.any fun i => some i.id == e.actorOf r && p i)
      = (is.filter fun i => e.actorOf r == some i.id).any p := fun is => by
    rw [List.any_filter]
    simp only [Bool.beq_comm (a := e.actorOf r)]
  rw [through, through, links, List.any_map]
  simp only [Function.comp_def, hp]

/-- **A condition holds of the match that is relinked** when it held of the match. -/
theorem holds (h : w.Relinked w' e g) (p : Condition) (known : m.record ∈ e.records w) :
    p.holds w' e (m.relink g) = p.holds w e m := by
  cases p with
  | personIs u => simp only [Condition.holds, (h.readsAs m).person]
  | notBy uuids =>
    have acts := h.any_identities known (p := fun i => uuids.contains i.uuid) fun i => by
      rw [h.uuid]
    exact congrArg (!·) acts
  | notFrom names =>
    obtain ⟨people, identities, rfl⟩ := h.rest
    have belongs := h.any_identities known (p := fun i => w.enrollments.any fun n =>
      n.uuid == i.uuid && n.kind == .organization && n.covers m.record.date &&
        w.organizations.any fun o => o.id == n.target && names.contains o.name) fun i => by
      rw [h.uuid]
    exact congrArg (!·) belongs
  | repositoryIs source name | memberOf kind name | closes condition => rfl
  | inProjects source projects =>
    obtain ⟨people, identities, rfl⟩ := h.rest
    rfl

/-- **The matches of clauses are relinked**, in the same order, so that there is no question of how
often each is found. -/
theorem matchesIn (h : w.Relinked w' e g) (cs : Clauses) (start stop : String) :
    cs.matchesIn w' e start stop = (cs.matchesIn w e start stop).map (Match.relink g) := by
  have events : eventsIn w' e start stop = (eventsIn w e start stop).map (Match.relink g) := by
    rw [eventsIn, eventsIn, h.records, List.map_map]
    rfl
  exact Clauses.matchesIn_map events (fun l _ _ known => h.extend l known)
    fun p _ _ known => h.holds p known

/-- A query has the same answer. -/
theorem run {q : Query} (h : w.Relinked w' q.event g) (mode : Mode) :
    q.run w' mode = q.run w mode := by
  refine Query.run_congr ?_ mode
  rw [show q.matchesIn w' = (q.matchesIn w).map (Match.relink g) from h.matchesIn _ _ _]
  exact .map fun m _ => h.readsAs m

end Warehouse.Relinked

/-! ## Answers of a source

What was shown of one query is put together for all queries of a source. -/

/-- A metric runs alike if its events are relinked. -/
theorem Count.sameRuns_of_relinked {c : Count} {w w' : Warehouse} {g : Identity → Identity}
    (h : w.Relinked w' c.event g) : c.SameRuns w w' := by
  intro f group limit mode
  have children : w'.projectChildren = w.projectChildren := by
    obtain ⟨people, identities, rfl⟩ := h.rest
    rfl
  have event : ({ c.query w f group with limit } : Query).event = c.event := event_query c w f group
  rw [query_congr children]
  exact Warehouse.Relinked.run (event ▸ h) mode

/-- **A metric does not depend on how the actors of its events are linked**, as long as the links
lead to the same people. -/
theorem Metric.sameAnswers_of_relinked {m : Metric} {w w' : Warehouse} {g : Identity → Identity}
    (h : ∀ c : Count, c.source = m.source → w.Relinked w' c.event g) : m.SameAnswers w w' :=
  sameAnswers_of_runs fun c hc => Count.sameRuns_of_relinked (h c hc)

/-! ## A link that is put in place of another

The operation is compared with the replacement. It removes the links of the number and adds its own,
and it also makes the person known. -/

namespace Warehouse

variable {w : Warehouse} {source : Source} {id : Int} {uuid name : String}

/-- To link a raw actor changes people and links only. -/
theorem addIdentity_eq (w : Warehouse) (id : Int) (source : Source) (uuid name : String) :
    ∃ people, w.addIdentity id source uuid name
      = { w with people, identities := putIdentity ⟨id, source, uuid, name⟩ w.identities } := by
  unfold addIdentity addPerson
  split <;> exact ⟨_, rfl⟩

/-- Of the links, the new one takes the place of the old. -/
theorem identities_addIdentity :
    (w.addIdentity id source uuid name).identities
      = putIdentity ⟨id, source, uuid, name⟩ w.identities := by
  obtain ⟨people, eq⟩ := w.addIdentity_eq id source uuid name
  rw [eq]

/-- To link a raw actor does not change the events. -/
theorem records_addIdentity (w : Warehouse) (e : Event) (id : Int) (source : Source)
    (uuid name : String) : e.records (w.addIdentity id source uuid name) = e.records w := by
  obtain ⟨people, eq⟩ := w.addIdentity_eq id source uuid name
  rw [eq]
  cases e <;> rfl

/-- The only link of a raw actor. -/
theorem filter_identities_eq_singleton (keyed : w.Keyed) {i : Identity} (h : i ∈ w.identities) :
    w.identities.filter (·.id = i.id) = [i] := by
  rw [← filter_eq_singleton (List.Nodup.of_map _ keyed.identities) h]
  refine List.filter_congr fun j hj => decide_eq_decide.2 ⟨fun same => ?_, congrArg Identity.id⟩
  exact List.inj_on_of_nodup_map keyed.identities hj h same

/-- Whatever is done through a raw actor in some events is done by a person. If nothing is done
through it, there is nothing to ask for. -/
def ActsAs (w : Warehouse) (e : Event) (id : Int) (uuid : String) : Prop :=
  ∀ r ∈ e.records w, e.actorOf r = some id → ∃ i ∈ w.identities, i.id = id ∧ i.uuid = uuid

/-- **To link a raw actor to the person whom it is linked to changes nothing but the link.** The
source and the name may change with it. For events of other actors the link is not looked at. -/
theorem relinked_addIdentity (keyed : w.Keyed) {e : Event} (acts : w.ActsAs e id uuid) :
    w.Relinked (w.addIdentity id source uuid name) e
      fun i => if i.id = id ∧ i.uuid = uuid then ⟨id, source, uuid, name⟩ else i := by
  refine ⟨fun i => ?_, fun i => ?_, ?_, fun r known => ?_⟩
  · split
    · rename_i same
      exact same.1.symm
    · rfl
  · split
    · rename_i same
      exact same.2.symm
    · rfl
  · obtain ⟨people, eq⟩ := w.addIdentity_eq id source uuid name
    exact ⟨people, _, eq⟩
  · rw [identities_addIdentity]
    cases actor : e.actorOf r with
    | none => simp
    | some a =>
      have through : ∀ i : Identity, (some a == some i.id) = decide (i.id = a) := fun i => by
        rw [Bool.eq_iff_iff, beq_iff_eq, Option.some.injEq, decide_eq_true_eq, eq_comm]
      simp only [through]
      -- an event of the number that is linked has one link before and one after, and any other has
      -- its own
      by_cases same : a = id
      · subst same
        obtain ⟨i, hi, rfl, person⟩ := acts r known actor
        have one := filter_putIdentity_self keyed.identities ⟨i.id, source, uuid, name⟩
        rw [filter_identities_eq_singleton keyed hi, List.map_singleton, if_pos ⟨rfl, person⟩]
        exact one
      · rw [filter_putIdentity_of_ne _ same]
        refine (List.map_congr_left fun i hi => ?_).trans (List.map_id _) |>.symm
        have own : i.id = a := of_decide_eq_true (List.mem_filter.1 hi).2
        exact if_neg fun h => same (own.symm.trans h.1)

/-- **A raw actor of a source is found unless its number is given to another source.** The person
whom the number was linked to does not matter. -/
theorem resolve?_addIdentity {other : Source} (keyed : w.Keyed) (different : other ≠ source)
    (actor : Int) :
    (w.addIdentity id source uuid name).resolve? other actor
      = if actor = id then none else w.resolve? other actor := by
  have through : ∀ is : List Identity, (is.find? fun i => i.id == actor && i.source == other)
      = (is.filter (·.id = actor)).find? (·.source == other) := fun is => by
    rw [List.find?_filter]
    refine congrArg (is.find? ·) (funext fun i => ?_)
    rw [Bool.eq_iff_iff]
    simp
  rw [resolve?, resolve?, identities_addIdentity, through, through]
  split
  · rename_i same
    subst same
    rw [filter_putIdentity_self keyed.identities ⟨actor, source, uuid, name⟩,
      List.find?_cons_of_neg, List.find?_nil]
    · rfl
    · exact fun h => different (beq_iff_eq.1 h).symm
  · rename_i another
    rw [filter_putIdentity_of_ne _ another]

/-- The new link leads to the person, and the other links that do so are kept. So the person loses
no event. -/
theorem actsAsOne_addIdentity (keyed : w.Keyed) {actor : Option Int}
    (h : actor = some id ∨ Condition.actsAsOne w [uuid] actor) :
    Condition.actsAsOne (w.addIdentity id source uuid name) [uuid] actor := by
  have new := filter_putIdentity_self keyed.identities ⟨id, source, uuid, name⟩
  have put : ⟨id, source, uuid, name⟩ ∈ putIdentity ⟨id, source, uuid, name⟩ w.identities := by
    refine (List.mem_filter.1 (?_ : _ ∈ List.filter (fun i => decide (i.id = id)) _)).1
    rw [new]
    exact List.mem_singleton.2 rfl
  rw [Condition.actsAsOne_iff, identities_addIdentity]
  by_cases own : actor = some id
  · exact ⟨_, put, own.symm, List.mem_singleton.2 rfl⟩
  · obtain ⟨i, known, same, person⟩ := Condition.actsAsOne_iff.1 (h.resolve_left own)
    have other : i.id ≠ id := fun h => own (same ▸ congrArg some h)
    have kept : i ∈ (putIdentity ⟨id, source, uuid, name⟩ w.identities).filter (·.id = i.id) := by
      rw [filter_putIdentity_of_ne _ other]
      exact List.mem_filter.2 ⟨known, decide_eq_true rfl⟩
    exact ⟨i, (List.mem_filter.1 kept).1, same, person⟩

end Warehouse

/-! ## Events that change hands

That an answer differs has to be shown at a filter. It should select nothing by people or
organizations, as a change of hands could change whether it counts an event at all. -/

/-- A filter asks nothing about who acted. It may ask where. Such filters are those whose answers
for commits and opened issues do not depend on links at all. -/
structure Filter.Impersonal (f : Filter) : Prop where
  /-- Nobody is left out. -/
  actors : f.excludedActors = []
  /-- No organization is left out. -/
  organizations : f.excludedOrganizations = []
  /-- Only repositories and projects are bound. -/
  bindings : ∀ b ∈ f.bindings, b.1 = .repository ∨ b.1 = .project

namespace Count

variable {c : Count} {w : Warehouse} {f : Filter} {r : EventRecord}
variable {source : Source} {id : Int} {uuid name : String}

/-- The statement is the same, since it does not depend on links. -/
theorem query_addIdentity (group : Option Dimension) :
    c.query (w.addIdentity id source uuid name) f group = c.query w f group := by
  obtain ⟨people, eq⟩ := w.addIdentity_eq id source uuid name
  exact query_congr (by rw [eq]) c f group

/-- Commits and opened issues are counted without links and conditions of the metric. -/
theorem base_of_countsNumbers (hc : c.CountsNumbers) (f : Filter) :
    (c.definition f).base = .empty := by
  rcases hc with rfl | rfl <;> rfl

/-- An impersonal filter joins repositories only. -/
theorem join_of_impersonal (hc : c.CountsNumbers) (impersonal : f.Impersonal) {l : Link}
    (h : l ∈ (c.query w f none).clauses.joins) : ∃ s, l = .repository s := by
  rw [mem_joins_query, base_of_countsNumbers hc] at h
  rcases h with base | ⟨b, hb, own⟩ | ⟨_, none, _⟩
  · cases base
  · rcases impersonal.bindings b hb with same | same
    · rw [same] at own
      exact ⟨_, List.mem_singleton.1 own⟩
    · rw [same] at own
      cases own
  · cases none

/-- An impersonal filter asks for repositories and projects only. -/
theorem predicate_of_impersonal (hc : c.CountsNumbers) (impersonal : f.Impersonal) {p : Condition}
    (h : p ∈ (c.query w f none).clauses.predicates) :
    (∃ s v, p = .repositoryIs s v) ∨ ∃ s projects, p = .inProjects s projects := by
  rw [mem_predicates_query, base_of_countsNumbers hc] at h
  rcases h with base | ⟨b, hb, rfl⟩ | excluded
  · cases base
  · rcases impersonal.bindings b hb with same | same
    · rw [same]
      exact .inl ⟨_, _, rfl⟩
    · rw [same]
      exact .inr ⟨_, _, rfl⟩
  · rw [Filter.exclusions, impersonal.actors, impersonal.organizations] at excluded
    cases excluded

/-- Without a question about who acted, an event is counted whatever the links. -/
theorem counts_addIdentity_iff (hc : c.CountsNumbers) (impersonal : f.Impersonal) :
    c.Counts (w.addIdentity id source uuid name) f r ↔ c.Counts w f r := by
  obtain ⟨people, eq⟩ := w.addIdentity_eq id source uuid name
  have records := w.records_addIdentity c.event id source uuid name
  have links : ∀ l ∈ (c.query w f none).clauses.joins, ∀ m,
      l.Holds (w.addIdentity id source uuid name) c.event m ↔ l.Holds w c.event m := by
    intro l hl m
    obtain ⟨s, rfl⟩ := join_of_impersonal hc impersonal hl
    rw [eq]
    cases s <;> exact Iff.rfl
  have conditions : ∀ p ∈ (c.query w f none).clauses.predicates, ∀ m,
      p.holds (w.addIdentity id source uuid name) c.event m = p.holds w c.event m := by
    intro p hp m
    rw [eq]
    rcases predicate_of_impersonal hc impersonal hp with ⟨s, v, rfl⟩ | ⟨s, projects, rfl⟩ <;> rfl
  rw [counts_iff, counts_iff, records, query_addIdentity]
  refine and_congr_right fun _ => exists_congr fun m => and_congr_right fun _ => ?_
  exact and_congr (forall₂_congr fun l hl => links l hl m)
    (forall₂_congr fun p hp => by rw [conditions p hp m])

/-- **An event changes hands** when its raw actor is linked to a person who was not behind it. Then
the person has more events than before: every event that the person had, and this one. -/
theorem total_lt_total_addIdentity (keyed : w.Keyed) (hc : c.CountsNumbers)
    (impersonal : f.Impersonal) (counted : c.Counts w f r)
    (actor : c.event.actorOf r = some id)
    (another : ∀ i ∈ w.identities, i.id = id → i.uuid ≠ uuid) :
    c.total w (f.also .person uuid)
      < c.total (w.addIdentity id source uuid name) (f.also .person uuid) := by
  have keyed' : (w.addIdentity id source uuid name).Keyed :=
    keyed.perform (.addIdentity id source uuid name)
  rw [total_eq_countP keyed hc, total_eq_countP keyed' hc, w.records_addIdentity]
  refine countP_lt_countP (fun r' before => ?_) (counts_iff.1 counted).1.1 ?_ ?_
  · obtain ⟨counted', acts⟩ := (counts_also_person_iff keyed).1 (of_decide_eq_true before)
    refine decide_eq_true ((counts_also_person_iff keyed').2 ⟨?_, ?_⟩)
    · exact (counts_addIdentity_iff hc impersonal).2 counted'
    · exact Warehouse.actsAsOne_addIdentity keyed (.inr acts)
  · refine decide_eq_true ((counts_also_person_iff keyed').2 ⟨?_, ?_⟩)
    · exact (counts_addIdentity_iff hc impersonal).2 counted
    · exact Warehouse.actsAsOne_addIdentity keyed (.inl actor)
  · intro before
    obtain ⟨_, acts⟩ := (counts_also_person_iff keyed).1 (of_decide_eq_true before)
    obtain ⟨i, known, same, person⟩ := Condition.actsAsOne_iff.1 acts
    exact another i known (Option.some.inj (same.trans actor)) (List.mem_singleton.1 person)

end Count

/-! ## The theorem -/

/-- **What a link of one source does to another.** The other source finds its raw actors as before,
except that it no longer finds the number that is linked. Its metrics give the same answers if the
person did whatever was done through this number anyway. If somebody else did some of it, the person
has more commits and opened issues than before.

The two conditions are the two sides of one question, whether some event of the other source has
this number and another person, or nobody, behind it. In the first case all answers of all metrics
stay the same, of every filter; in the second a filter is given whose answer does not. The
hypothesis that the number leads to nobody or to somebody else covers a number without a link: an
event that was nobody's becomes the event of the person. -/
theorem Warehouse.addIdentity_other_source {w : Warehouse} (reachable : w.Reachable)
    {source other : Source} (different : other ≠ source) (id : Int) (uuid name : String) :
    (∀ actor, (w.addIdentity id source uuid name).resolve? other actor
      = if actor = id then none else w.resolve? other actor) ∧
    ((∀ c : Count, c.source = other → w.ActsAs c.event id uuid) →
      ∀ m : Metric, m.source = other → m.SameAnswers w (w.addIdentity id source uuid name)) ∧
    ∀ (c : Count) (f : Filter) (r : EventRecord), c.CountsNumbers → f.Impersonal →
      c.Counts w f r → c.event.actorOf r = some id →
      (∀ i ∈ w.identities, i.id = id → i.uuid ≠ uuid) →
      (c.query w (f.also .person uuid) none).Admitted .aggregate →
        ∃ before after, c.Answers w (f.also .person uuid) before ∧
          c.Answers (w.addIdentity id source uuid name) (f.also .person uuid) after ∧
          before < after := by
  have keyed := reachable.keyed
  refine ⟨resolve?_addIdentity keyed different, fun acts m hm => ?_,
    fun c f r hc impersonal counted actor another accepted => ?_⟩
  · exact Metric.sameAnswers_of_relinked fun c hc =>
      relinked_addIdentity keyed (acts c (hc.trans hm))
  · have accepted' : (c.query (w.addIdentity id source uuid name) (f.also .person uuid)
        none).Admitted .aggregate := by
      rwa [Count.query_addIdentity]
    exact ⟨_, _, Count.answers_total rfl accepted, Count.answers_total rfl accepted',
      Count.total_lt_total_addIdentity keyed hc impersonal counted actor another⟩

/-- A commit changes hands, since the tracker has an actor of the same number. -/
theorem Warehouse.addIdentity_other_source_joiner :
    joiner.resolve? .scm 1 = some "ada" ∧
    (joiner.addIdentity 1 .its "bo" "Bo").resolve? .scm 1 = none ∧
    ∃ before after,
      Count.commits.Answers joiner ((Filter.january (.bound [])).also .person "bo") before ∧
      Count.commits.Answers (joiner.addIdentity 1 .its "bo" "Bo")
        ((Filter.january (.bound [])).also .person "bo") after ∧ before < after := by
  have impersonal : (Filter.january (.bound [])).Impersonal := ⟨rfl, rfl, nofun⟩
  obtain ⟨resolved, _, more⟩ := addIdentity_other_source (w := joiner) ⟨_, rfl⟩
    (show Source.scm ≠ .its by decide) 1 "bo" "Bo"
  refine ⟨by decide, by rw [resolved]; rfl, ?_⟩
  exact more .commits _ (.commit ⟨1, "r1", 1, some 1, none, "2025-01-05"⟩) (.inl rfl) impersonal
    (by decide) rfl (by decide) (by decide)

end ActivityMetrics
