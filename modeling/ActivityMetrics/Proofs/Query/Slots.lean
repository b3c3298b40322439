import ActivityMetrics.Proofs.Query.Matches

/-!
# What links and conditions read

A link or a condition reads few of the records of a match, so it holds of another match of the same
event that agrees in these (`Link.holds_congr`, `Condition.holds_congr`). Records that no link leads
to can therefore be left out of a match on which the links and conditions hold
(`Clauses.keep_mem_matchesIn`), and whether an event has a match at all can be decided on any of
them (`Clauses.exists_mem_matchesIn_iff`).

An event may have many matches, as a person may be enrolled twice in one group, but it counts once.
So for counts the question is whether there is a match, and then matches of a larger query may serve
a smaller one: it is enough to forget what the smaller one does not look for.

Two things must be right for that. The links have to form a chain, in which every link finds the
record that it goes on from, as otherwise a record that is kept might have been found by way of one
that is forgotten. And the conditions have to be supported, which is to say that each of them reads
a slot that a link fills. A filter has both properties by the way its clauses are composed, and so
no theorem about answers has to mention them.
-/

namespace ActivityMetrics

namespace Match

/-- Two matches have the same record in a slot. The issue matters only for a change; a match of an
issue that is an event itself has no use for the slot. -/
def AgreeAt (m m' : Match) : Slot → Prop
  | .issue => ∀ c, m.record = .change c → m.issue = m'.issue
  | .place => m.place = m'.place
  | .identity => m.identity = m'.identity
  | .enrollment kind => m.enrollment kind = m'.enrollment kind
  | .group kind => m.group kind = m'.group kind

variable {m m' : Match}

/-- The issue does not matter to an event that is no change. -/
theorem agreeAt_issue_of_not_change (h : ∀ c, m.record ≠ .change c) : m.AgreeAt m' .issue :=
  fun c change => absurd change (h c)

/-- Matches of one event that agree in the issue are in one repository. -/
theorem repository_congr (record : m.record = m'.record) (issue : m.AgreeAt m' .issue) :
    m.repository = m'.repository := by
  unfold repository
  rw [← record]
  split
  · rfl
  · rfl
  · rename_i c change
    rw [issue c change]

/-- The match with the records of some slots only. -/
def keep (m : Match) (slots : List Slot) : Match where
  record := m.record
  issue := if .issue ∈ slots then m.issue else none
  place := if .place ∈ slots then m.place else none
  identity := if .identity ∈ slots then m.identity else none
  enrollment := fun kind => if .enrollment kind ∈ slots then m.enrollment kind else none
  group := fun kind => if .group kind ∈ slots then m.group kind else none

/-- A slot that is kept has the same record. -/
theorem agreeAt_keep {slots : List Slot} {s : Slot} (h : s ∈ slots) (m : Match) :
    m.AgreeAt (m.keep slots) s := by
  cases s with
  | issue => exact fun _ _ => (if_pos h).symm
  | place | identity | enrollment kind | group kind => exact (if_pos h).symm

/-- No other slot has a record. -/
theorem within_keep (m : Match) (slots : List Slot) : (m.keep slots).Within slots := by
  have kept : ∀ {α : Type} {p : Prop} [Decidable p] {o : Option α},
      (if p then o else none).isSome → p := by
    intro α p _ o filled
    split at filled
    · assumption
    · cases filled
  intro s filled
  cases s <;> exact kept filled

end Match

variable {w : Warehouse} {e : Event} {m m' : Match}

/-- **A link holds of every match with the records that it reads.** -/
theorem Link.holds_congr {l : Link} (record : m.record = m'.record) (own : m.AgreeAt m' l.slot)
    (read : ∀ s, l.needs = some s → m.AgreeAt m' s) : l.Holds w e m ↔ l.Holds w e m' := by
  cases l with
  | issue =>
    simp only [Holds, ← record]
    cases change : m.record with
    | change c => rw [own c change]
    | commit c | issue i => simp only [Bool.false_eq_true, and_false]
  | repository source =>
    have place : m.place = m'.place := own
    simp only [Holds, place, Match.repository_congr record (read .issue rfl)]
  | identity =>
    have identity : m.identity = m'.identity := own
    simp only [Holds, identity, record]
  | enrollment kind =>
    have enrollment : m.enrollment kind = m'.enrollment kind := own
    have identity : m.identity = m'.identity := read .identity rfl
    simp only [Holds, enrollment, identity, record]
  | group kind =>
    have group : m.group kind = m'.group kind := own
    have enrollment : m.enrollment kind = m'.enrollment kind := read (.enrollment kind) rfl
    simp only [Holds, group, enrollment]

/-- A link is there when its slot is filled, unless the slot is that of the repository. -/
theorem Link.mem_of_slot_mem {ls : List Link} {l : Link} (h : l.slot ∈ ls.map slot)
    (other : l.slot ≠ .place) : l ∈ ls := by
  obtain ⟨l', hl', same⟩ := List.mem_map.1 h
  have : l' = l := by
    cases l' <;> cases l <;> cases same <;> first
      | rfl
      | exact absurd rfl other
  exact this ▸ hl'

namespace Condition

/-- The slot that a condition reads. -/
def reads : Condition → Option Slot
  | .repositoryIs _ _ => some .place
  | .personIs _ => some .identity
  | .memberOf kind _ => some (.group kind)
  | .inProjects _ _ => some .issue
  | .notBy _ | .notFrom _ | .closes _ => none

/-- **A condition holds of every match with the record that it reads.** -/
theorem holds_congr {c : Condition} (record : m.record = m'.record)
    (read : ∀ s, c.reads = some s → m.AgreeAt m' s) : c.holds w e m = c.holds w e m' := by
  cases c with
  | repositoryIs source name =>
    have place : m.place = m'.place := read .place rfl
    rw [holds, holds, place]
  | personIs uuid =>
    have identity : m.identity = m'.identity := read .identity rfl
    rw [holds, holds, identity]
  | memberOf kind name =>
    have group : m.group kind = m'.group kind := read (.group kind) rfl
    rw [holds, holds, group]
  | inProjects source projects =>
    rw [holds, holds, Match.repository_congr record (read .issue rfl)]
  | notBy uuids | notFrom names | closes condition => rw [holds, holds, record]

end Condition

namespace Clauses

variable {cs : Clauses}

/-- Every condition finds what it reads in the records that links lead to, or in the issue. A
condition that did not would compare nothing, and hold of no event. -/
def Supported (cs : Clauses) : Prop :=
  ∀ c ∈ cs.predicates, ∀ s, c.reads = some s → s = .issue ∨ s ∈ cs.joins.map Link.slot

/-- What holds of a match holds of every match that agrees where the links lead, and in the
issue. -/
theorem holds_of_agree {source : Source} (chain : Link.Chain source cs.joins)
    (supported : cs.Supported) (record : m.record = m'.record) (issue : m.AgreeAt m' .issue)
    (agree : ∀ s ∈ cs.joins.map Link.slot, m.AgreeAt m' s)
    (links : ∀ l ∈ cs.joins, l.Holds w e m) (conditions : ∀ c ∈ cs.predicates, c.holds w e m) :
    (∀ l ∈ cs.joins, l.Holds w e m') ∧ ∀ c ∈ cs.predicates, c.holds w e m' := by
  have read : ∀ s, s = .issue ∨ s ∈ cs.joins.map Link.slot → m.AgreeAt m' s := by
    rintro s (rfl | there)
    · exact issue
    · exact agree s there
  constructor
  · intro l hl
    have own := agree l.slot (List.mem_map.2 ⟨l, hl, rfl⟩)
    exact (Link.holds_congr record own fun s hs => read s (chain.supported hl hs)).1 (links l hl)
  · intro c hc
    rw [← Condition.holds_congr record fun s hs => read s (supported c hc s hs)]
    exact conditions c hc

/-- **What is left of a match where the links lead is a match**, if the links and conditions held
before. It may hold anything elsewhere. -/
theorem keep_mem_matchesIn {source : Source} (chain : Link.Chain source cs.joins)
    (supported : cs.Supported) (issue : Link.issue ∈ cs.joins ∨ ∀ c, .change c ∉ e.records w)
    {start stop : String}
    (window : m.record ∈ e.records w ∧ start ≤ m.record.date ∧ m.record.date < stop)
    (links : ∀ l ∈ cs.joins, l.Holds w e m) (conditions : ∀ c ∈ cs.predicates, c.holds w e m) :
    m.keep (cs.joins.map Link.slot) ∈ cs.matchesIn w e start stop := by
  have kept : m.AgreeAt (m.keep (cs.joins.map Link.slot)) .issue := by
    rcases issue with there | other
    · exact Match.agreeAt_keep (List.mem_map.2 ⟨Link.issue, there, rfl⟩) m
    · exact Match.agreeAt_issue_of_not_change fun c change => other c (change ▸ window.1)
  have agree := fun s (hs : s ∈ cs.joins.map Link.slot) => Match.agreeAt_keep hs m
  have record : m.record = (m.keep (cs.joins.map Link.slot)).record := rfl
  obtain ⟨links, conditions⟩ := holds_of_agree chain supported record kept agree links conditions
  exact (mem_matchesIn_iff chain).2 ⟨window, m.within_keep _, links, conditions⟩

/-- **An event has a match** exactly when it lies in the window and all links and conditions hold of
some records. The match on the right may come from anywhere, with records that no link leads to. -/
theorem exists_mem_matchesIn_iff {source : Source} (chain : Link.Chain source cs.joins)
    (supported : cs.Supported) (issue : Link.issue ∈ cs.joins ∨ ∀ c, .change c ∉ e.records w)
    {start stop : String} {r : EventRecord} :
    (∃ m ∈ cs.matchesIn w e start stop, m.record = r) ↔
      (r ∈ e.records w ∧ start ≤ r.date ∧ r.date < stop) ∧
        ∃ m : Match, m.record = r ∧ (∀ l ∈ cs.joins, l.Holds w e m) ∧
          ∀ c ∈ cs.predicates, c.holds w e m := by
  constructor
  · rintro ⟨m, hm, rfl⟩
    obtain ⟨window, _, links, conditions⟩ := (mem_matchesIn_iff chain).1 hm
    exact ⟨window, m, rfl, links, conditions⟩
  · rintro ⟨window, m, rfl, links, conditions⟩
    exact ⟨_, keep_mem_matchesIn chain supported issue window links conditions, rfl⟩

end Clauses

end ActivityMetrics
