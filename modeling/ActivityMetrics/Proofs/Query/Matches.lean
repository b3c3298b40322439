import ActivityMetrics.Proofs.Query.Fragments
import ActivityMetrics.Query.Matching
import Mathlib.Data.List.Basic

/-!
# Which matches there are

Links extend a match one after the other, and each may read what an earlier one has found. As long
as no link comes too late for another (`Link.Chain`), the order does not matter: a match of some
clauses is an event of the window on which every link and every condition holds, and which has no
record that no link leads to (`Clauses.mem_matchesIn_iff`). So the matches depend only on *which*
links and conditions there are.

This is the point at which a query stops being a procedure. Filters are given as lists, in the order
in which somebody asked for things, and a query goes through tables in that order. From here on its
matches are described by what they are, and whatever is said about reordering a filter, restricting
it or splitting it into parts is said about conditions on a match.

The last clause of the description is needed. A match has a slot for each record that a link may
find, and without it a match could hold a record that nothing has asked for, and the same event
would be counted twice.
-/

namespace ActivityMetrics

/-! ## Records of a match

A match has a record for the event and at most one in each other slot. Slots are cleared and
compared one at a time, so a few laws for one slot are enough for all that is done with matches. -/

attribute [ext] Match

/-- A place of a match for a record. Every link fills one slot, and links of one kind fill the
same. -/
inductive Slot where
  /-- The issue of a change. -/
  | issue
  /-- The repository, or the tracker. -/
  | place
  /-- The link from the raw actor to the person. -/
  | identity
  /-- A membership. -/
  | enrollment (kind : Affiliation)
  /-- The group of a membership. -/
  | group (kind : Affiliation)
deriving DecidableEq

namespace Match

/-- There is a record in a slot. -/
def filled (m : Match) : Slot → Bool
  | .issue => m.issue.isSome
  | .place => m.place.isSome
  | .identity => m.identity.isSome
  | .enrollment kind => (m.enrollment kind).isSome
  | .group kind => (m.group kind).isSome

/-- The match without the record in a slot. -/
def clear (m : Match) : Slot → Match
  | .issue => { m with issue := none }
  | .place => { m with place := none }
  | .identity => { m with identity := none }
  | .enrollment kind => { m with enrollment := Affiliation.update m.enrollment kind none }
  | .group kind => { m with group := Affiliation.update m.group kind none }

/-- The event of a match cannot be cleared. -/
@[simp]
theorem record_clear (m : Match) (s : Slot) : (m.clear s).record = m.record := by
  cases s <;> rfl

end Match

theorem Affiliation.update_self {α : Type} (f : Affiliation → α) (kind : Affiliation) :
    update f kind (f kind) = f := by
  funext k
  unfold update
  split
  · rename_i h
    rw [h]
  · rfl

theorem Affiliation.update_update {α : Type} (f : Affiliation → α) (kind : Affiliation) (a b : α) :
    update (update f kind a) kind b = update f kind b := by
  funext k
  unfold update
  split <;> rfl

theorem Affiliation.update_other {α : Type} (f : Affiliation → α) {kind k : Affiliation} (a : α)
    (h : kind ≠ k) : update f k a kind = f kind :=
  if_neg h

theorem Affiliation.update_same {α : Type} (f : Affiliation → α) (kind : Affiliation) (a : α) :
    update f kind a kind = a :=
  if_pos rfl

namespace Match

/-- A cleared slot is empty, and the others are as they were. -/
theorem filled_clear (m : Match) (s s' : Slot) :
    (m.clear s).filled s' = (decide (s' ≠ s) && m.filled s') := by
  cases s <;> cases s' <;> simp [clear, filled, Affiliation.update]
  all_goals split <;> simp_all

/-- To clear an empty slot changes nothing. -/
theorem clear_eq_self {m : Match} {s : Slot} (h : m.filled s = false) : m.clear s = m := by
  cases s with
  | enrollment kind =>
    have empty : m.enrollment kind = none := Option.not_isSome_iff_eq_none.1 (Bool.eq_false_iff.1 h)
    rw [clear, ← empty, Affiliation.update_self]
  | group kind =>
    have empty : m.group kind = none := Option.not_isSome_iff_eq_none.1 (Bool.eq_false_iff.1 h)
    rw [clear, ← empty, Affiliation.update_self]
  | issue | place | identity =>
    obtain ⟨record, issue, place, identity, enrollment, group⟩ := m
    simp only [filled, Option.isSome_eq_false_iff, Option.isNone_iff_eq_none] at h
    subst h
    rfl

/-- A match without further records is its event. -/
theorem eq_of_empty {m : Match} (h : ∀ s, m.filled s = false) : { record := m.record } = m := by
  have absent : ∀ {α : Type} {o : Option α}, o.isSome = false → none = o := by
    intro α o h
    exact (Option.not_isSome_iff_eq_none.1 (Bool.eq_false_iff.1 h)).symm
  refine Match.ext rfl (absent (h .issue)) (absent (h .place)) (absent (h .identity)) ?_ ?_
  · funext kind
    exact absent (h (.enrollment kind))
  · funext kind
    exact absent (h (.group kind))

/-- Every record of a match is in one of some slots, so that nothing else was found. -/
def Within (m : Match) (ss : List Slot) : Prop :=
  ∀ s, m.filled s → s ∈ ss

/-- A match has records in some slots and one more if it has them in the former once the latter is
cleared. -/
theorem within_clear_iff {m : Match} {ss : List Slot} {s : Slot} :
    (m.clear s).Within ss ↔ m.Within (ss ++ [s]) := by
  unfold Within
  constructor
  · intro h s' filled
    by_cases same : s' = s
    · rw [same]
      exact List.mem_append_right _ (List.mem_singleton.2 rfl)
    · refine List.mem_append_left _ (h s' ?_)
      rw [filled_clear, filled, decide_eq_true same]
      rfl
  · intro h s' filled
    rw [filled_clear, Bool.and_eq_true, decide_eq_true_eq] at filled
    rcases List.mem_append.1 (h s' filled.2) with there | here
    · exact there
    · exact absurd (List.mem_singleton.1 here) filled.1

end Match

/-! ## Links

A link fills its slot from those that are filled already. Which these are depends on the link, and a
chain of links is one in which they come before it. -/

namespace Link

/-- The slot that a link fills. -/
def slot : Link → Slot
  | .issue => .issue
  | .repository _ => .place
  | .identity => .identity
  | .enrollment kind => .enrollment kind
  | .group kind => .group kind

/-- The slot that a link reads beside its own, and that another link may fill. A repository is read
from the issue of a change, if there is one, and from the event otherwise. -/
def needs : Link → Option Slot
  | .issue | .identity => none
  | .repository _ => some .issue
  | .enrollment _ => some .identity
  | .group kind => some (.enrollment kind)

/-- The record of a link belongs to the match. What is found by a search in the query is stated here
as a property, of the match as a whole. -/
def Holds (w : Warehouse) (e : Event) (l : Link) (m : Match) : Prop :=
  match l with
  | .issue => ∃ i ∈ w.issues, m.issue = some i ∧
      (match m.record with
      | .change c => i.id == c.issue
      | _ => false) = true
  | .repository source => ∃ p ∈ w.places source, m.place = some p ∧ m.repository = some p.id
  | .identity => ∃ i ∈ w.identities, m.identity = some i ∧ e.actorOf m.record = some i.id
  | .enrollment kind => ∃ n ∈ w.enrollments, m.enrollment kind = some n ∧
      m.identity.map (·.uuid) = some n.uuid ∧ n.kind = kind ∧ n.covers m.record.date
  | .group kind => ∃ g ∈ w.entities kind, m.group kind = some g ∧
      (m.enrollment kind).map (·.target) = some g.id

variable {w : Warehouse} {e : Event} {l : Link} {m m₀ : Match} {s : Slot}

/-- A link that holds has its slot filled. -/
theorem Holds.filled (h : l.Holds w e m) : m.filled l.slot := by
  cases l <;> obtain ⟨_, _, record, _⟩ := h <;> exact Option.isSome_iff_exists.2 ⟨_, record⟩

/-- A link does not see the slots that it does not read. So what a later link adds does not make an
earlier one fail. -/
theorem holds_clear_iff (other : s ≠ l.slot) (unread : l.needs ≠ some s) :
    l.Holds w e (m.clear s) ↔ l.Holds w e m := by
  cases l with
  -- a link reads its own slot and the one that it needs, and neither is the one that is cleared
  | issue | identity =>
    cases s <;> first
      | rfl
      | exact absurd rfl other
  | repository source =>
    cases s <;> first
      | rfl
      | exact absurd rfl other
      | exact absurd rfl unread
  | enrollment kind =>
    cases s with
    | enrollment k =>
      have different : kind ≠ k := fun h => other (congrArg Slot.enrollment h.symm)
      simp only [Holds, Match.clear, Affiliation.update_other _ _ different]
    | identity => exact absurd rfl unread
    | issue | place | group k => rfl
  | group kind =>
    cases s with
    | group k =>
      have different : kind ≠ k := fun h => other (congrArg Slot.group h.symm)
      simp only [Holds, Match.clear, Affiliation.update_other _ _ different]
    | enrollment k =>
      have different : kind ≠ k := fun h => unread (congrArg (some ∘ Slot.enrollment) h)
      simp only [Holds, Match.clear, Affiliation.update_other _ _ different]
    | issue | place | identity => rfl

/-- **What a link adds to a match without its record**: the record, and nothing else. The search is
unfolded here, once for each kind of link. -/
theorem mem_extend_iff (empty : m₀.filled l.slot = false) :
    m ∈ l.extend w e m₀ ↔ l.Holds w e m ∧ m.clear l.slot = m₀ := by
  have unchanged := Match.clear_eq_self empty
  cases l with
  -- a record that is put into an empty slot is gone when the slot is cleared
  | issue =>
    simp only [extend, List.mem_map, List.mem_filter]
    constructor
    · rintro ⟨i, ⟨known, tied⟩, rfl⟩
      exact ⟨⟨i, known, rfl, tied⟩, unchanged⟩
    · rintro ⟨⟨i, known, record, tied⟩, rfl⟩
      exact ⟨i, ⟨known, tied⟩, Match.ext rfl record.symm rfl rfl rfl rfl⟩
  | repository source =>
    simp only [extend, List.mem_map, List.mem_filter, beq_iff_eq]
    constructor
    · rintro ⟨p, ⟨known, tied⟩, rfl⟩
      exact ⟨⟨p, known, rfl, tied⟩, unchanged⟩
    · rintro ⟨⟨p, known, record, tied⟩, rfl⟩
      exact ⟨p, ⟨known, tied⟩, Match.ext rfl rfl record.symm rfl rfl rfl⟩
  | identity =>
    simp only [extend, List.mem_map, List.mem_filter, beq_iff_eq]
    constructor
    · rintro ⟨i, ⟨known, tied⟩, rfl⟩
      exact ⟨⟨i, known, rfl, tied⟩, unchanged⟩
    · rintro ⟨⟨i, known, record, tied⟩, rfl⟩
      exact ⟨i, ⟨known, tied⟩, Match.ext rfl rfl rfl record.symm rfl rfl⟩
  -- there is a slot for each kind of group, so filling and clearing are updates of a function
  | enrollment kind =>
    simp only [extend, List.mem_map, List.mem_filter, Bool.and_eq_true, beq_iff_eq]
    constructor
    · rintro ⟨n, ⟨known, ⟨person, of_kind⟩, covers⟩, rfl⟩
      refine ⟨⟨n, known, Affiliation.update_same _ _ _, person, of_kind, covers⟩, ?_⟩
      rw [← unchanged, slot, Match.clear, Match.clear]
      dsimp only
      rw [Affiliation.update_update, Affiliation.update_update]
    · rintro ⟨⟨n, known, record, person, of_kind, covers⟩, rfl⟩
      refine ⟨n, ⟨known, ⟨person, of_kind⟩, covers⟩, Match.ext rfl rfl rfl rfl ?_ rfl⟩
      dsimp only [slot, Match.clear]
      rw [Affiliation.update_update, ← record, Affiliation.update_self]
  | group kind =>
    simp only [extend, List.mem_map, List.mem_filter, beq_iff_eq]
    constructor
    · rintro ⟨g, ⟨known, tied⟩, rfl⟩
      refine ⟨⟨g, known, Affiliation.update_same _ _ _, tied⟩, ?_⟩
      rw [← unchanged, slot, Match.clear, Match.clear]
      dsimp only
      rw [Affiliation.update_update, Affiliation.update_update]
    · rintro ⟨⟨g, known, record, tied⟩, rfl⟩
      refine ⟨g, ⟨known, tied⟩, Match.ext rfl rfl rfl rfl rfl ?_⟩
      dsimp only [slot, Match.clear]
      rw [Affiliation.update_update, ← record, Affiliation.update_self]

/-- A list of links in which none comes too late: each is new, belongs to the source, and finds in
place what it reads. The issue stands first, if it occurs, because a repository may be read without
it and would be another one then. -/
inductive Chain (source : Source) : List Link → Prop where
  /-- No link. -/
  | nil : Chain source []
  /-- One more link. -/
  | snoc {ls : List Link} {l : Link} (chain : Chain source ls) (new : l ∉ ls)
    (of_source : ∀ s, l = .repository s → s = source) (first : l = .issue → ls = [])
    (supported : ∀ s, l.needs = some s → s = .issue ∨ s ∈ ls.map slot) : Chain source (ls ++ [l])

namespace Chain

variable {source : Source} {ls : List Link}

/-- A chain joins repositories of one source only. -/
theorem of_source (h : Chain source ls) {s : Source} (hs : .repository s ∈ ls) : s = source := by
  induction h with
  | nil => cases hs
  | snoc _ _ of_source _ _ ih =>
    rcases List.mem_append.1 hs with hs | hs
    · exact ih hs
    · exact of_source s (List.mem_singleton.1 hs).symm

/-- What a link reads is there. -/
theorem supported (h : Chain source ls) {l : Link} (hl : l ∈ ls) {s : Slot}
    (hs : l.needs = some s) : s = .issue ∨ s ∈ ls.map slot := by
  induction h with
  | nil => cases hl
  | snoc _ _ _ _ supported ih =>
    rw [List.map_append]
    rcases List.mem_append.1 hl with hl | hl
    · exact (ih hl).imp_right (List.mem_append_left _)
    · rw [List.mem_singleton.1 hl] at hs
      exact (supported s hs).imp_right (List.mem_append_left _)

/-- A new link fills a slot of its own. -/
theorem slot_not_mem (h : Chain source ls) {l : Link} (new : l ∉ ls)
    (of_source : ∀ s, l = .repository s → s = source) : l.slot ∉ ls.map slot := by
  intro taken
  obtain ⟨l', hl', same⟩ := List.mem_map.1 taken
  refine new ?_
  -- only links to repositories share a slot, and these are of one source
  have : l' = l := by
    cases l' <;> cases l <;> cases same <;> first
      | rfl
      | rw [h.of_source hl', of_source _ rfl]
  exact this ▸ hl'

end Chain

/-- The matches that links lead to from events. -/
def follow (w : Warehouse) (e : Event) (ls : List Link) (ms : List Match) : List Match :=
  ls.foldl (fun ms l => ms.flatMap (l.extend w e)) ms

/-- The last link is followed from where the others have led. -/
theorem follow_append_singleton (w : Warehouse) (e : Event) (ls : List Link) (l : Link)
    (ms : List Match) :
    follow w e (ls ++ [l]) ms = (follow w e ls ms).flatMap (l.extend w e) := by
  rw [follow, List.foldl_append]
  rfl

/-- A link does not change the event. -/
theorem record_of_mem_extend {w : Warehouse} {e : Event} {l : Link} {m m₀ : Match}
    (h : m ∈ l.extend w e m₀) : m.record = m₀.record := by
  cases l <;> obtain ⟨_, _, rfl⟩ := List.mem_map.1 h <;> rfl

/-- Links are followed from a match to others of the same event. -/
theorem exists_of_mem_follow {w : Warehouse} {e : Event} {ls : List Link} {ms : List Match}
    {m : Match} (h : m ∈ follow w e ls ms) : ∃ m₀ ∈ ms, m.record = m₀.record := by
  induction ls generalizing ms with
  | nil => exact ⟨m, h, rfl⟩
  | cons l ls ih =>
    obtain ⟨m₁, hm₁, same⟩ := ih h
    obtain ⟨m₀, hm₀, added⟩ := List.mem_flatMap.1 hm₁
    exact ⟨m₀, hm₀, same.trans (record_of_mem_extend added)⟩

/-- Links lead from matches that are replaced to matches that are, if each of them does. -/
theorem follow_map {w w' : Warehouse} {e : Event} {g : Match → Match} {known : EventRecord → Prop}
    {ls : List Link} {ms : List Match} (hms : ∀ m ∈ ms, known m.record)
    (hls : ∀ l ∈ ls, ∀ m : Match, known m.record →
      l.extend w' e (g m) = (l.extend w e m).map g) :
    follow w' e ls (ms.map g) = (follow w e ls ms).map g := by
  induction ls generalizing ms with
  | nil => rfl
  | cons l ls ih =>
    have step : (ms.map g).flatMap (l.extend w' e) = (ms.flatMap (l.extend w e)).map g := by
      rw [List.flatMap_map, List.map_flatMap]
      exact List.flatMap_congr fun m hm => hls l List.mem_cons_self m (hms m hm)
    have kept : ∀ m ∈ ms.flatMap (l.extend w e), known m.record := by
      intro m hm
      obtain ⟨m₀, hm₀, added⟩ := List.mem_flatMap.1 hm
      rw [record_of_mem_extend added]
      exact hms m₀ hm₀
    show follow w' e ls ((ms.map g).flatMap (l.extend w' e)) = _
    rw [step, ih kept fun l hl => hls l (List.mem_cons_of_mem _ hl)]
    rfl

/-- **Where a chain of links leads**: every link holds, and there are no other records. The
induction is on the chain from its end. The last link adds its record to a match of those before,
and as none of them reads it, they hold as they did. -/
theorem mem_follow_iff {source : Source} {ls : List Link} (h : Chain source ls)
    {rs : List EventRecord} {m : Match} :
    m ∈ follow w e ls (rs.map fun r => { record := r }) ↔
      m.record ∈ rs ∧ m.Within (ls.map slot) ∧ ∀ l ∈ ls, l.Holds w e m := by
  induction h generalizing m with
  | nil =>
    rw [follow, List.foldl_nil, List.mem_map]
    constructor
    · rintro ⟨r, hr, rfl⟩
      refine ⟨hr, ?_, fun l hl => absurd hl List.not_mem_nil⟩
      intro s filled
      cases s <;> cases filled
    · rintro ⟨hr, within, -⟩
      have empty : ∀ s, m.filled s = false := fun s =>
        Bool.eq_false_iff.2 fun filled => absurd (within s filled) List.not_mem_nil
      exact ⟨m.record, hr, Match.eq_of_empty empty⟩
  | @snoc ls l chain new of_source first supported ih =>
    have fresh := chain.slot_not_mem new of_source
    -- a match of the links before has no record in the slot of this one
    have step : m ∈ follow w e (ls ++ [l]) (rs.map fun r => { record := r }) ↔
        l.Holds w e m ∧ m.clear l.slot ∈ follow w e ls (rs.map fun r => { record := r }) := by
      rw [follow_append_singleton, List.mem_flatMap]
      constructor
      · rintro ⟨m₀, hm₀, added⟩
        have empty : m₀.filled l.slot = false :=
          Bool.eq_false_iff.2 fun filled => fresh ((ih.1 hm₀).2.1 _ filled)
        obtain ⟨holds, rfl⟩ := (mem_extend_iff empty).1 added
        exact ⟨holds, hm₀⟩
      · rintro ⟨holds, hm₀⟩
        refine ⟨m.clear l.slot, hm₀, (mem_extend_iff ?_).2 ⟨holds, rfl⟩⟩
        rw [Match.filled_clear, decide_eq_false (not_not_intro rfl), Bool.false_and]
    -- and none of these links reads it
    have before : ∀ l' ∈ ls, (l'.Holds w e (m.clear l.slot) ↔ l'.Holds w e m) := by
      intro l' hl'
      refine holds_clear_iff ?_ ?_
      · exact fun same => fresh (List.mem_map.2 ⟨l', hl', same.symm⟩)
      · intro reads
        rcases chain.supported hl' reads with issue | there
        · have : l = .issue := by
            cases l <;> first
              | rfl
              | cases issue
          rw [first this] at hl'
          cases hl'
        · exact fresh there
    rw [step, ih, Match.record_clear, Match.within_clear_iff, List.map_append]
    constructor
    · rintro ⟨holds, hr, within, rest⟩
      refine ⟨hr, within, fun l' hl' => ?_⟩
      rcases List.mem_append.1 hl' with hl' | hl'
      · exact (before l' hl').1 (rest l' hl')
      · rw [List.mem_singleton.1 hl']
        exact holds
    · rintro ⟨hr, within, holds⟩
      refine ⟨holds l (List.mem_append_right _ (List.mem_singleton.2 rfl)), hr, within,
        fun l' hl' => ?_⟩
      exact (before l' hl').2 (holds l' (List.mem_append_left _ hl'))

end Link

/-- **The matches over another warehouse are those over this one, each of them replaced**, if the
events, what the links lead to and what the conditions keep are replaced. The order of the matches
is kept, so answers that depend on it are covered. -/
theorem Clauses.matchesIn_map {w w' : Warehouse} {e : Event} {cs : Clauses} {g : Match → Match}
    {start stop : String} (events : eventsIn w' e start stop = (eventsIn w e start stop).map g)
    (links : ∀ l ∈ cs.joins, ∀ m : Match, m.record ∈ e.records w →
      l.extend w' e (g m) = (l.extend w e m).map g)
    (conditions : ∀ p ∈ cs.predicates, ∀ m : Match, m.record ∈ e.records w →
      p.holds w' e (g m) = p.holds w e m) :
    cs.matchesIn w' e start stop = (cs.matchesIn w e start stop).map g := by
  have known : ∀ m ∈ eventsIn w e start stop, m.record ∈ e.records w := by
    intro m hm
    obtain ⟨r, hr, rfl⟩ := List.mem_map.1 hm
    exact (List.mem_filter.1 hr).1
  show List.filter _ (Link.follow w' e cs.joins _)
    = (List.filter _ (Link.follow w e cs.joins _)).map _
  rw [events, Link.follow_map known links, List.filter_map]
  refine congrArg _ (List.filter_congr fun m hm => ?_)
  obtain ⟨m₀, hm₀, same⟩ := Link.exists_of_mem_follow hm
  have there : m.record ∈ e.records w := same ▸ known m₀ hm₀
  rw [Function.comp_apply, Bool.eq_iff_iff, List.all_eq_true, List.all_eq_true]
  exact forall₂_congr fun p hp => by rw [conditions p hp m there]

/-- **The matches of clauses whose links form a chain.** The right side has no order left in it. -/
theorem Clauses.mem_matchesIn_iff {w : Warehouse} {e : Event} {cs : Clauses} {source : Source}
    (h : Link.Chain source cs.joins) {start stop : String} {m : Match} :
    m ∈ cs.matchesIn w e start stop ↔
      (m.record ∈ e.records w ∧ start ≤ m.record.date ∧ m.record.date < stop) ∧
        m.Within (cs.joins.map Link.slot) ∧ (∀ l ∈ cs.joins, l.Holds w e m) ∧
          ∀ c ∈ cs.predicates, c.holds w e m := by
  have links : m ∈ Link.follow w e cs.joins (eventsIn w e start stop) ↔ _ := Link.mem_follow_iff h
  rw [List.mem_filter, Bool.and_eq_true, decide_eq_true_eq, decide_eq_true_eq] at links
  rw [matchesIn, List.mem_filter, List.all_eq_true]
  show m ∈ Link.follow w e cs.joins _ ∧ _ ↔ _
  rw [links]
  simp only [and_assoc]

/-- **Matches depend only on which links and conditions there are**, not on their order. -/
theorem Clauses.mem_matchesIn_congr {w : Warehouse} {e : Event} {cs cs' : Clauses}
    {source : Source} (h : Link.Chain source cs.joins) (h' : Link.Chain source cs'.joins)
    (joins : ∀ l, l ∈ cs'.joins ↔ l ∈ cs.joins)
    (predicates : ∀ c, c ∈ cs'.predicates ↔ c ∈ cs.predicates) {start stop : String} {m : Match} :
    m ∈ cs'.matchesIn w e start stop ↔ m ∈ cs.matchesIn w e start stop := by
  have slots : m.Within (cs'.joins.map Link.slot) ↔ m.Within (cs.joins.map Link.slot) := by
    simp only [Match.Within, List.mem_map, joins]
  rw [mem_matchesIn_iff h, mem_matchesIn_iff h', slots]
  simp only [joins, predicates]

/-- **One more condition keeps the matches on which it holds**, in whatever order the links and
conditions stand. -/
theorem Clauses.mem_matchesIn_iff_of_restricted {w : Warehouse} {e : Event} {cs cs' : Clauses}
    {source : Source} {p : Condition} (h : Link.Chain source cs.joins)
    (h' : Link.Chain source cs'.joins) (joins : ∀ l, l ∈ cs'.joins ↔ l ∈ cs.joins)
    (predicates : ∀ c, c ∈ cs'.predicates ↔ c = p ∨ c ∈ cs.predicates) {start stop : String}
    {m : Match} :
    m ∈ cs'.matchesIn w e start stop ↔ m ∈ cs.matchesIn w e start stop ∧ p.holds w e m := by
  have slots : m.Within (cs'.joins.map Link.slot) ↔ m.Within (cs.joins.map Link.slot) := by
    simp only [Match.Within, List.mem_map, joins]
  rw [mem_matchesIn_iff h, mem_matchesIn_iff h', slots]
  simp only [joins, predicates, forall_eq_or_imp]
  constructor
  · rintro ⟨window, within, links, holds, rest⟩
    exact ⟨⟨window, within, links, rest⟩, holds⟩
  · rintro ⟨⟨window, within, links, rest⟩, holds⟩
    exact ⟨window, within, links, holds, rest⟩

end ActivityMetrics
