import ActivityMetrics.Proofs.Metric.Memberships
import ActivityMetrics.Proofs.Metric.Exclusion

/-!
# Commits in any order

Commits are numbered in the order in which they are loaded. No answer shows the order, and a number
is only counted: it tells the commit apart from all others, and any other number of its own would do
as well. So two warehouses whose commits differ in nothing but numbers and order answer every
question alike (`Warehouse.SameCommits.answersAlike`).

The two warehouses are not one the permutation of the other. Loaded in another order, a commit has
another number, and so the records of the two are different records. They are made comparable in two
steps. The commits of the first are replaced, each by the commit of the second that says the same,
which leaves the matches of a query what they were, one for one and in the same order
(`Clauses.matchesIn_recommit`). Then the replaced commits are permuted, which may reorder the
matches but does not change which there are (`Warehouse.sameReadings_of_perm`). A number of distinct
commits survives the first step because numbers tell commits apart on both sides, and everything
that is read of the matches survives the second.

Whether a commit can be added depends on the repositories and the linked actors, which commits do
not change. Commits may therefore be loaded in any order: the same ones are added, and all answers
are the same (`Warehouse.answersAlike_of_perm`). Of other records this is not true. A repository
must be there before its commits, and of two descriptions of one person the later one is kept.
-/

namespace ActivityMetrics

/-- A commit that has no number yet. It is what a client knows about a commit before it is
stored. -/
structure NewCommit where
  /-- The revision. -/
  rev : String
  /-- The number of the repository. -/
  repository : Int
  /-- The raw actor who wrote the change. -/
  author : Option Int
  /-- The raw actor who recorded it. -/
  committer : Option Int
  /-- When it was recorded. -/
  date : String
deriving DecidableEq

/-- The operation that adds a commit. -/
def NewCommit.step (c : NewCommit) : LoadStep :=
  .insertCommit c.rev c.repository c.author c.committer c.date

/-- The commit under a number. -/
def NewCommit.numbered (c : NewCommit) (id : Int) : Commit :=
  ⟨id, c.rev, c.repository, c.author, c.committer, c.date⟩

/-- A commit without its number. Two commits that say the same have the same content. -/
def Commit.content (c : Commit) : NewCommit :=
  ⟨c.rev, c.repository, c.author, c.committer, c.date⟩

/-! ## Other commits in their place

Every commit is replaced by another with the same content. A query reads the date, the repository
and the actors of a commit, which belong to its content, and so it proceeds as before. -/

/-- The event with its commit replaced. Events of issues have none. -/
def EventRecord.recommit (g : Commit → Commit) : EventRecord → EventRecord
  | .commit c => .commit (g c)
  | .issue i => .issue i
  | .change c => .change c

/-- The match with its commit replaced. -/
def Match.recommit (g : Commit → Commit) (m : Match) : Match :=
  { m with record := m.record.recommit g }

section

variable {g : Commit → Commit} {w : Warehouse} {e : Event} {m : Match}

/-- The commits with each of them replaced. -/
def Warehouse.recommit (w : Warehouse) (g : Commit → Commit) : Warehouse :=
  { w with commits := w.commits.map g }

/-- A commit of the same content has the same date. -/
theorem EventRecord.date_recommit (keeps : ∀ c, (g c).content = c.content) (r : EventRecord) :
    (r.recommit g).date = r.date := by
  cases r with
  | commit c => exact congrArg NewCommit.date (keeps c)
  | issue i | change c => rfl

/-- A commit of the same content has the same raw actors, whichever of the two an event counts
by. -/
theorem Event.actorOf_recommit (keeps : ∀ c, (g c).content = c.content) (e : Event)
    (r : EventRecord) : e.actorOf (r.recommit g) = e.actorOf r := by
  cases r with
  | commit c =>
    cases e with
    | commitsByCommitter => exact congrArg NewCommit.committer (keeps c)
    | commits | issues | changes => exact congrArg NewCommit.author (keeps c)
  | issue i | change c => rfl

/-- A commit of the same content is in the same repository. -/
theorem Match.repository_recommit (keeps : ∀ c, (g c).content = c.content) (m : Match) :
    (m.recommit g).repository = m.repository := by
  obtain ⟨record, issue, place, identity, enrollment, group⟩ := m
  cases record with
  | commit c => exact congrArg (fun c => some c.repository) (keeps c)
  | issue i | change c => rfl

/-- The events of a warehouse with its commits replaced are its events with their commits
replaced. -/
theorem Event.records_recommit (e : Event) (w : Warehouse) (g : Commit → Commit) :
    e.records (w.recommit g) = (e.records w).map (EventRecord.recommit g) := by
  cases e <;> simp [records, Warehouse.recommit, EventRecord.recommit, Function.comp_def]

/-- **A link leads to the same records**, whatever the number of the commit. This is checked link by
link: each of them goes by the date, the actor or the repository, and none by the number. -/
theorem Link.extend_recommit (keeps : ∀ c, (g c).content = c.content) (l : Link) (m : Match) :
    l.extend (w.recommit g) e (m.recommit g) = (l.extend w e m).map (Match.recommit g) := by
  have date := m.record.date_recommit keeps
  have actor := e.actorOf_recommit keeps m.record
  have repository := m.repository_recommit keeps
  cases l with
  | issue =>
    obtain ⟨record, issue, place, identity, enrollment, group⟩ := m
    simp only [extend, List.map_map]
    cases record <;> rfl
  | repository source =>
    simp only [extend, List.map_map, repository]
    cases source <;> rfl
  | identity =>
    simp only [extend, List.map_map]
    rw [show (m.recommit g).record = m.record.recommit g from rfl, actor]
    rfl
  | enrollment kind =>
    simp only [extend, List.map_map]
    rw [show (m.recommit g).record = m.record.recommit g from rfl, date]
    rfl
  | group kind =>
    simp only [extend, List.map_map]
    cases kind <;> rfl

/-- **A condition does not ask for the number of a commit.** As with the links, it goes by what
belongs to the content. -/
theorem Condition.holds_recommit (keeps : ∀ c, (g c).content = c.content) (p : Condition)
    (m : Match) : p.holds (w.recommit g) e (m.recommit g) = p.holds w e m := by
  have date := m.record.date_recommit keeps
  have actor := e.actorOf_recommit keeps m.record
  have repository := m.repository_recommit keeps
  cases p with
  | repositoryIs source name | personIs uuid | memberOf kind name => rfl
  | inProjects source projects =>
    simp only [holds, repository]
    rfl
  | notBy uuids =>
    simp only [holds]
    rw [show (m.recommit g).record = m.record.recommit g from rfl, actor]
    rfl
  | notFrom names =>
    simp only [holds]
    rw [show (m.recommit g).record = m.record.recommit g from rfl, actor, date]
    rfl
  | closes condition =>
    obtain ⟨record, issue, place, identity, enrollment, group⟩ := m
    cases record <;> rfl

/-- **The matches have their commits replaced**, in the same order. That the order is the same saves
an argument later: a result that depends on the order of matches is the same result. -/
theorem Clauses.matchesIn_recommit (keeps : ∀ c, (g c).content = c.content) (cs : Clauses)
    (start stop : String) :
    cs.matchesIn (w.recommit g) e start stop
      = (cs.matchesIn w e start stop).map (Match.recommit g) := by
  have events : eventsIn (w.recommit g) e start stop
      = (eventsIn w e start stop).map (Match.recommit g) := by
    simp only [eventsIn, e.records_recommit, List.filter_map, List.map_map, Function.comp_def,
      EventRecord.date_recommit keeps]
    rfl
  exact matchesIn_map events (fun l _ m _ => l.extend_recommit keeps m)
    fun p _ m _ => p.holds_recommit keeps m

end

/-! ## Counting commits by other numbers

There is one place where the number of a commit is read. Commits are counted by the different
numbers among the matches. -/

/-- The commit of an event is one of the warehouse. -/
theorem Event.mem_commits_of_mem_records {w : Warehouse} {e : Event} {r : Commit}
    (h : .commit r ∈ e.records w) : r ∈ w.commits := by
  cases e with
  | commits | commitsByCommitter => simpa [records] using h
  | issues | changes => simp [records] at h

/-- The commit of a match. Matches of issues and changes have none. -/
def Match.commit? (m : Match) : Option Commit :=
  match m.record with
  | .commit r => some r
  | .issue _ | .change _ => none

/-- Replacing commits replaces that of the match. -/
theorem Match.commit?_recommit (g : Commit → Commit) (m : Match) :
    (m.recommit g).commit? = m.commit?.map g := by
  obtain ⟨record, issue, place, identity, enrollment, group⟩ := m
  cases record <;> rfl

/-- What is counted of a commit is its number. -/
theorem Counted.valueOf_commit (m : Match) :
    valueOf .commit m = m.commit?.map fun r => .number r.id := by
  obtain ⟨record, issue, place, identity, enrollment, group⟩ := m
  cases record <;> rfl

/-- **Commits are as many under other numbers**, as long as these tell them apart, too. Both
numberings are one-to-one on the commits of the warehouse, so that there are as many different
numbers as commits in each case. -/
theorem Counted.count_recommit {g : Commit → Commit} {w : Warehouse}
    (keeps : ∀ c, (g c).content = c.content) (before : (w.commits.map (·.id)).Nodup)
    (after : (w.commits.map fun r => (g r).id).Nodup) (c : Counted) {part : List Match}
    (known : ∀ m ∈ part, ∀ r, m.commit? = some r → r ∈ w.commits) :
    c.count (part.map (Match.recommit g)) = c.count part := by
  unfold count
  rw [List.filterMap_map]
  cases c with
  | commit =>
    have own : part.filterMap (valueOf .commit)
        = (part.filterMap Match.commit?).map fun r => .number r.id := by
      rw [List.map_filterMap]
      exact List.filterMap_congr fun m _ => valueOf_commit m
    have numbers : part.filterMap (valueOf .commit ∘ Match.recommit g)
        = (part.filterMap Match.commit?).map fun r => .number (g r).id := by
      rw [List.map_filterMap]
      refine List.filterMap_congr fun m _ => ?_
      rw [Function.comp, valueOf_commit, m.commit?_recommit, Option.map_map]
      rfl
    have there : ∀ r ∈ part.filterMap Match.commit?, r ∈ w.commits := by
      intro r hr
      obtain ⟨m, hm, commit⟩ := List.mem_filterMap.1 hr
      exact known m hm r commit
    -- both counts are that of the different commits themselves
    rw [numbers, own, length_eraseDups_map, length_eraseDups_map]
    · intro r hr s hs same
      exact List.inj_on_of_nodup_map before (there r hr) (there s hs) (MatchValue.number.inj same)
    · intro r hr s hs same
      exact List.inj_on_of_nodup_map after (there r hr) (there s hs) (MatchValue.number.inj same)
  -- nothing else is counted by the number of a commit
  | repository | issue | changedIssue | person =>
    refine congrArg (fun l : List MatchValue => l.eraseDups.length)
      (List.filterMap_congr fun m _ => ?_)
    obtain ⟨record, issue, place, identity, enrollment, group⟩ := m
    cases record with
    | commit r =>
      have repository := congrArg (fun c => some (MatchValue.number c.repository)) (keeps r)
      first
        | exact repository
        | rfl
    | issue i | change r => rfl

/-! ## The same commits

Warehouses are compared that have the same commits under other numbers and in another order. Neither
of the two has to come from loading. -/

namespace Warehouse

variable {w w' : Warehouse}

/-- Two warehouses differ only in the numbers and in the order of their commits. This is said
through the contents, which are a permutation of one another. -/
structure SameCommits (w w' : Warehouse) : Prop where
  /-- All other records are the same. -/
  rest : ∃ commits, w' = { w with commits }
  /-- The commits are the same but for their numbers and their order. -/
  commits : (w'.commits.map Commit.content).Perm (w.commits.map Commit.content)

/-- The order of commits is not seen by a query. The same matches are found, perhaps in another
order and more than once, and this is all that an answer depends on. -/
theorem sameReadings_of_perm {commits commits' : List Commit} (perm : commits'.Perm commits)
    {q : Query} {source : Source} (chain : Link.Chain source q.clauses.joins) :
    SameReadings (q.matchesIn { w with commits }) (q.matchesIn { w with commits := commits' }) := by
  refine .of_mem_iff fun m => ?_
  have records : m.record ∈ q.event.records { w with commits := commits' } ↔
      m.record ∈ q.event.records { w with commits } := by
    cases q.event <;> simp only [Event.records, List.mem_map, perm.mem_iff]
  have links : ∀ l : Link, l.Holds { w with commits := commits' } q.event m ↔
      l.Holds { w with commits } q.event m := by
    intro l
    cases l with
    | repository source => cases source <;> exact Iff.rfl
    | group kind => cases kind <;> exact Iff.rfl
    | issue | identity | enrollment kind => exact Iff.rfl
  have conditions : ∀ p : Condition, p.holds { w with commits := commits' } q.event m
      = p.holds { w with commits } q.event m := by
    intro p
    cases p <;> rfl
  unfold Query.matchesIn
  rw [Clauses.mem_matchesIn_iff chain, Clauses.mem_matchesIn_iff chain, records]
  simp only [links, conditions]

/-- **A metric sees neither the order of commits nor their numbers.** It is run in the second
warehouse, in the first with its commits replaced, and in the first, with the same result. -/
theorem SameCommits.sameRuns (h : w.SameCommits w') (keyed : w.Keyed) (keyed' : w'.Keyed)
    (c : Count) : c.SameRuns w w' := by
  intro f group limit mode
  obtain ⟨commits, rfl⟩ := h.rest
  obtain ⟨g, perm, keeps⟩ :=
    exists_replacement_of_perm_map (List.Nodup.of_map _ keyed.commits) h.commits
  have after : (w.commits.map fun r => (g r).id).Nodup := by
    have numbers := (perm.map (·.id)).nodup_iff.1 keyed'.commits
    rwa [List.map_map] at numbers
  have children : { w with commits }.projectChildren = w.projectChildren := rfl
  rw [Count.query_congr children]
  generalize hq : ({ c.query w f group with limit } : Query) = q
  have chain : Link.Chain c.source q.clauses.joins := hq ▸ c.chain_query w f group
  have hides : q.Hides (q.matchesIn w) (Match.recommit g) := by
    refine ⟨fun key m => by cases key <;> rfl, fun m => ?_, fun part among => ?_⟩
    · exact congrArg q.period.bucketOfText (m.record.date_recommit keeps)
    · refine q.counted.count_recommit keeps keyed.commits after fun m hm r commit => ?_
      have known := ((Clauses.mem_matchesIn_iff chain).1 (among hm)).1.1
      obtain ⟨record, issue, place, identity, enrollment, group⟩ := m
      cases record <;> cases commit
      exact Event.mem_commits_of_mem_records known
  -- first the order, by which matches there are, then the numbers, one match at a time
  calc q.run { w with commits } mode
      = q.run (w.recommit g) mode := Query.run_congr (sameReadings_of_perm perm chain) mode
    _ = q.run w mode := hides.run (Clauses.matchesIn_recommit keeps _ _ _) mode

/-- **No answer shows the order of commits or their numbers.** The answers of metrics are made of
runs, and the other questions do not look at commits. -/
theorem SameCommits.answersAlike (h : w.SameCommits w') (keyed : w.Keyed) (keyed' : w'.Keyed) :
    w.AnswersAlike w' := by
  refine ⟨fun m => Metric.sameAnswers_of_runs fun c _ => h.sameRuns keyed keyed' c, ?_, ?_, ?_, ?_⟩
  all_goals obtain ⟨commits, rfl⟩ := h.rest
  · exact fun uuid kind t => by cases kind <;> rfl
  · exact fun _ _ => rfl
  · exact projectTree_congr rfl
  · rfl

/-! ## Loading commits

What is left is to see that loading commits in another order gives the same commits: the same ones
have to be accepted. -/

/-- The repository of a commit is known, and its actors are linked. This is what the database checks
of a commit that is added. -/
def admits (w : Warehouse) (c : NewCommit) : Bool :=
  w.repositories.any (·.id == c.repository) && w.hasActor c.author && w.hasActor c.committer

/-- Those commits of a list that are added when the list is loaded from left to right. Each is tried
against the warehouse that those before have left. -/
def accepted (w : Warehouse) : List NewCommit → List NewCommit
  | [] => []
  | c :: cs =>
    match c.step.perform w with
    | (.ok _, after) => c :: after.accepted cs
    | (.error _, after) => after.accepted cs

/-- Adding a commit gives it the next number, or fails and changes nothing. -/
theorem perform_step (w : Warehouse) (c : NewCommit) :
    c.step.perform w =
      if w.admits c then
        (.ok (some (nextId (w.commits.map (·.id)))),
          { w with commits := w.commits ++ [c.numbered (nextId (w.commits.map (·.id)))] })
      else (.error (.database .danglingReference), w) := by
  show LoadStep.perform.numbers (if w.admits c then _ else _) = _
  split <;> rfl

/-- Whether a commit is added does not depend on those before it. The condition is on repositories
and actors, and a commit adds neither. -/
theorem accepted_eq (w : Warehouse) (cs : List NewCommit) : w.accepted cs = cs.filter w.admits := by
  induction cs generalizing w with
  | nil => rfl
  | cons c cs ih =>
    rw [accepted, perform_step, List.filter_cons]
    by_cases known : w.admits c
    · rw [if_pos known, if_pos known]
      dsimp only
      rw [ih]
      rfl
    · rw [if_neg known, if_neg known]
      exact ih w

/-- To load commits adds those that are accepted, and nothing else. Their numbers are left open, as
they are all that the order changes. -/
theorem exists_load_steps (w : Warehouse) (cs : List NewCommit) :
    ∃ commits, w.load (cs.map NewCommit.step) = { w with commits } ∧
      commits.map Commit.content = w.commits.map Commit.content ++ w.accepted cs := by
  rw [accepted_eq]
  induction cs generalizing w with
  | nil => exact ⟨w.commits, rfl, (List.append_nil _).symm⟩
  | cons c cs ih =>
    show ∃ commits, (c.step.perform w).2.load (cs.map NewCommit.step) = _ ∧ _
    rw [perform_step, List.filter_cons]
    by_cases known : w.admits c
    · rw [if_pos known, if_pos known]
      dsimp only
      obtain ⟨commits, loaded, contents⟩ := ih { w with
        commits := w.commits ++ [c.numbered (nextId (w.commits.map (·.id)))] }
      refine ⟨commits, loaded, contents.trans ?_⟩
      rw [List.map_append, List.append_assoc]
      rfl
    · rw [if_neg known, if_neg known]
      exact ih w

/-- **Commits may be loaded in any order.** The same ones are added, and every question has the same
answer; in particular, every metric gives the same totals, breakdowns, series, lists and trends
under every filter.

Both parts are needed: alike answers alone would be had if in one order a commit were refused that
no question asks about. The warehouse is one that loading has built, which is where it comes from
that no two commits have the same number, before and after. -/
theorem answersAlike_of_perm (reachable : w.Reachable) {cs cs' : List NewCommit}
    (perm : cs'.Perm cs) :
    (w.accepted cs').Perm (w.accepted cs) ∧
    (w.load (cs.map NewCommit.step)).AnswersAlike (w.load (cs'.map NewCommit.step)) := by
  have same : (w.accepted cs').Perm (w.accepted cs) := by
    rw [accepted_eq, accepted_eq]
    exact perm.filter _
  obtain ⟨commits, loaded, contents⟩ := w.exists_load_steps cs
  obtain ⟨commits', loaded', contents'⟩ := w.exists_load_steps cs'
  have alike : (w.load (cs.map NewCommit.step)).SameCommits (w.load (cs'.map NewCommit.step)) := by
    rw [loaded, loaded']
    refine ⟨⟨commits', rfl⟩, ?_⟩
    rw [contents', contents]
    exact same.append_left _
  exact ⟨same, alike.answersAlike (reachable.load _).keyed (reachable.load _).keyed⟩

/-- Two commits in a known repository, and one in a repository that nobody knows. The third is
refused in every order. -/
def lateCommits : List NewCommit :=
  [⟨"r4", 1, some 1, none, "2025-01-20"⟩, ⟨"r5", 9, none, none, "2025-01-21"⟩,
    ⟨"r6", 1, none, some 1, "2025-01-22"⟩]

/-- The two commits are added in either order, under different numbers. -/
theorem answersAlike_of_perm_joiner :
    (joiner.load (lateCommits.map NewCommit.step)).commits.map (fun c => (c.id, c.rev))
      = [(1, "r1"), (2, "r2"), (3, "r3"), (4, "r4"), (5, "r6")] ∧
    (joiner.load (lateCommits.reverse.map NewCommit.step)).commits.map (fun c => (c.id, c.rev))
      = [(1, "r1"), (2, "r2"), (3, "r3"), (4, "r6"), (5, "r4")] ∧
    (joiner.load (lateCommits.map NewCommit.step)).AnswersAlike
      (joiner.load (lateCommits.reverse.map NewCommit.step)) :=
  ⟨by decide, by decide, (answersAlike_of_perm ⟨_, rfl⟩ lateCommits.reverse_perm).2⟩

end Warehouse

end ActivityMetrics
