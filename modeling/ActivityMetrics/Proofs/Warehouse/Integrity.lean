import ActivityMetrics.Proofs.Warehouse.Descriptions
import ActivityMetrics.Proofs.Warehouse.Places
import ActivityMetrics.Proofs.Warehouse.StatusHistory

/-!
# The integrity of a warehouse

Some references between records are checked when a record is added, and others are right because of
the order in which an operation makes its edits: a group is named before a person joins it, and a
project before it becomes part of another. Nothing that is referred to is ever taken away, and a
link that takes the place of another keeps the raw actor. So in a reachable warehouse every
reference leads to a record, and the keys of records are unique (`Warehouse.Whole`). A name keeps
its number, different names have different numbers, and titles and places are the last that were
given (`Warehouse.integrity_of_load`).

A database that enforces its constraints would give half of this for nothing, and leave out the
other half. A link that replaces another is allowed by every constraint, and so is a project that is
given the number of a repository which does not exist; the first keeps the references to it whole
all the same, while of the second nothing is claimed. And no constraint says that a name goes on to
mean the same group.

The parts of the whole are separate invariants, each of which is kept by edits on its own. They
share one fact, that no edit takes away what is referred to (`Warehouse.keeps_of_edit`); beyond it,
each looks only at the edits that add its records.
-/

namespace ActivityMetrics.Warehouse

variable {w w' : Warehouse}

/-! ## What is never taken away

No edit removes a record, but some replace one. A replaced record must keep the key by which it is
referred to. -/

/-- A raw actor whose link is put is linked, and so are those that were linked before. -/
theorem mem_ids_putIdentity_iff {new : Identity} {is : List Identity} {id : Int} :
    id ∈ (putIdentity new is).map (·.id) ↔ id = new.id ∨ id ∈ is.map (·.id) := by
  induction is with
  | nil => exact List.mem_cons
  | cons i is ih =>
    unfold putIdentity
    split
    · rename_i same
      rw [List.map_cons, List.map_cons, List.mem_cons, List.mem_cons, same, ← or_assoc, or_self]
    · rw [List.map_cons, List.map_cons, List.mem_cons, List.mem_cons, ih, or_left_comm]

/-- A person stays the same person, program or not. -/
theorem map_uuid_setBot (w : Warehouse) (uuid : String) (isBot : Bool) :
    (w.setBot uuid isBot).people.map (·.uuid) = w.people.map (·.uuid) := by
  show (w.people.map _).map _ = _
  rw [List.map_map]
  refine List.map_congr_left fun p _ => ?_
  rw [Function.comp_apply]
  split <;> rfl

/-- What other records may refer to is still there. Commits and memberships are left out, as nothing
refers to them, and issues have an invariant with their changes (`Coherent`). -/
structure Keeps (w w' : Warehouse) : Prop where
  /-- No person is lost. -/
  people : w.people.map (·.uuid) ⊆ w'.people.map (·.uuid)
  /-- No raw actor is lost. -/
  actors : w.identities.map (·.id) ⊆ w'.identities.map (·.id)
  /-- No entry of a directory is lost. -/
  entries : ∀ d, w.entries d ⊆ w'.entries d
  /-- No project is lost. -/
  projects : w.projects.map (·.id) ⊆ w'.projects.map (·.id)

/-- **An edit takes nothing away that is referred to.** -/
theorem keeps_of_edit (edit : w.Edit w') : w.Keeps w' := by
  have entries := fun d => (entries_isPrefix_of_edit edit d).subset
  cases edit with
  | person uuid name =>
    refine ⟨?_, List.Subset.refl _, entries, List.Subset.refl _⟩
    rw [List.map_append]
    exact List.subset_append_left _ _
  | bot uuid isBot =>
    exact ⟨(w.map_uuid_setBot uuid isBot).symm ▸ List.Subset.refl _, List.Subset.refl _, entries,
      List.Subset.refl _⟩
  | link identity =>
    exact ⟨List.Subset.refl _, fun _ known => mem_ids_putIdentity_iff.2 (.inr known), entries,
      List.Subset.refl _⟩
  | project id title =>
    exact ⟨List.Subset.refl _, List.Subset.refl _, entries,
      fun _ known => mem_ids_putProject_iff.2 (.inr known)⟩
  | group kind =>
    cases kind <;> exact ⟨List.Subset.refl _, List.Subset.refl _, entries, List.Subset.refl _⟩
  | enrollment | part | attachment | repository | commit | tracker | issue | change | status
  | setting => exact ⟨List.Subset.refl _, List.Subset.refl _, entries, List.Subset.refl _⟩

/-! ## References

An invariant says of all records of a kind that they lead somewhere. After an edit there are records
that were there before, whose target is still there, and at most one new record, whose target is the
condition of the edit. -/

/-- A raw actor is linked, unless none is given. -/
def Linked (w : Warehouse) (actor : Option Int) : Prop :=
  ∀ id, actor = some id → id ∈ w.identities.map (·.id)

/-- A linked actor stays linked, though perhaps to another person. -/
theorem Keeps.linked (keeps : w.Keeps w') {actor : Option Int} (h : w.Linked actor) :
    w'.Linked actor :=
  fun id own => keeps.actors (h id own)

/-- People and groups who are spoken of are known. A person is known by name and a group by number,
and the number counts among the groups of the kind that the membership says. -/
structure Peopled (w : Warehouse) : Prop where
  /-- The person behind a raw actor is known. -/
  identities : ∀ i ∈ w.identities, i.uuid ∈ w.people.map (·.uuid)
  /-- The person of a membership is known. -/
  members : ∀ n ∈ w.enrollments, n.uuid ∈ w.people.map (·.uuid)
  /-- The group of a membership is known among those of its kind. -/
  targets : ∀ n ∈ w.enrollments, ∃ g ∈ w.entities n.kind, g.id = n.target

/-- Links and memberships are right when each was so before, or is so now. A link that takes the
place of another counts as one that is so now. -/
theorem Peopled.of_keeps (h : w.Peopled) (keeps : w.Keeps w')
    (identities : ∀ i ∈ w'.identities, i ∈ w.identities ∨ i.uuid ∈ w.people.map (·.uuid))
    (enrollments : ∀ n ∈ w'.enrollments, n ∈ w.enrollments ∨
      n.uuid ∈ w.people.map (·.uuid) ∧ ∃ g ∈ w.entities n.kind, g.id = n.target) :
    w'.Peopled := by
  refine ⟨fun i hi => keeps.people ?_, fun n hn => keeps.people ?_, fun n hn => ?_⟩
  · exact (identities i hi).elim (h.identities i) id
  · exact (enrollments n hn).elim (h.members n) And.left
  · obtain ⟨g, known, same⟩ := (enrollments n hn).elim (h.targets n) And.right
    exact ⟨g, keeps.entries (.groups n.kind) known, same⟩

/-- **An edit speaks of known people and groups only.** -/
theorem Peopled.edit (h : w.Peopled) (edit : w.Edit w') : w'.Peopled := by
  have kept := h.of_keeps (keeps_of_edit edit)
  cases edit with
  | link identity person =>
    refine kept (fun i hi => ?_) fun _ => .inl
    rcases mem_putIdentity hi with rfl | old
    · exact .inr (hasPerson_iff.1 person)
    · exact .inl old
  | enrollment uuid kind target start stop person group =>
    refine kept (fun _ => .inl) fun n hn => (List.mem_append.1 hn).imp_right fun new => ?_
    rw [List.mem_singleton.1 new]
    exact ⟨hasPerson_iff.1 person, group⟩
  | group kind => cases kind <;> exact kept (fun _ => .inl) fun _ => .inl
  | person | bot | project | part | attachment | repository | commit | tracker | issue | change
  | status | setting => exact kept (fun _ => .inl) fun _ => .inl

/-- The raw actors of events are linked. A commit has two of them, and may have none. -/
structure Attributed (w : Warehouse) : Prop where
  /-- Those of a commit are. -/
  commits : ∀ c ∈ w.commits, w.Linked c.author ∧ w.Linked c.committer
  /-- That of an issue is. -/
  issues : ∀ i ∈ w.issues, w.Linked i.submittedBy
  /-- That of a change is. -/
  changes : ∀ x ∈ w.changes, w.Linked x.changedBy

/-- **An edit adds events of linked actors only.** -/
theorem Attributed.edit (h : w.Attributed) (edit : w.Edit w') : w'.Attributed := by
  have keeps := keeps_of_edit edit
  cases edit with
  | link =>
    exact ⟨fun c hc => ⟨keeps.linked (h.commits c hc).1, keeps.linked (h.commits c hc).2⟩,
      fun i hi => keeps.linked (h.issues i hi), fun x hx => keeps.linked (h.changes x hx)⟩
  | commit _ _ _ _ _ _ wrote recorded =>
    have new := And.intro (hasActor_iff.1 wrote) (hasActor_iff.1 recorded)
    exact { h with
      commits := List.forall_mem_append.2 ⟨h.commits, List.forall_mem_singleton.2 new⟩ }
  | issue _ _ _ _ _ submitted =>
    have new := hasActor_iff.1 submitted
    exact { h with
      issues := List.forall_mem_append.2 ⟨h.issues, List.forall_mem_singleton.2 new⟩ }
  | change _ _ _ _ _ _ _ changed =>
    have new := hasActor_iff.1 changed
    exact { h with
      changes := List.forall_mem_append.2 ⟨h.changes, List.forall_mem_singleton.2 new⟩ }
  | status _ _ _ _ _ changed =>
    have new := hasActor_iff.1 changed
    refine { h with
      issues := fun i hi => ?_
      changes := List.forall_mem_append.2 ⟨h.changes, List.forall_mem_singleton.2 new⟩ }
    -- a new status keeps who submitted an issue
    obtain ⟨j, hj, rfl⟩ := List.mem_map.1 hi
    split <;> exact h.issues j hj
  | group kind => cases kind <;> exact { h with }
  | person | bot | enrollment | project | part | attachment | repository | tracker | setting =>
    exact { h with }

/-- Projects that are spoken of are known. Nothing is said about the repositories of a project,
which need not be known. -/
structure Arranged (w : Warehouse) : Prop where
  /-- A project that has a part is known. -/
  parents : ∀ l ∈ w.projectChildren, l.parent ∈ w.projects.map (·.id)
  /-- A part of a project is known. -/
  children : ∀ l ∈ w.projectChildren, l.child ∈ w.projects.map (·.id)
  /-- A project that has a repository is known. -/
  repositories : ∀ l ∈ w.projectRepositories, l.project ∈ w.projects.map (·.id)

/-- **An edit speaks of known projects only.** -/
theorem Arranged.edit (h : w.Arranged) (edit : w.Edit w') : w'.Arranged := by
  have keeps := keeps_of_edit edit
  cases edit with
  | project =>
    exact ⟨fun l hl => keeps.projects (h.parents l hl),
      fun l hl => keeps.projects (h.children l hl),
      fun l hl => keeps.projects (h.repositories l hl)⟩
  | part link parent child =>
    exact { h with
      parents := List.forall_mem_append.2 ⟨h.parents, List.forall_mem_singleton.2 parent⟩
      children := List.forall_mem_append.2 ⟨h.children, List.forall_mem_singleton.2 child⟩ }
  | attachment link project =>
    exact { h with
      repositories :=
        List.forall_mem_append.2 ⟨h.repositories, List.forall_mem_singleton.2 project⟩ }
  | group kind => cases kind <;> exact { h with }
  | person | bot | link | enrollment | repository | commit | tracker | issue | change | status
  | setting => exact { h with }

/-! ## Keys

A key is unique for one of three reasons: the next number is new, a record is only added if none has
its name, or the record of a name is replaced where it stands. -/

/-- A project is not added when its name is there. -/
theorem nodup_putProject {ps : List Project} (h : (ps.map (·.id)).Nodup) (id : String)
    (title : Option String) : ((putProject id title ps).map (·.id)).Nodup := by
  induction ps with
  | nil => exact List.pairwise_singleton _ _
  | cons p ps ih =>
    rw [List.map_cons, List.nodup_cons] at h
    unfold putProject
    split
    · rw [List.map_cons, List.nodup_cons]
      exact h
    · rename_i other
      rw [List.map_cons, List.nodup_cons, mem_ids_putProject_iff]
      exact ⟨fun there => there.elim other h.1, ih h.2⟩

/-- Records that no other invariant tells apart have different keys. Links between records are their
own keys. -/
structure Distinct (w : Warehouse) : Prop where
  /-- The people have different names. -/
  people : (w.people.map (·.uuid)).Nodup
  /-- The memberships have different numbers. -/
  enrollments : (w.enrollments.map (·.id)).Nodup
  /-- The projects have different names. -/
  projects : (w.projects.map (·.id)).Nodup
  /-- A project is part of another once. -/
  projectChildren : w.projectChildren.Nodup
  /-- A project has a repository once. -/
  projectRepositories : w.projectRepositories.Nodup

/-- What is new may be added to what has no repeats. -/
theorem nodup_append_new {α : Type} {l : List α} {a : α} (h : l.Nodup) (new : a ∉ l) :
    (l ++ [a]).Nodup :=
  List.nodup_append.2 ⟨h, List.pairwise_singleton _ _, fun _ hb _ hc same =>
    new (List.mem_singleton.1 hc ▸ same ▸ hb)⟩

/-- **An edit keeps keys apart.** -/
theorem Distinct.edit (h : w.Distinct) (edit : w.Edit w') : w'.Distinct := by
  cases edit with
  | person uuid name new =>
    refine { h with people := ?_ }
    rw [List.map_append]
    exact nodup_append_new h.people fun there =>
      Bool.eq_false_iff.1 new (hasPerson_iff.2 there)
  | bot uuid isBot => exact { h with people := (w.map_uuid_setBot uuid isBot).symm ▸ h.people }
  | enrollment =>
    refine { h with enrollments := ?_ }
    rw [List.map_append]
    exact nodup_append_nextId h.enrollments
  | project id title => exact { h with projects := nodup_putProject h.projects id title }
  | part _ _ _ new => exact { h with projectChildren := nodup_append_new h.projectChildren new }
  | attachment _ _ new =>
    exact { h with projectRepositories := nodup_append_new h.projectRepositories new }
  | group kind => cases kind <;> exact { h with }
  | link | repository | commit | tracker | issue | change | status | setting => exact { h with }

/-! ## The whole

The invariants are put together, and with them what is known of names, titles and places. -/

/-- Every reference leads to a record, and the keys of records are unique. A part of this is
declared with the tables. Declared nowhere are that memberships lead to groups of their kind, since
one column has the number of a group for all three kinds, and that links between projects are of
known projects. -/
structure Whole (w : Warehouse) : Prop where
  /-- Links lead to known people, and so do memberships, which also lead to groups of their kind. -/
  people : w.Peopled
  /-- The raw actors of events are linked. -/
  actors : w.Attributed
  /-- Commits are in known repositories, and issues in known trackers. -/
  places : w.Housed
  /-- Changes are of known issues. -/
  changes : ∀ x ∈ w.changes, ∃ i ∈ w.issues, i.id = x.issue
  /-- Links between projects, and from projects to repositories, are of known projects. -/
  projects : w.Arranged
  /-- Groups, repositories and trackers have unique names and numbers. -/
  directories : ∀ d, Sound (w.entries d)
  /-- Raw actors, commits and issues have unique numbers. -/
  keyed : w.Keyed
  /-- People, memberships, projects and links have unique keys. -/
  distinct : w.Distinct
  /-- Changes have unique numbers. -/
  numbers : (w.changes.map (·.id)).Nodup

/-- **A reachable warehouse is whole.** -/
theorem Reachable.whole (h : w.Reachable) : w.Whole where
  people := h.of_edit ⟨nofun, nofun, nofun⟩ Peopled.edit
  actors := h.of_edit ⟨nofun, nofun, nofun⟩ Attributed.edit
  places := h.housed
  changes := h.coherent.changes
  projects := h.of_edit ⟨nofun, nofun, nofun⟩ Arranged.edit
  directories := h.sound
  keyed := h.keyed
  distinct := h.of_edit ⟨.nil, .nil, .nil, .nil, .nil⟩ Distinct.edit
  numbers := List.pairwise_map.2 (h.traced.ascending.imp Int.ne_of_lt)

/-- Projects and repositories have the last titles and places that some operations gave. Two fields
read it off the records, so that no record has a title that was not given for it; the other two say
that what was given is not lost with its record. -/
structure DescribedBy (w : Warehouse) (steps : List LoadStep) : Prop where
  /-- The title of a project is the last that was given. -/
  titles : ∀ p ∈ w.projects, p.title = (steps.filterMap (·.titleGiven p.id)).getLast?
  /-- The last title that was given for a project is kept. -/
  titled : ∀ project title, (steps.filterMap (·.titleGiven project)).getLast? = some title →
    ∃ p ∈ w.projects, p.id = project ∧ p.title = some title
  /-- The place of a repository is the last that was given. -/
  uris : ∀ r ∈ w.repositories, r.uri = (steps.filterMap (·.uriGiven r.name)).getLast?
  /-- The last place that was given for a repository is kept. -/
  located : ∀ repository uri, (steps.filterMap (·.uriGiven repository)).getLast? = some uri →
    ∃ r ∈ w.repositories, r.name = repository ∧ r.uri = some uri

/-- **Titles and places are the last that were given.** That the keys are unique is needed here, so
that a record is the one which is found by its name. -/
theorem describedBy_load (steps : List LoadStep) : (empty.load steps).DescribedBy steps := by
  have whole := Reachable.whole ⟨steps, rfl⟩
  refine ⟨fun p hp => ?_, fun project title last => ?_, fun r hr => ?_,
    fun repository uri last => ?_⟩
  · rw [← titleOf_load, titleOf, titleIn,
      find?_key_of_mem Project.id whole.distinct.projects hp]
    rfl
  · rw [← titleOf_load] at last
    obtain ⟨p, first, found⟩ := Option.bind_eq_some_iff.1 last
    exact ⟨p, List.mem_of_find?_eq_some first, beq_iff_eq.1 (List.find?_some first :), found⟩
  · have names : ((empty.load steps).repositories.map (·.name)).Nodup := by
      have := (whole.directories (.places .scm)).names
      rwa [entries, places, List.map_map] at this
    rw [← uriOf_load, uriOf, uriIn, find?_key_of_mem Repository.name names hr]
    rfl
  · rw [← uriOf_load] at last
    obtain ⟨r, first, found⟩ := Option.bind_eq_some_iff.1 last
    exact ⟨r, List.mem_of_find?_eq_some first, beq_iff_eq.1 (List.find?_some first :), found⟩

/-! ## The theorem

Nothing is asked of the operations. They may come in any order, and whether they fail is a matter of
what was loaded before them. -/

/-- **After any sequence of operations**, failed ones included, the warehouse is whole, and titles
and places are the last that were given. An operation that names a group, a repository or a tracker
gives a number. Whatever is done next, the same name is given the same number again, and another
name another number.

The last part is about two operations with any others between them, and not about records. It says
more than that names are unique in the end: a name that was forgotten and given a new number would
leave them unique. -/
theorem integrity_of_load (steps : List LoadStep) :
    (empty.load steps).Whole ∧ (empty.load steps).DescribedBy steps ∧
    ∀ (step : LoadStep) (d : Directory) (name : String), step.names = some (d, name) →
      ∃ id, (step.perform (empty.load steps)).1 = .ok (some id) ∧
        ∀ (later : List LoadStep) (again : LoadStep) (other : String),
          again.names = some (d, other) →
          ∃ id', (again.perform ((step.perform (empty.load steps)).2.load later)).1
            = .ok (some id') ∧ (id' = id ↔ other = name) := by
  have reachable : (empty.load steps).Reachable := ⟨steps, rfl⟩
  refine ⟨reachable.whole, describedBy_load steps, fun step d name named => ?_⟩
  refine ⟨_, (perform_of_names named).1, fun later again other renamed => ?_⟩
  have sound := ((reachable.perform step).load later).sound d
  exact ⟨_, (perform_of_names renamed).1,
    sound.putEntity_eq_iff (entityId?_load_of_names named later)⟩

/-! ## Names that come again

The case that a theorem about references is easily wrong for is an operation that fails after it has
changed something, and a record that replaces another. -/

/-- A title and a place that are kept when nothing new is given, a group that is named by a failed
operation, and a link that takes the place of another. -/
def renamed : List LoadStep :=
  [.addProject "suite" (some "Suite"), .addSubproject "suite" "editor",
    .addEnrollment "nobody" .organization "guild" none none, .nameRepository "core" (some "a"),
    .nameRepository "core" none, .addIdentity 1 .scm "ada" "Ada",
    .insertCommit "r1" 1 (some 1) none "2025-01-05", .addIdentity 1 .its "bo" "Bo",
    .insertCommit "r2" 2 none none "2025-01-05"]

/-- The guild has the number that the failed operation gave it, also after a club is named, which
has another. -/
theorem integrity_of_load_renamed :
    (empty.load renamed).Whole ∧
    (∃ p ∈ (empty.load renamed).projects, p.id = "suite" ∧ p.title = some "Suite") ∧
    (∃ r ∈ (empty.load renamed).repositories, r.name = "core" ∧ r.uri = some "a") ∧
    ∃ id, ((LoadStep.nameGroup .organization "guild").perform (empty.load renamed)).1
        = .ok (some id) ∧
      (∃ id', ((LoadStep.nameGroup .organization "club").perform
          (((LoadStep.nameGroup .organization "guild").perform (empty.load renamed)).2.load
            [.addEnrollment "ada" .organization "club" none none])).1 = .ok (some id') ∧
        id' ≠ id) ∧
      ∃ id', ((LoadStep.nameGroup .organization "guild").perform
          (((LoadStep.nameGroup .organization "guild").perform (empty.load renamed)).2.load
            [.addEnrollment "ada" .organization "club" none none])).1 = .ok (some id') ∧
        id' = id := by
  obtain ⟨whole, described, numbers⟩ := integrity_of_load renamed
  obtain ⟨id, named, later⟩ := numbers (.nameGroup .organization "guild") (.groups .organization)
    "guild" rfl
  obtain ⟨club, clubNamed, apart⟩ := later [.addEnrollment "ada" .organization "club" none none]
    (.nameGroup .organization "club") "club" rfl
  obtain ⟨guild, again, same⟩ := later [.addEnrollment "ada" .organization "club" none none]
    (.nameGroup .organization "guild") "guild" rfl
  refine ⟨whole, described.titled "suite" "Suite" (by decide), described.located "core" "a"
    (by decide), id, named, ⟨club, clubNamed, ?_⟩, guild, again, same.2 rfl⟩
  exact fun equal => absurd (apart.1 equal) (by decide)

end ActivityMetrics.Warehouse
