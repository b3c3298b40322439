import ActivityMetrics.Warehouse.Load
import Mathlib.Logic.Relation

/-!
# What a load operation does to the records

A load operation is a short sequence of *edits*, each of which adds or replaces a record of one
kind. A record that refers to another finds the other in place when it is added, whether an earlier
operation added it or an earlier edit of the same one. An operation that fails stops after the edits
that it has made. So what every edit keeps, every operation keeps (`Warehouse.perform_of_edit`), and
if it holds of the empty warehouse it holds of every reachable one (`Warehouse.Reachable.of_edit`).

Operations are not what invariants should be proved over. Several of them make more than one edit,
some make an edit only if a record is new, and four may fail, one of these after its first edit; a
proof over operations would go through all of this for every invariant. An edit is never conditional
and never fails. What an operation has checked before it adds a record stands in the edit as a
condition, so an invariant about references finds it there and does not look at operations at all.
-/

namespace ActivityMetrics.Warehouse

variable {w : Warehouse}

/-- A change of the records of one kind, with what has to be in place before it. The conditions are
those that the operations check, or see to, and no more: a project is given a repository whether or
not the repository is known. -/
inductive Edit (w : Warehouse) : Warehouse → Prop where
  /-- A person becomes known. -/
  | person (uuid name : String) (new : w.hasPerson uuid = false) :
    w.Edit { w with people := w.people ++ [⟨uuid, name, false⟩] }
  /-- A person is a program, or is none. -/
  | bot (uuid : String) (isBot : Bool) : w.Edit (w.setBot uuid isBot)
  /-- A raw actor is linked to a known person. -/
  | link (identity : Identity) (person : w.hasPerson identity.uuid) :
    w.Edit { w with identities := putIdentity identity w.identities }
  /-- A group is named. -/
  | group (kind : Affiliation) (name : String) : w.Edit (w.nameGroup kind name).2
  /-- A known person becomes part of a known group. -/
  | enrollment (uuid : String) (kind : Affiliation) (target : Int) (start stop : String)
    (person : w.hasPerson uuid) (group : ∃ g ∈ w.entities kind, g.id = target) :
    w.Edit { w with enrollments := w.enrollments
      ++ [⟨nextId (w.enrollments.map (·.id)), uuid, kind, target, start, stop⟩] }
  /-- A project is named. -/
  | project (id : String) (title : Option String) : w.Edit (w.addProject id title)
  /-- A known project becomes part of another. -/
  | part (link : ProjectChild) (parent : link.parent ∈ w.projects.map (·.id))
    (child : link.child ∈ w.projects.map (·.id)) (new : link ∉ w.projectChildren) :
    w.Edit { w with projectChildren := w.projectChildren ++ [link] }
  /-- A known project is given a repository. -/
  | attachment (link : ProjectRepository) (project : link.project ∈ w.projects.map (·.id))
    (new : link ∉ w.projectRepositories) :
    w.Edit { w with projectRepositories := w.projectRepositories ++ [link] }
  /-- A repository is named. -/
  | repository (name : String) (uri : Option String) :
    w.Edit { w with repositories := (w.nameRepository name uri).2.repositories }
  /-- A commit of linked actors is added to a known repository. -/
  | commit (rev : String) (repository : Int) (author committer : Option Int) (date : String)
    (place : ∃ r ∈ w.repositories, r.id = repository) (wrote : w.hasActor author)
    (recorded : w.hasActor committer) :
    w.Edit { w with commits := w.commits
      ++ [⟨nextId (w.commits.map (·.id)), rev, repository, author, committer, date⟩] }
  /-- A tracker is named. -/
  | tracker (url : String) : w.Edit (w.nameTracker url).2
  /-- An issue of a linked actor is added to a known tracker. -/
  | issue (tracker : Int) (issue : String) (submittedBy : Option Int) (submittedOn : String)
    (place : ∃ t ∈ w.trackers, t.id = tracker) (submitted : w.hasActor submittedBy) :
    w.Edit { w with issues := w.issues
      ++ [⟨nextId (w.issues.map (·.id)), tracker, issue, none, submittedBy, submittedOn⟩] }
  /-- A change of a field other than the status is added to a known issue. -/
  | change (issue : Int) (field newValue : String) (changedBy : Option Int) (changedOn : String)
    (other : field ≠ statusField) (known : ∃ i ∈ w.issues, i.id = issue)
    (changed : w.hasActor changedBy) :
    w.Edit { w with changes := w.changes
      ++ [⟨nextId (w.changes.map (·.id)), issue, field, none, newValue, changedBy, changedOn⟩] }
  /-- A change of the status is added to a known issue, whose status follows. -/
  | status (issue : Int) (newValue : String) (changedBy : Option Int) (changedOn : String)
    (known : ∃ i ∈ w.issues, i.id = issue) (changed : w.hasActor changedBy) :
    w.Edit { w with
      issues := w.issues.map fun i => if i.id = issue then { i with status := some newValue } else i
      changes := w.changes ++ [⟨nextId (w.changes.map (·.id)), issue, statusField,
        w.statusOf issue, newValue, changedBy, changedOn⟩] }
  /-- A setting is stored. -/
  | setting (key value : String) : w.Edit (w.storeSetting key value)

/-- One warehouse comes from another by edits. -/
abbrev Edits : Warehouse → Warehouse → Prop :=
  Relation.ReflTransGen Edit

/-! ## What is in place

The operations ask whether a record exists by looking through a list for its key, and invariants are
stated by membership. -/

/-- A person is known whose name is among those of the people. -/
theorem hasPerson_iff {uuid : String} : w.hasPerson uuid ↔ uuid ∈ w.people.map (·.uuid) := by
  simp only [hasPerson, List.any_eq_true, beq_iff_eq, List.mem_map]

/-- An actor is known if it is linked, or if there is none. An event need not have an actor. -/
theorem hasActor_iff {actor : Option Int} :
    w.hasActor actor ↔ ∀ id, actor = some id → id ∈ w.identities.map (·.id) := by
  cases actor with
  | none => exact iff_of_true rfl nofun
  | some id =>
    simp only [hasActor, List.any_eq_true, beq_iff_eq, Option.some.injEq, forall_eq',
      List.mem_map]

/-- A person whom an identity is added for is known. -/
theorem hasPerson_addPerson (w : Warehouse) (uuid name : String) :
    (w.addPerson uuid name).hasPerson uuid := by
  unfold addPerson
  split
  · assumption
  · rw [hasPerson_iff, List.map_append]
    exact List.mem_append_right _ (List.mem_singleton.2 rfl)

/-- The number that is given for a name belongs to an entity. -/
theorem exists_mem_putEntity (es : List Entity) (name : String) :
    ∃ g ∈ (putEntity es name).2, g.id = (putEntity es name).1 := by
  unfold putEntity
  split
  · rename_i id found
    obtain ⟨g, first, rfl⟩ := Option.map_eq_some_iff.1 found
    exact ⟨g, List.mem_of_find?_eq_some first, rfl⟩
  · exact ⟨_, List.mem_append_right _ (List.mem_singleton.2 rfl), rfl⟩

/-- The groups of a kind are what they were set to. -/
theorem entities_setEntities_self (w : Warehouse) (kind : Affiliation) (es : List Entity) :
    (w.setEntities kind es).entities kind = es := by
  cases kind <;> rfl

/-- The groups of other kinds do not change. -/
theorem entities_setEntities_of_ne (w : Warehouse) {kind other : Affiliation} (h : other ≠ kind)
    (es : List Entity) : (w.setEntities kind es).entities other = w.entities other := by
  cases kind <;> cases other <;> first
    | rfl
    | exact absurd rfl h

/-- A project that is put is there, and so are those that were there before. -/
theorem mem_ids_putProject_iff {id p : String} {title : Option String} {ps : List Project} :
    p ∈ (putProject id title ps).map (·.id) ↔ p = id ∨ p ∈ ps.map (·.id) := by
  induction ps with
  | nil => exact List.mem_cons
  | cons q ps ih =>
    unfold putProject
    split
    · rename_i same
      rw [List.map_cons, List.map_cons, List.mem_cons, same, ← or_assoc, or_self]
    · rw [List.map_cons, List.map_cons, List.mem_cons, List.mem_cons, ih, or_left_comm]

/-! ## Operations as edits

An operation that names what its record refers to before it adds the record makes two or three
edits, and the condition of the last is what the others have brought about. The operations that only
check make one edit or none. -/

/-- A raw actor is linked after its person is known. -/
theorem edits_addIdentity (w : Warehouse) (id : Int) (source : Source) (uuid name : String) :
    w.Edits (w.addIdentity id source uuid name) := by
  have person : w.Edits (w.addPerson uuid name) := by
    unfold addPerson
    split
    · exact .refl
    · rename_i unknown
      exact .single (.person uuid name (Bool.eq_false_iff.2 unknown))
  exact person.tail (.link ⟨id, source, uuid, name⟩ (w.hasPerson_addPerson uuid name))

/-- A person is enrolled after the group is known. If the person is not known, the group has been
named already. -/
theorem edits_addEnrollment (w : Warehouse) (uuid : String) (kind : Affiliation) (name : String)
    (start stop : Option String) : w.Edits (w.addEnrollment uuid kind name start stop).2 := by
  have named : w.Edits (w.nameGroup kind name).2 := .single (.group kind name)
  unfold addEnrollment
  dsimp only
  split
  · rename_i person
    refine named.tail (.enrollment uuid kind _ _ _ person ?_)
    show ∃ g ∈ (w.setEntities kind (putEntity (w.entities kind) name).2).entities kind, _
    rw [entities_setEntities_self]
    exact exists_mem_putEntity _ _
  · exact named

/-- Both projects are known before one becomes part of the other. They may be the same one. -/
theorem edits_addSubproject (w : Warehouse) (parent child : String) :
    w.Edits (w.addSubproject parent child) := by
  have projects : w.Edits ((w.addProject parent none).addProject child none) :=
    (Relation.ReflTransGen.single (.project parent none)).tail (.project child none)
  unfold addSubproject
  dsimp only
  split
  · exact projects
  · rename_i new
    refine projects.tail (.part ⟨parent, child⟩ ?_ ?_ new)
    · exact mem_ids_putProject_iff.2 (.inr (mem_ids_putProject_iff.2 (.inl rfl)))
    · exact mem_ids_putProject_iff.2 (.inl rfl)

/-- A project is known before it is given a repository. The repository need not be. -/
theorem edits_addProjectRepository (w : Warehouse) (project : String) (source : Source)
    (repository : Int) : w.Edits (w.addProjectRepository project source repository) := by
  have named : w.Edits (w.addProject project none) := .single (.project project none)
  unfold addProjectRepository
  dsimp only
  split
  · exact named
  · rename_i new
    exact named.tail (.attachment ⟨project, source, repository⟩
      (mem_ids_putProject_iff.2 (.inl rfl)) new)

/-- To name a repository changes no other records, whether it is found or added. -/
theorem edits_nameRepository (w : Warehouse) (name : String) (uri : Option String) :
    w.Edits (w.nameRepository name uri).2 := by
  have only : (w.nameRepository name uri).2
      = { w with repositories := (w.nameRepository name uri).2.repositories } := by
    unfold nameRepository
    split <;> rfl
  rw [only]
  exact .single (.repository name uri)

/-- A commit is added if its repository and its actors are known. -/
theorem edits_insertCommit (w : Warehouse) (rev : String) (repository : Int)
    (author committer : Option Int) (date : String) :
    w.Edits (w.insertCommit rev repository author committer date).2 := by
  unfold insertCommit
  split
  · rename_i allowed
    simp only [Bool.and_eq_true, List.any_eq_true, beq_iff_eq] at allowed
    exact .single (.commit rev repository author committer date allowed.1.1 allowed.1.2 allowed.2)
  · exact .refl

/-- An issue is added if its tracker and its actor are known. -/
theorem edits_insertIssue (w : Warehouse) (tracker : Int) (issue : String)
    (submittedBy : Option Int) (submittedOn : String) :
    w.Edits (w.insertIssue tracker issue submittedBy submittedOn).2 := by
  unfold insertIssue
  split
  · rename_i allowed
    simp only [Bool.and_eq_true, List.any_eq_true, beq_iff_eq] at allowed
    exact .single (.issue tracker issue submittedBy submittedOn allowed.1 allowed.2)
  · exact .refl

/-- A change is added if its issue and its actor are known. Here the edit depends on the field. -/
theorem edits_insertChange (w : Warehouse) (issue : Int) (field newValue : String)
    (changedBy : Option Int) (changedOn : String) :
    w.Edits (w.insertChange issue field newValue changedBy changedOn).2 := by
  unfold insertChange
  split
  · rename_i allowed
    simp only [Bool.and_eq_true, List.any_eq_true, beq_iff_eq] at allowed
    by_cases status : field = statusField
    · subst status
      simp only [if_true]
      exact .single (.status issue newValue changedBy changedOn allowed.1 allowed.2)
    · simp only [if_neg status]
      exact .single (.change issue field newValue changedBy changedOn status allowed.1 allowed.2)
  · exact .refl

/-- Giving out a number does not change what is left behind. -/
theorem snd_numbers (l : Loaded Int) : (LoadStep.perform.numbers l).2 = l.2 := by
  obtain ⟨result, _⟩ := l
  cases result <;> rfl

/-- **A load operation is a sequence of edits**, also when it fails. -/
theorem edits_perform (w : Warehouse) (step : LoadStep) : w.Edits (step.perform w).2 := by
  cases step with
  | addIdentity id source uuid name => exact w.edits_addIdentity id source uuid name
  | setBot uuid isBot => exact .single (.bot uuid isBot)
  | nameGroup kind name => exact .single (.group kind name)
  | addEnrollment uuid kind name start stop =>
    rw [LoadStep.perform, snd_numbers]
    exact w.edits_addEnrollment uuid kind name start stop
  | addProject id title => exact .single (.project id title)
  | addSubproject parent child => exact w.edits_addSubproject parent child
  | addProjectRepository project source repository =>
    exact w.edits_addProjectRepository project source repository
  | nameRepository name uri => exact w.edits_nameRepository name uri
  | insertCommit rev repository author committer date =>
    rw [LoadStep.perform, snd_numbers]
    exact w.edits_insertCommit rev repository author committer date
  | nameTracker url => exact .single (.tracker url)
  | insertIssue tracker issue actor on =>
    rw [LoadStep.perform, snd_numbers]
    exact w.edits_insertIssue tracker issue actor on
  | insertChange issue field value actor on =>
    rw [LoadStep.perform, snd_numbers]
    exact w.edits_insertChange issue field value actor on
  | storeSetting key value => exact .single (.setting key value)

/-- A sequence of operations is one of edits. -/
theorem edits_load (w : Warehouse) (steps : List LoadStep) : w.Edits (w.load steps) := by
  induction steps generalizing w with
  | nil => exact .refl
  | cons step steps ih => exact (w.edits_perform step).trans (ih _)

/-- What is reachable stays so, whatever is loaded. -/
theorem Reachable.load (h : w.Reachable) (steps : List LoadStep) : (w.load steps).Reachable := by
  obtain ⟨before, rfl⟩ := h
  exact ⟨before ++ steps, (List.foldl_append ..).symm⟩

/-- What is reachable stays so when one more operation is performed. -/
theorem Reachable.perform (h : w.Reachable) (step : LoadStep) : (step.perform w).2.Reachable :=
  h.load [step]

/-! ## What edits keep

From here on, an invariant is proved for edits, with one case for each of them. An invariant that
only holds along with others is proved with them, as their conjunction. -/

section

variable {P : Warehouse → Prop}

/-- What every edit keeps, edits keep. -/
theorem Edits.of_edit {w' : Warehouse} (edits : w.Edits w')
    (edit : ∀ {w w' : Warehouse}, P w → w.Edit w' → P w') (h : P w) : P w' := by
  induction edits with
  | refl => exact h
  | tail _ last ih => exact edit ih last

/-- **What every edit keeps, a load operation keeps.** -/
theorem perform_of_edit (edit : ∀ {w w' : Warehouse}, P w → w.Edit w' → P w') (h : P w)
    (step : LoadStep) : P (step.perform w).2 :=
  (w.edits_perform step).of_edit edit h

/-- **What holds of the empty warehouse and is kept by every edit** holds of every reachable
warehouse. -/
theorem Reachable.of_edit (start : P empty)
    (edit : ∀ {w w' : Warehouse}, P w → w.Edit w' → P w') (h : w.Reachable) : P w := by
  obtain ⟨steps, rfl⟩ := h
  exact (empty.edits_load steps).of_edit edit start

end

end ActivityMetrics.Warehouse
