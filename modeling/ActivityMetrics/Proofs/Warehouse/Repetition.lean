import ActivityMetrics.Proofs.Warehouse.Directories
import ActivityMetrics.Proofs.Warehouse.Projects

/-!
# Operations that fail and operations that are repeated

An operation fails where a record would refer to one that does not exist, and by then it has made at
most a group known (`Warehouse.perform_of_error`). An operation that loads *reference data* makes
people, groups, projects, repositories or trackers known. When it is repeated it finds them in place
and leaves everything as it is (`Warehouse.perform_perform`), except that a person who is enrolled
once more has the membership twice (`Warehouse.addEnrollment_again`).

There are thus two exceptions, the group that a failed enrollment leaves and the second record of a
repeated membership. They are the reason why failing and repeating are not simply without effect. No
query sees either of them, the group because nobody is in it and the membership because it says what
another one says; but that is about queries and is proved with them. Here it is said exactly what
the two leave behind, so that nothing else has to be considered there.

The equalities are between warehouses, records and numbers included, in their order. Activity is no
reference data: a commit that is loaded again is a second commit.
-/

namespace ActivityMetrics

/-- The operation loads reference data, not activity or settings. -/
def LoadStep.reference : LoadStep → Bool
  | .insertCommit .. | .insertIssue .. | .insertChange .. | .storeSetting .. => false
  | _ => true

/-- The operation makes a person part of a group. -/
def LoadStep.enrolls : LoadStep → Bool
  | .addEnrollment .. => true
  | _ => false

namespace Warehouse

variable {w : Warehouse}

/-! ## Names that are known

To name what is known changes nothing. Each kind of thing is kept in its own way, so there is one
lemma for each. -/

/-- Groups that are set to what they are do not change. -/
theorem setEntities_entities (w : Warehouse) (kind : Affiliation) :
    w.setEntities kind (w.entities kind) = w := by
  cases kind <;> rfl

/-- A group that is known is found. -/
theorem nameGroup_of_known {kind : Affiliation} {name : String} {id : Int}
    (h : entityId? (w.entities kind) name = some id) : w.nameGroup kind name = (id, w) := by
  rw [nameGroup, putEntity_of_known h]
  exact congrArg (id, ·) (w.setEntities_entities kind)

/-- A group that is named is known. -/
theorem entityId?_nameGroup (w : Warehouse) (kind : Affiliation) (name : String) :
    entityId? ((w.nameGroup kind name).2.entities kind) name = some (w.nameGroup kind name).1 := by
  show entityId? ((w.setEntities kind _).entities kind) name = _
  rw [entities_setEntities_self]
  exact entityId?_putEntity _ name

/-- A group that is named was known, or is added with a number of its own. -/
theorem nameGroup_eq_or_append (w : Warehouse) (kind : Affiliation) (name : String) :
    (w.nameGroup kind name).2 = w ∨
      ∃ group : Entity, group.name ∉ (w.entities kind).map (·.name) ∧
        group.id ∉ (w.entities kind).map (·.id) ∧
        (w.nameGroup kind name).2 = w.setEntities kind (w.entities kind ++ [group]) := by
  cases known : entityId? (w.entities kind) name with
  | some id => exact .inl (congrArg Prod.snd (nameGroup_of_known known))
  | none =>
    refine .inr ⟨⟨nextId ((w.entities kind).map (·.id)), name⟩,
      not_mem_of_entityId?_eq_none known, nextId_not_mem _, ?_⟩
    rw [nameGroup, putEntity, known]

/-- A repository that is known and keeps its place is found. -/
theorem nameRepository_of_known {name : String} {uri : Option String} {id : Int}
    (h : entityId? (w.places .scm) name = some id)
    (kept : ∀ r ∈ w.repositories, r.name = name → uri.or r.uri = r.uri) :
    w.nameRepository name uri = (id, w) := by
  rw [entityId?_places_scm] at h
  obtain ⟨r, found, rfl⟩ := Option.map_eq_some_iff.1 h
  have same : (w.repositories.map fun q =>
      if q.name = name then { q with uri := uri.or q.uri } else q) = w.repositories := by
    refine (List.map_congr_left fun q hq => ?_).trans (List.map_id _)
    split
    · rename_i named
      rw [kept q hq named]
      rfl
    · rfl
  rw [nameRepository, found]
  dsimp only
  rw [same]

/-- A person who is known keeps the name. -/
theorem addPerson_of_known {uuid name : String} (h : w.hasPerson uuid) :
    w.addPerson uuid name = w :=
  if_pos h

/-- A project in a list keeps its title when none is given. -/
theorem putProject_of_known {id : String} {ps : List Project} (h : id ∈ ps.map (·.id)) :
    putProject id none ps = ps := by
  induction ps with
  | nil => cases h
  | cons p ps ih =>
    unfold putProject
    split
    · rfl
    · rename_i other
      rw [ih ((List.mem_cons.1 h).resolve_left (Ne.symm other))]

/-- A project that is known is not changed when it is named without a title. -/
theorem addProject_of_known {id : String} (h : id ∈ w.projects.map (·.id)) :
    w.addProject id none = w := by
  rw [addProject, putProject_of_known h]

/-! ## Failures

Operations that can fail check first and add afterwards, all in the same form. Only one of them does
something before it checks. -/

/-- An operation that adds its record only if all references lead somewhere leaves what it started
from when it fails. -/
theorem snd_ite_of_error {allowed : Prop} [Decidable allowed] {w' : Warehouse} {id : Int}
    {dangling fault : Failure}
    (failed : (if allowed then ((.ok id, w') : Loaded Int) else (.error dangling, w)).1
      = .error fault) :
    (if allowed then ((.ok id, w') : Loaded Int) else (.error dangling, w)).2 = w := by
  split at failed
  · cases failed
  · rename_i refused
    rw [if_neg refused]

/-- A failure is the same with and without the number that would have been the result. -/
theorem eq_error_of_numbers {l : Loaded Int} {fault : Failure}
    (h : (LoadStep.perform.numbers l).1 = .error fault) : l.1 = .error fault := by
  obtain ⟨_ | _, _⟩ := l
  · exact congrArg Except.error (Except.error.inj h)
  · cases h

/-- A result is a number there. -/
theorem exists_eq_ok_of_numbers {l : Loaded Int} {result : Option Int}
    (h : (LoadStep.perform.numbers l).1 = .ok result) : ∃ id, l.1 = .ok id := by
  obtain ⟨_ | id, _⟩ := l
  · cases h
  · exact ⟨id, rfl⟩

/-- **An operation that fails** leaves everything as it was, but for a group that it may name. Of
enrollments it is the group that the person was to join; the other three operations that fail leave
nothing. -/
theorem perform_of_error {step : LoadStep} {fault : Failure}
    (failed : (step.perform w).1 = .error fault) :
    (step.perform w).2 = w ∨ ∃ kind name, (step.perform w).2 = (w.nameGroup kind name).2 := by
  cases step with
  | addEnrollment uuid kind name start stop =>
    rw [LoadStep.perform, snd_numbers]
    exact .inr ⟨kind, name, snd_ite_of_error (eq_error_of_numbers failed)⟩
  | insertCommit rev repository author committer date =>
    rw [LoadStep.perform, snd_numbers]
    exact .inl (snd_ite_of_error (eq_error_of_numbers failed))
  | insertIssue tracker issue actor on =>
    rw [LoadStep.perform, snd_numbers]
    exact .inl (snd_ite_of_error (eq_error_of_numbers failed))
  | insertChange issue field value actor on =>
    rw [LoadStep.perform, snd_numbers]
    exact .inl (snd_ite_of_error (eq_error_of_numbers failed))
  | addIdentity | setBot | nameGroup | addProject | addSubproject | addProjectRepository
  | nameRepository | nameTracker | storeSetting => cases failed

/-- What is refused is refused for the reason that is given. -/
theorem fault_of_ite_error {allowed : Prop} [Decidable allowed] {w' : Warehouse} {id : Int}
    {dangling fault : Failure}
    (failed : (if allowed then ((.ok id, w') : Loaded Int) else (.error dangling, w)).1
      = .error fault) : fault = dangling := by
  split at failed
  · cases failed
  · exact (Except.error.inj failed).symm

/-- **An operation fails for one reason only**: its record would refer to one that does not
exist. -/
theorem fault_perform {step : LoadStep} {fault : Failure}
    (failed : (step.perform w).1 = .error fault) : fault = .database .danglingReference := by
  cases step with
  | addEnrollment | insertCommit | insertIssue | insertChange =>
    exact fault_of_ite_error (eq_error_of_numbers failed)
  | addIdentity | setBot | nameGroup | addProject | addSubproject | addProjectRepository
  | nameRepository | nameTracker | storeSetting => cases failed

/-! ## Repetitions

An operation is repeated in the warehouse that it has left, with the same arguments. Later
repetitions, with other operations between, are a different matter: a title may have been replaced
meanwhile. -/

/-- A link that is put again takes its own place. -/
theorem putIdentity_putIdentity (identity : Identity) (is : List Identity) :
    putIdentity identity (putIdentity identity is) = putIdentity identity is := by
  induction is with
  | nil => exact if_pos rfl
  | cons i is ih =>
    by_cases same : i.id = identity.id
    · rw [putIdentity, if_pos same, putIdentity, if_pos rfl]
    · rw [putIdentity, if_neg same, putIdentity, if_neg same, ih]

/-- A link that is added again changes nothing, as its person is known by then. -/
theorem addIdentity_addIdentity (w : Warehouse) (id : Int) (source : Source)
    (uuid name : String) :
    (w.addIdentity id source uuid name).addIdentity id source uuid name
      = w.addIdentity id source uuid name := by
  have known : (w.addIdentity id source uuid name).hasPerson uuid :=
    w.hasPerson_addPerson uuid name
  rw [addIdentity, addPerson_of_known known]
  simp only [addIdentity, putIdentity_putIdentity]

/-- What is said about a person again has been said. -/
theorem setBot_setBot (w : Warehouse) (uuid : String) (isBot : Bool) :
    (w.setBot uuid isBot).setBot uuid isBot = w.setBot uuid isBot := by
  simp only [setBot, List.map_map]
  refine congrArg (fun people => { w with people }) (List.map_congr_left fun p _ => ?_)
  rw [Function.comp_apply]
  by_cases same : p.uuid = uuid <;> simp [same]

/-- A group that is named again is found. -/
theorem nameGroup_nameGroup (w : Warehouse) (kind : Affiliation) (name : String) :
    (w.nameGroup kind name).2.nameGroup kind name = w.nameGroup kind name :=
  nameGroup_of_known (w.entityId?_nameGroup kind name)

/-- A tracker that is named again is found. -/
theorem nameTracker_nameTracker (w : Warehouse) (url : String) :
    (w.nameTracker url).2.nameTracker url = w.nameTracker url := by
  have known : putEntity (w.nameTracker url).2.trackers url = _ :=
    putEntity_of_known (entityId?_putEntity w.trackers url)
  rw [nameTracker, known]
  rfl

/-- A title that is given again is there. If none is given, there may be one or none, and it stays
so. -/
theorem putProject_putProject (id : String) (title : Option String) (ps : List Project) :
    putProject id title (putProject id title ps) = putProject id title ps := by
  induction ps with
  | nil =>
    show (if id = id then _ else _) = _
    rw [if_pos rfl, Option.or_self]
    rfl
  | cons p ps ih =>
    by_cases same : p.id = id
    · rw [putProject, if_pos same, putProject, if_pos same, ← Option.or_assoc, Option.or_self]
    · rw [putProject, if_neg same, putProject, if_neg same, ih]

/-- A project that is added again is not changed. -/
theorem addProject_addProject (w : Warehouse) (id : String) (title : Option String) :
    (w.addProject id title).addProject id title = w.addProject id title := by
  simp only [addProject, putProject_putProject]

/-- A project that is made a part again is not changed, with both projects known and the link
there. -/
theorem addSubproject_addSubproject (w : Warehouse) (parent child : String) :
    (w.addSubproject parent child).addSubproject parent child = w.addSubproject parent child := by
  have projects : (w.addSubproject parent child).projects
      = putProject child none (putProject parent none w.projects) := by
    unfold addSubproject
    dsimp only
    split <;> rfl
  have parts := w.hasPart_addSubproject parent child
  generalize w.addSubproject parent child = w' at projects parts
  have whole : parent ∈ w'.projects.map (·.id) := by
    rw [projects]
    exact mem_ids_putProject_iff.2 (.inr (mem_ids_putProject_iff.2 (.inl rfl)))
  have part : child ∈ w'.projects.map (·.id) := by
    rw [projects]
    exact mem_ids_putProject_iff.2 (.inl rfl)
  rw [addSubproject, addProject_of_known whole, addProject_of_known part]
  exact if_pos parts

/-- A project that is given a repository again is not changed. -/
theorem addProjectRepository_addProjectRepository (w : Warehouse) (project : String)
    (source : Source) (repository : Int) :
    (w.addProjectRepository project source repository).addProjectRepository project source
      repository = w.addProjectRepository project source repository := by
  have projects : (w.addProjectRepository project source repository).projects
      = putProject project none w.projects := by
    unfold addProjectRepository
    dsimp only
    split <;> rfl
  have attached : ⟨project, source, repository⟩
      ∈ (w.addProjectRepository project source repository).projectRepositories := by
    unfold addProjectRepository
    dsimp only
    split
    · assumption
    · exact List.mem_append_right _ (List.mem_singleton.2 rfl)
  generalize w.addProjectRepository project source repository = w' at projects attached
  have known : project ∈ w'.projects.map (·.id) := by
    rw [projects]
    exact mem_ids_putProject_iff.2 (.inl rfl)
  rw [addProjectRepository, addProject_of_known known]
  exact if_pos attached

/-- A place that is given is kept. -/
theorem uri_nameRepository (w : Warehouse) (name : String) (uri : Option String) :
    ∀ r ∈ (w.nameRepository name uri).2.repositories, r.name = name → uri.or r.uri = r.uri := by
  unfold nameRepository
  split
  · intro r hr named
    obtain ⟨q, _, rfl⟩ := List.mem_map.1 hr
    by_cases same : q.name = name
    · rw [if_pos same, ← Option.or_assoc, Option.or_self]
    · rw [if_neg same] at named
      exact absurd named same
  · rename_i unknown
    intro r hr named
    rcases List.mem_append.1 hr with before | new
    · exact absurd (beq_iff_eq.2 named) (List.find?_eq_none.1 unknown r before)
    · rw [List.mem_singleton.1 new, Option.or_self]

/-- A repository that is named again is found, and its place is the one that is given. -/
theorem nameRepository_nameRepository (w : Warehouse) (name : String) (uri : Option String) :
    (w.nameRepository name uri).2.nameRepository name uri = w.nameRepository name uri := by
  obtain ⟨number, places⟩ := w.places_nameRepository name uri
  have known : entityId? ((w.nameRepository name uri).2.places .scm) name
      = some (w.nameRepository name uri).1 := by
    rw [places, number]
    exact entityId?_putEntity _ name
  exact nameRepository_of_known known (w.uri_nameRepository name uri)

/-- **An operation that loads reference data changes nothing when it is repeated**, and gives the
same number, unless it enrolls somebody. -/
theorem perform_perform {step : LoadStep} (reference : step.reference)
    (once : step.enrolls = false) (w : Warehouse) :
    step.perform (step.perform w).2 = step.perform w := by
  cases step with
  | addIdentity id source uuid name =>
    exact congrArg (Except.ok none, ·) (w.addIdentity_addIdentity id source uuid name)
  | setBot uuid isBot => exact congrArg (Except.ok none, ·) (w.setBot_setBot uuid isBot)
  | nameGroup kind name =>
    exact congrArg LoadStep.perform.numbered (w.nameGroup_nameGroup kind name)
  | addProject id title => exact congrArg (Except.ok none, ·) (w.addProject_addProject id title)
  | addSubproject parent child =>
    exact congrArg (Except.ok none, ·) (w.addSubproject_addSubproject parent child)
  | addProjectRepository project source repository =>
    exact congrArg (Except.ok none, ·)
      (w.addProjectRepository_addProjectRepository project source repository)
  | nameRepository name uri =>
    exact congrArg LoadStep.perform.numbered (w.nameRepository_nameRepository name uri)
  | nameTracker url => exact congrArg LoadStep.perform.numbered (w.nameTracker_nameTracker url)
  | addEnrollment => cases once
  | insertCommit | insertIssue | insertChange | storeSetting => cases reference

/-- One more membership. -/
def enroll (w : Warehouse) (n : Enrollment) : Warehouse :=
  { w with enrollments := w.enrollments ++ [n] }

/-- No group changes by a membership. -/
@[simp]
theorem entities_enroll (w : Warehouse) (n : Enrollment) (kind : Affiliation) :
    (w.enroll n).entities kind = w.entities kind := by
  cases kind <;> rfl

/-- The next membership of a person in a group. -/
def membership (w : Warehouse) (uuid : String) (kind : Affiliation) (target : Int)
    (start stop : Option String) : Enrollment :=
  ⟨nextId (w.enrollments.map (·.id)), uuid, kind, target, start.getD earliest, stop.getD latest⟩

/-- A person who is known and joins a group that is known has one more membership, and nothing else
changes. -/
theorem addEnrollment_of_known {uuid : String} {kind : Affiliation} {name : String} {target : Int}
    (person : w.hasPerson uuid) (group : entityId? (w.entities kind) name = some target)
    (start stop : Option String) :
    w.addEnrollment uuid kind name start stop
      = (.ok (w.membership uuid kind target start stop).id,
          w.enroll (w.membership uuid kind target start stop)) := by
  rw [addEnrollment, nameGroup_of_known group]
  exact if_pos person

/-- Only a known person is enrolled. -/
theorem hasPerson_of_enrolled {uuid : String} {kind : Affiliation} {name : String}
    {start stop : Option String} {id : Int}
    (enrolled : (w.addEnrollment uuid kind name start stop).1 = .ok id) :
    (w.nameGroup kind name).2.hasPerson uuid := by
  unfold addEnrollment at enrolled
  dsimp only at enrolled
  split at enrolled
  · assumption
  · cases enrolled

/-- **An enrollment that is repeated** finds the group in place and adds the membership once more,
under another number. -/
theorem addEnrollment_again {uuid : String} {kind : Affiliation} {name : String}
    {start stop : Option String} {id : Int}
    (enrolled : (w.addEnrollment uuid kind name start stop).1 = .ok id) :
    ∃ w₁ : Warehouse, ∃ n ∈ w₁.enrollments, ∃ again : Int,
      w.addEnrollment uuid kind name start stop = (.ok id, w₁) ∧
      w₁.addEnrollment uuid kind name start stop
        = (.ok again, w₁.enroll { n with id := again }) := by
  have person := hasPerson_of_enrolled enrolled
  have known := w.entityId?_nameGroup kind name
  -- the group may as well be named before
  have named : w.addEnrollment uuid kind name start stop
      = (w.nameGroup kind name).2.addEnrollment uuid kind name start stop := by
    rw [addEnrollment, addEnrollment, nameGroup_nameGroup]
  rw [named] at enrolled ⊢
  generalize (w.nameGroup kind name).2 = w', (w.nameGroup kind name).1 = target
    at person known enrolled
  have first := addEnrollment_of_known person known start stop
  have second := addEnrollment_of_known (w := w'.enroll (w'.membership uuid kind target start stop))
    person ((entities_enroll ..).symm ▸ known) start stop
  rw [first] at enrolled ⊢
  cases enrolled
  exact ⟨_, w'.membership uuid kind target start stop,
    List.mem_append_right _ (List.mem_singleton.2 rfl), _, rfl, second⟩

end Warehouse

end ActivityMetrics
