import ActivityMetrics.Proofs.Warehouse.Load

/-!
# What is known by name

Groups of each kind, repositories and trackers are known by name and told apart by number. Each of
these five *directories* changes in one way only: a name that is new is added at the end, with the
next number (`Warehouse.entries_eq_or_putEntity_of_edit`). So in a directory of a reachable
warehouse no two entries share a name or a number, an entry is never lost, and a name keeps its
number through everything that is loaded later (`Warehouse.Reachable.sound`,
`Warehouse.entries_isPrefix_load`).

That a name is found again under its number needs less than one would think, and that different
names have different numbers needs more. The first holds of any list of entries, as the first entry
of a name is found and stays the first when others come behind it. The second needs that all numbers
differ, which is true of what operations have built and of nothing else. Repositories are kept apart
from the other four, since they also have a place; their directory is what remains of them without
it.
-/

namespace ActivityMetrics

/-! ## Entries

The lemmas before `Sound` hold of any list of entries, also of one with repeats. -/

namespace Warehouse

variable {es es' : List Entity} {name other : String} {id : Int}

/-- A name that has a number is that of an entry. -/
theorem mem_of_entityId?_eq (h : entityId? es name = some id) : ⟨id, name⟩ ∈ es := by
  obtain ⟨g, first, rfl⟩ := Option.map_eq_some_iff.1 h
  have named := List.find?_some first
  rw [← beq_iff_eq.1 named]
  exact List.mem_of_find?_eq_some first

/-- A name that has no number is that of no entry. -/
theorem not_mem_of_entityId?_eq_none (h : entityId? es name = none) :
    name ∉ es.map (·.name) := by
  intro there
  obtain ⟨g, hg, same⟩ := List.mem_map.1 there
  exact List.find?_eq_none.1 (Option.map_eq_none_iff.1 h) g hg (beq_iff_eq.2 same)

/-- A name is found where it was found before more names were added. -/
theorem entityId?_of_isPrefix (more : es <+: es') (h : entityId? es name = some id) :
    entityId? es' name = some id := by
  obtain ⟨new, rfl⟩ := more
  obtain ⟨g, first, rfl⟩ := Option.map_eq_some_iff.1 h
  rw [entityId?, List.find?_append, first]
  rfl

/-- To put a name takes no entry away and moves none. -/
theorem isPrefix_putEntity (es : List Entity) (name : String) : es <+: (putEntity es name).2 := by
  unfold putEntity
  split
  · exact List.prefix_refl es
  · exact List.prefix_append es _

/-- A name that is known gives its number, and nothing is added. -/
theorem putEntity_of_known (h : entityId? es name = some id) : putEntity es name = (id, es) := by
  rw [putEntity, h]

/-- **A name that is put is found afterwards**, under the number that was given for it. -/
theorem entityId?_putEntity (es : List Entity) (name : String) :
    entityId? (putEntity es name).2 name = some (putEntity es name).1 := by
  cases known : entityId? es name with
  | some id => rw [putEntity_of_known known, known]
  | none =>
    rw [putEntity, known]
    dsimp only
    rw [entityId?, List.find?_append, Option.map_eq_none_iff.1 known, Option.none_or,
      List.find?_cons, beq_self_eq_true]
    rfl

/-- Numbers that differ go on to differ, as a new name has the next number. -/
theorem nodup_putEntity (h : (es.map (·.id)).Nodup) (name : String) :
    ((putEntity es name).2.map (·.id)).Nodup := by
  unfold putEntity
  split
  · exact h
  · rw [List.map_append]
    exact nodup_append_nextId h

/-- Names and numbers of entities are in one-to-one relation. Either half alone is kept too, but it
takes both for numbers to tell names apart. -/
structure Sound (es : List Entity) : Prop where
  /-- The entities have different numbers. -/
  ids : (es.map (·.id)).Nodup
  /-- The entities have different names. -/
  names : (es.map (·.name)).Nodup

/-- Sound entities stay so when a name is put. A name that is there is not put a second time. -/
theorem Sound.putEntity (h : Sound es) (name : String) : Sound (putEntity es name).2 := by
  refine ⟨nodup_putEntity h.ids name, ?_⟩
  unfold Warehouse.putEntity
  split
  · exact h.names
  · rename_i new
    rw [List.map_append, List.nodup_append]
    refine ⟨h.names, List.pairwise_singleton _ _, fun n hn n' hn' same => ?_⟩
    have own : n = name := same.trans (List.mem_singleton.1 hn')
    exact not_mem_of_entityId?_eq_none new (own ▸ hn)

/-- **A number belongs to one name.** -/
theorem Sound.name_unique (h : Sound es) (hn : entityId? es name = some id)
    (ho : entityId? es other = some id) : other = name :=
  congrArg Entity.name (List.inj_on_of_nodup_map h.ids (mem_of_entityId?_eq ho)
    (mem_of_entityId?_eq hn) rfl)

/-- **A name that is put has the number of another** exactly when it is the same name. -/
theorem Sound.putEntity_eq_iff (h : Sound es) (known : entityId? es name = some id) :
    (Warehouse.putEntity es other).1 = id ↔ other = name := by
  constructor
  · intro same
    -- both names are found once the other one is put
    have found := entityId?_of_isPrefix (isPrefix_putEntity es other) known
    refine (h.putEntity other).name_unique found ?_
    rw [entityId?_putEntity, same]
  · rintro rfl
    rw [putEntity_of_known known]

end Warehouse

/-! ## Directories

The five lists differ in where they are kept and in what puts a name into them. What is true of them
is not, so it is stated for all at once. -/

/-- What is known by name and told apart by number. Numbers of different directories have nothing to
do with each other. -/
inductive Directory where
  /-- The groups of a kind. -/
  | groups (kind : Affiliation)
  /-- The repositories or the trackers. -/
  | places (source : Source)
deriving DecidableEq

namespace Warehouse

variable {w w' : Warehouse}

/-- The entries of a directory. -/
def entries (w : Warehouse) : Directory → List Entity
  | .groups kind => w.entities kind
  | .places source => w.places source

/-- The number of a repository is found in its record as in the directory. -/
theorem entityId?_places_scm (w : Warehouse) (name : String) :
    entityId? (w.places .scm) name = (w.repositories.find? (·.name == name)).map (·.id) := by
  show ((w.repositories.map _).find? _).map _ = _
  rw [List.find?_map, Option.map_map]
  rfl

/-- A repository is named as an entry of its directory is. The place that is given with the name
leaves no trace there. -/
theorem places_nameRepository (w : Warehouse) (name : String) (uri : Option String) :
    (w.nameRepository name uri).1 = (putEntity (w.places .scm) name).1 ∧
      (w.nameRepository name uri).2.places .scm = (putEntity (w.places .scm) name).2 := by
  unfold nameRepository putEntity
  rw [entityId?_places_scm]
  split
  · rename_i r found
    rw [found]
    refine ⟨rfl, ?_⟩
    show (w.repositories.map _).map _ = w.repositories.map _
    rw [List.map_map]
    refine List.map_congr_left fun q _ => ?_
    rw [Function.comp_apply]
    split <;> rfl
  · rename_i unknown
    rw [unknown]
    have ids : (w.places .scm).map (·.id) = w.repositories.map (·.id) := List.map_map
    refine ⟨congrArg nextId ids.symm, ?_⟩
    show (w.repositories ++ _).map _ = w.places .scm ++ _
    rw [List.map_append, ids]
    rfl

/-- **A directory changes only by a name that is put.** -/
theorem entries_eq_or_putEntity_of_edit (edit : w.Edit w') (d : Directory) :
    w'.entries d = w.entries d ∨ ∃ name, w'.entries d = (putEntity (w.entries d) name).2 := by
  cases edit with
  | group kind name =>
    cases d with
    | groups other =>
      by_cases same : other = kind
      · subst same
        exact .inr ⟨name, entities_setEntities_self w other _⟩
      · exact .inl (entities_setEntities_of_ne w same _)
    | places source => left; cases kind <;> cases source <;> rfl
  | repository name uri =>
    cases d with
    | groups kind => left; cases kind <;> rfl
    | places source =>
      cases source with
      | scm => exact .inr ⟨name, (w.places_nameRepository name uri).2⟩
      | its => exact .inl rfl
  | tracker url =>
    cases d with
    | groups kind => left; cases kind <;> rfl
    | places source =>
      cases source with
      | scm => exact .inl rfl
      | its => exact .inr ⟨url, rfl⟩
  | person | bot | link | enrollment | project | part | attachment | commit | issue | change
  | status | setting =>
    left
    cases d with
    | groups kind => cases kind <;> rfl
    | places source => cases source <;> rfl

/-- An edit takes no entry away and moves none. -/
theorem entries_isPrefix_of_edit (edit : w.Edit w') (d : Directory) :
    w.entries d <+: w'.entries d := by
  rcases entries_eq_or_putEntity_of_edit edit d with same | ⟨name, put⟩
  · exact same ▸ List.prefix_refl _
  · rw [put]
    exact isPrefix_putEntity _ name

/-- Numbers of entries that differ before an edit differ after it. -/
theorem nodup_ids_of_edit (edit : w.Edit w') (d : Directory)
    (h : ((w.entries d).map (·.id)).Nodup) : ((w'.entries d).map (·.id)).Nodup := by
  rcases entries_eq_or_putEntity_of_edit edit d with same | ⟨name, put⟩
  · rwa [same]
  · rw [put]
    exact nodup_putEntity h name

/-- **In a reachable warehouse the directories are sound.** -/
theorem Reachable.sound (h : w.Reachable) (d : Directory) : Sound (w.entries d) := by
  refine h.of_edit (P := fun w => Sound (w.entries d)) ?_ fun {w w'} sound edit => ?_
  · cases d with
    | groups kind => cases kind <;> exact ⟨List.nodup_nil, List.nodup_nil⟩
    | places source => cases source <;> exact ⟨List.nodup_nil, List.nodup_nil⟩
  · rcases entries_eq_or_putEntity_of_edit edit d with same | ⟨name, put⟩
    · rwa [same]
    · rw [put]
      exact sound.putEntity name

/-- **No entry is lost**, and the order of entries stays. -/
theorem entries_isPrefix_load (w : Warehouse) (steps : List LoadStep) (d : Directory) :
    w.entries d <+: (w.load steps).entries d :=
  (w.edits_load steps).of_edit (P := fun w' => w.entries d <+: w'.entries d)
    (fun before edit => before.trans (entries_isPrefix_of_edit edit d)) (List.prefix_refl _)

end Warehouse

/-! ## Names and their numbers

Three operations name something and say under which number. They do not read the number off a record
afterwards, so it has to be shown that it is the one that later operations find. -/

/-- The name that an operation gives the number of, with its directory. -/
def LoadStep.names : LoadStep → Option (Directory × String)
  | .nameGroup kind name => some (.groups kind, name)
  | .nameRepository name _ => some (.places .scm, name)
  | .nameTracker url => some (.places .its, url)
  | _ => none

namespace Warehouse

variable {w : Warehouse} {step : LoadStep} {d : Directory} {name : String}

/-- An operation that names something puts the name into its directory and gives the number. -/
theorem perform_of_names (h : step.names = some (d, name)) :
    (step.perform w).1 = .ok (some (putEntity (w.entries d) name).1) ∧
      (step.perform w).2.entries d = (putEntity (w.entries d) name).2 := by
  cases step with
  | nameGroup kind n =>
    cases h
    exact ⟨rfl, entities_setEntities_self w kind _⟩
  | nameRepository n uri =>
    cases h
    obtain ⟨number, places⟩ := w.places_nameRepository name uri
    exact ⟨congrArg (fun id => Except.ok (some id)) number, places⟩
  | nameTracker url =>
    cases h
    exact ⟨rfl, rfl⟩
  | _ => cases h

/-- The number that a name has been given is found at every later time. Nothing is asked of the
warehouse before, as the first entry of a name is the one that is found. -/
theorem entityId?_load_of_names (h : step.names = some (d, name)) (later : List LoadStep) :
    entityId? (((step.perform w).2.load later).entries d) name
      = some (putEntity (w.entries d) name).1 := by
  refine entityId?_of_isPrefix (entries_isPrefix_load _ later d) ?_
  rw [(perform_of_names h).2]
  exact entityId?_putEntity _ name

end Warehouse

end ActivityMetrics
