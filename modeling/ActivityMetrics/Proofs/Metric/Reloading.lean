import ActivityMetrics.Proofs.Metric.Exclusion
import ActivityMetrics.Proofs.Metric.Memberships
import ActivityMetrics.Proofs.Warehouse.Integrity
import ActivityMetrics.Proofs.Warehouse.Repetition

/-!
# Loads that no answer shows

Two kinds of loads leave a trace in the records and none in the answers. A failed enrollment makes
its group known. The group has a number that no membership of its kind leads to, since every
membership leads to a group that was known before, and so nobody belongs to it
(`Warehouse.answersAlike_of_error`). A repeated enrollment adds a membership that says the same as
one that is there, and every other operation that loads reference data changes nothing when it is
repeated (`Warehouse.answersAlike_again`).

Both are cases of memberships that say the same (`Warehouse.SameMemberships`). That relation was
made for them: it allows groups without members, which is the first case, and a membership under
several numbers, which is the second.

An enrolment is not a single change to the records. It names the group, and then it adds the
membership, which fails if the person is unknown. The group stays. What keeps it from being seen is
an invariant of loading, that the target of every membership is a group of its kind, for a group is
given a number that is new. Were there a membership without a group, the new group might get the
number that it leads to.
-/

namespace ActivityMetrics.Warehouse

variable {w : Warehouse}

/-! ## Failed operations

An operation that fails leaves the warehouse as it was, but for one that names a group first. -/

/-- **A group that is named has no members**, unless it was known before. The numbers of groups of
different kinds may be the same, and a membership leads to a group of its own kind. -/
theorem sameMemberships_nameGroup (h : w.Peopled) (kind : Affiliation) (name : String) :
    w.SameMemberships (w.nameGroup kind name).2 := by
  have enrollments : (w.nameGroup kind name).2.enrollments = w.enrollments := by
    cases kind <;> rfl
  refine ⟨?_, fun n hn => ⟨n.id, enrollments ▸ hn⟩, fun n hn => ⟨n.id, enrollments ▸ hn⟩,
    fun n hn g target => ?_⟩
  · cases kind <;> exact ⟨_, _, _, _, rfl⟩
  · rcases w.nameGroup_eq_or_append kind name with same | ⟨group, _, fresh, added⟩
    · rw [same]
    · rw [added]
      by_cases own : n.kind = kind
      · subst own
        rw [entities_setEntities_self, List.mem_append, List.mem_singleton]
        refine or_iff_left_of_imp fun new => ?_
        -- a membership leads to a group that was there before
        obtain ⟨before, there, leads⟩ := h.targets n hn
        refine absurd (List.mem_map.2 ⟨before, there, ?_⟩) fresh
        rw [leads, ← target, new]
      · rw [entities_setEntities_of_ne w own]

/-- **A failed operation shows in no answer.** Nothing changes but that a group may become known,
whose name and number are new among the groups of its kind.

The warehouse has been loaded; of an arbitrary one this would not hold. The first part says what the
trace is, so that it is not only invisible to the questions that are there: whatever else could be
asked, a single group without members is all there is to find. -/
theorem answersAlike_of_error (reachable : w.Reachable) {step : LoadStep} {fault : Failure}
    (failed : (step.perform w).1 = .error fault) :
    ((step.perform w).2 = w ∨
      ∃ (kind : Affiliation) (group : Entity), group.name ∉ (w.entities kind).map (·.name) ∧
        group.id ∉ (w.entities kind).map (·.id) ∧
        (step.perform w).2 = w.setEntities kind (w.entities kind ++ [group])) ∧
    w.AnswersAlike (step.perform w).2 := by
  rcases perform_of_error failed with same | ⟨kind, name, named⟩
  · rw [same]
    exact ⟨.inl rfl, .refl w⟩
  · rw [named]
    refine ⟨?_, (sameMemberships_nameGroup reachable.whole.people kind name).answersAlike⟩
    exact (w.nameGroup_eq_or_append kind name).imp_right fun added => ⟨kind, added⟩

/-- France is given the number that the guild has, but Ada does not belong to France. -/
theorem answersAlike_of_error_stranger :
    ((LoadStep.addEnrollment "bo" .country "France" none none).perform joiner).1
      = .error (.database .danglingReference) ∧
    ((LoadStep.addEnrollment "bo" .country "France" none none).perform joiner).2.countries
      = [⟨1, "France"⟩] ∧
    joiner.AnswersAlike
      ((LoadStep.addEnrollment "bo" .country "France" none none).perform joiner).2 := by
  have failed : ((LoadStep.addEnrollment "bo" .country "France" none none).perform joiner).1
      = .error (.database .danglingReference) := rfl
  exact ⟨failed, by decide, (answersAlike_of_error ⟨_, rfl⟩ failed).2⟩

/-! ## Repeated operations

Reference data are named, so that an operation that is repeated finds what it would add. Enrolments
have no name and are added again. -/

/-- **A membership that is there** says nothing new under another number. -/
theorem sameMemberships_enroll {n : Enrollment} (hn : n ∈ w.enrollments) (id : Int) :
    w.SameMemberships (w.enroll { n with id }) := by
  refine ⟨⟨_, _, _, _, rfl⟩, fun m hm => ⟨m.id, List.mem_append_left _ hm⟩, fun m hm => ?_,
    fun m _ g _ => by rw [entities_enroll]⟩
  rcases List.mem_append.1 hm with before | new
  · exact ⟨m.id, before⟩
  · rw [List.mem_singleton.1 new]
    exact ⟨n.id, hn⟩

/-- **An operation that loads reference data shows in no answer when it is repeated.** It succeeds
again. If it enrolls somebody, there is one more membership, which says the same as one before it.
Otherwise nothing changes, and its number is the same.

No condition is put on the warehouse, and the operation is only assumed to have succeeded once. The
repetition follows at once; what is loaded in between might change what it does. -/
theorem answersAlike_again {step : LoadStep} (reference : step.reference) {result : Option Int}
    (loaded : (step.perform w).1 = .ok result) :
    (step.enrolls = false → step.perform (step.perform w).2 = (.ok result, (step.perform w).2)) ∧
    (step.enrolls → ∃ n ∈ (step.perform w).2.enrollments, ∃ id,
      step.perform (step.perform w).2 = (.ok (some id), (step.perform w).2.enroll { n with id })) ∧
    (step.perform w).2.AnswersAlike (step.perform (step.perform w).2).2 := by
  -- only enrolments change anything when they are repeated
  cases once : step.enrolls with
  | false =>
    have same := perform_perform reference once w
    rw [same]
    exact ⟨fun _ => Prod.ext loaded rfl, nofun, .refl _⟩
  | true =>
    cases step with
    | addEnrollment uuid kind name start stop =>
      obtain ⟨id, enrolled⟩ := exists_eq_ok_of_numbers loaded
      obtain ⟨w₁, n, hn, again, first, second⟩ := addEnrollment_again enrolled
      have after : (LoadStep.addEnrollment uuid kind name start stop).perform w
          = (.ok (some id), w₁) := congrArg LoadStep.perform.numbers first
      have repeated : (LoadStep.addEnrollment uuid kind name start stop).perform w₁
          = (.ok (some again), w₁.enroll { n with id := again }) :=
        congrArg LoadStep.perform.numbers second
      rw [after, repeated]
      exact ⟨nofun, fun _ => ⟨n, hn, again, rfl⟩, (sameMemberships_enroll hn again).answersAlike⟩
    | _ => cases once

/-- Ada joins the guild again, and again. -/
def rejoining : LoadStep :=
  .addEnrollment "ada" .organization "guild" (some "2025-01-10") none

/-- The third membership of Ada shows no more than the second. -/
theorem answersAlike_again_rejoining :
    (rejoining.perform joiner).1 = .ok (some 2) ∧
    (rejoining.perform (rejoining.perform joiner).2).1 = .ok (some 3) ∧
    (rejoining.perform joiner).2.AnswersAlike
      (rejoining.perform (rejoining.perform joiner).2).2 := by
  have loaded : (rejoining.perform joiner).1 = .ok (some 2) := rfl
  exact ⟨loaded, rfl, (answersAlike_again rfl loaded).2.2⟩

end ActivityMetrics.Warehouse
