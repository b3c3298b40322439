import ActivityMetrics.CommandLine.Run
import ActivityMetrics.Proofs.Filter.Request
import ActivityMetrics.Proofs.Text.Blank
import ActivityMetrics.Proofs.Warehouse.Descriptions
import ActivityMetrics.Proofs.Warehouse.Repetition

/-!
# Settings can be used

A setting is checked where it is stored and read where it is used. Between the two lie other
settings, settings that were refused and records. As none of them touches it, a setting has the last
value that was accepted for it (`Session.setting?_changes`), and what was accepted for a setting can
be read as one (`Settings.exists_period_of_checked`, `Settings.exists_limit_of_checked`). So a
command that leaves out its period or its limit never fails for what was stored.

Records may also write settings, without a check. Where they do, period and limit may be any text,
and the statement about them is restricted to changes that do not.

The closing condition is not checked as a whole. It has values nevertheless, whatever texts are
stored (`Settings.usable_closing`), and so has what the arguments of a command make of it, since a
list without entries gives way to the values that were there before. So no filter is refused because
of its closing condition (`MetricArgs.build_closing`).
-/

namespace ActivityMetrics

/-! ## Changes of a session -/

namespace Session

/-- A change of a session. Records are among them since a session stores both in one warehouse, and
a record can be stored while a setting is refused. -/
inductive Change where
  /-- A setting is to be stored, if it passes the check. -/
  | setting (key value : String)
  /-- A load operation. -/
  | record (step : LoadStep)

/-- The session after a change, whether it succeeds or not. -/
def change (s : Session) : Change → Session
  | .setting key value => (s.store key value).2
  | .record step => (s.load step).2

/-- The session after changes. A change that fails is part of the history like any other. -/
def changes (s : Session) (cs : List Change) : Session :=
  cs.foldl change s

/-- The setting that a change stores, with its value, if it is accepted. -/
def stored? (s : Session) : Change → Option (String × String)
  | .setting key value =>
    match (s.store key value).1 with
    | .ok () => some (key, value)
    | .error _ => none
  | .record _ => none

/-- The settings that changes store, with their values, as they are accepted. What is accepted
depends on nothing but the texts, but it is asked of the session that the change finds. -/
def accepted (s : Session) : List Change → List (String × String)
  | [] => []
  | c :: cs => (s.stored? c).toList ++ (s.change c).accepted cs

/-- The last value that is accepted for a setting. A value that was refused later does not count. -/
def lastAccepted (s : Session) (cs : List Change) (key : String) : Option String :=
  ((s.accepted cs).filterMap fun e => if e.1 = key then some e.2 else none).getLast?

/-- A change stores no setting without a check. A load operation may write any setting, and what it
writes need not be one that can be read again. -/
def Change.Checked : Change → Prop
  | .record (.storeSetting ..) => False
  | _ => True

variable {s : Session} {c : Change} {cs : List Change} {key value : String}

/-! ### Connections that are up -/

theorem isUp_of_down (up : s.down = []) (p : Purpose) : s.isUp p := by
  rw [isUp, up]
  exact ite_self _

/-- A request that stays in the calendar is served, and leaves the connections up. That is the only
thing that could take one down. -/
theorem serve_of_up {α : Type} {request : Warehouse → Warehouse.Loaded α} (up : s.down = [])
    (p : Purpose) (calm : (request s.warehouse).1 ≠ .error .beyondCalendar) :
    s.serve p request
      = ((request s.warehouse).1, { s with warehouse := (request s.warehouse).2 }) := by
  rw [serve, if_pos (isUp_of_down up p)]
  split
  · rename_i beyond
    exact absurd (congrArg Prod.fst beyond) calm
  · rename_i same
    rw [same]

/-- What is asked and has an answer is answered. -/
theorem ask_of_ok {α : Type} {question : Warehouse → Outcome α} {a : α} (up : s.down = [])
    (h : question s.warehouse = .ok a) : (s.ask question).1 = .ok a := by
  rw [ask, serve_of_up up]
  · exact h
  · show question s.warehouse ≠ _
    rw [h]
    nofun

/-- A load operation stays in the calendar. -/
theorem load_of_up (up : s.down = []) (step : LoadStep) :
    s.load step
      = ((step.perform s.warehouse).1, { s with warehouse := (step.perform s.warehouse).2 }) := by
  refine serve_of_up up .records fun beyond => ?_
  cases Warehouse.fault_perform beyond

theorem store_of_up (up : s.down = []) (key value : String) :
    s.store key value = (Settings.check key value,
      { s with warehouse := (Settings.store s.warehouse key value).2 }) := by
  unfold store Settings.store
  cases Settings.check key value with
  | error e => rfl
  | ok => exact serve_of_up up .records nofun

/-- **A setting that is refused changes nothing**, since the check comes before the write. -/
theorem store_of_error {e : Failure} (refused : (s.store key value).1 = .error e)
    (up : s.down = []) : (s.store key value).2 = s := by
  rw [store_of_up up] at refused ⊢
  have refused : Settings.check key value = .error e := refused
  rw [Settings.store, refused]

theorem down_change (up : s.down = []) (c : Change) : (s.change c).down = [] := by
  cases c with
  | setting key value => rw [change, store_of_up up]; exact up
  | record step => rw [change, load_of_up up]; exact up

/-- No change brings a connection down. -/
theorem down_changes (up : s.down = []) (cs : List Change) : (s.changes cs).down = [] := by
  induction cs generalizing s with
  | nil => exact up
  | cons c cs ih => exact ih (down_change up c)

/-! ### The last value -/

/-- A setting has the value that a change gives it, or else the one that it had. -/
theorem setting?_change (up : s.down = []) (checked : c.Checked) (key : String) :
    (s.change c).warehouse.setting? key
      = ((s.stored? c).bind fun e => if e.1 = key then some e.2 else none).or
          (s.warehouse.setting? key) := by
  cases c with
  | setting k value =>
    rw [change, stored?, store_of_up up]
    show (Settings.store s.warehouse k value).2.setting? key = _
    unfold Settings.store
    cases Settings.check k value with
    | error e => rfl
    | ok => exact s.warehouse.setting?_storeSetting k value key
  | record step =>
    rw [change, load_of_up up]
    show (step.perform s.warehouse).2.setting? key = _
    rw [Warehouse.setting?_perform]
    cases step with
    | storeSetting => exact checked.elim
    | _ => rfl

theorem lastAccepted_cons (s : Session) (c : Change) (cs : List Change) (key : String) :
    s.lastAccepted (c :: cs) key = ((s.change c).lastAccepted cs key).or
      ((s.stored? c).bind fun e => if e.1 = key then some e.2 else none) := by
  rw [lastAccepted, accepted, List.filterMap_append, List.getLast?_append]
  refine congrArg (Option.or _) ?_
  cases s.stored? c with
  | none => rfl
  | some e =>
    show (List.filterMap _ [e]).getLast? = _
    rw [List.filterMap_cons, Option.bind_some]
    split <;> rename_i own <;> rw [own] <;> rfl

/-- **A setting has the last value that was accepted for it.** The induction is on the changes, from
the first one: the last value among the rest counts, or else the one that the first change
stored. -/
theorem setting?_changes (up : s.down = []) (checked : ∀ c ∈ cs, c.Checked) (key : String) :
    (s.changes cs).warehouse.setting? key
      = (s.lastAccepted cs key).or (s.warehouse.setting? key) := by
  induction cs generalizing s with
  | nil => rfl
  | cons c cs ih =>
    rw [List.forall_mem_cons] at checked
    rw [lastAccepted_cons, Option.or_assoc, ← setting?_change up checked.1]
    exact ih (down_change up c) checked.2

/-! ### What is accepted -/

theorem checked_of_stored? (h : s.stored? c = some (key, value)) :
    Settings.check key value = .ok () := by
  cases c with
  | record step => cases h
  | setting k v =>
    rw [stored?, store] at h
    cases passed : Settings.check k v with
    | error e =>
      rw [passed] at h
      cases h
    | ok =>
      rw [passed] at h
      split at h
      · obtain ⟨rfl, rfl⟩ := Prod.mk.inj (Option.some.inj h)
        exact passed
      · cases h

theorem checked_of_mem_accepted {e : String × String} (h : e ∈ s.accepted cs) :
    Settings.check e.1 e.2 = .ok () := by
  induction cs generalizing s with
  | nil => cases h
  | cons c cs ih =>
    rcases List.mem_append.1 h with first | rest
    · exact checked_of_stored? (Option.mem_toList.1 first)
    · exact ih rest

/-- What is accepted for a setting has passed its check. -/
theorem checked_of_lastAccepted (h : s.lastAccepted cs key = some value) :
    Settings.check key value = .ok () := by
  obtain ⟨e, accepted, own⟩ := List.mem_filterMap.1 (List.mem_of_getLast? h)
  split at own
  · rename_i same
    rw [← same, ← Option.some.inj own]
    exact checked_of_mem_accepted accepted
  · cases own

end Session

/-! ## What can be used -/

namespace Settings

open Text

variable {w : Warehouse} {value : String}

/-- **A text that is accepted for the period is the name of one.** The check and the reader ask the
same question, and where nothing is stored there is nothing to read. -/
theorem exists_period_of_checked
    (checked : ∀ value, w.setting? periodKey = some value → check periodKey value = .ok ()) :
    ∃ p, period w = .ok p := by
  unfold period
  cases stored : w.setting? periodKey with
  | none => exact ⟨none, rfl⟩
  | some value =>
    have named : (Period.ofName value).map (fun _ => ()) = .ok () := checked value stored
    obtain ⟨p, known, _⟩ := map_eq_ok_iff.1 named
    exact ⟨some p, map_eq_ok_iff.2 ⟨p, known, rfl⟩⟩

/-- **A text that is accepted for the limit is a number**, which the reader reads once more. -/
theorem exists_limit_of_checked
    (checked : ∀ value, w.setting? limitKey = some value → check limitKey value = .ok ()) :
    ∃ n, limit w = .ok n := by
  unfold limit
  cases stored : w.setting? limitKey with
  | none => exact ⟨none, rfl⟩
  | some value =>
    have counted : check limitKey value = .ok () := checked value stored
    rw [check, if_neg (by decide), if_pos rfl] at counted
    split at counted
    · rename_i number
      obtain ⟨n, read⟩ := Option.isSome_iff_exists.1 number
      dsimp only
      rw [read]
      exact ⟨some n, rfl⟩
    · cases counted

end Settings

/-- A closing condition has a value, and values that a field can take. The first is what a filter
asks for, the second what makes the condition match anything. -/
structure ClosingCondition.Usable (c : ClosingCondition) : Prop where
  /-- There is a value. -/
  values_ne : c.values ≠ []
  /-- The values are trimmed, and none of them is blank. -/
  values : ∀ v ∈ c.values, Text.trim v = v ∧ v ≠ ""

theorem ClosingCondition.usable_standard : standard.Usable where
  values_ne := List.cons_ne_nil _ _
  values := by decide

/-- The entries of a list take the place of usable values, if there are any. A list of blanks and
commas has none, so the values that were there remain. -/
theorem ClosingCondition.Usable.or_entries {base : ClosingCondition} (usable : base.Usable)
    (field : String) (values : Option String) :
    Usable ⟨field, if (values.elim [] Text.listEntries).isEmpty then base.values
      else values.elim [] Text.listEntries⟩ := by
  by_cases empty : (values.elim [] Text.listEntries).isEmpty
  · rw [if_pos empty]
    exact ⟨usable.values_ne, usable.values⟩
  · rw [if_neg empty]
    refine ⟨mt List.isEmpty_iff.2 empty, fun v there => ?_⟩
    cases values with
    | none => cases there
    | some values => exact Text.of_mem_listEntries there

/-- **A closing condition of any stored texts can be used.** Nothing has to be known of the texts,
not even that they were checked. -/
theorem Settings.usable_closing {w : Warehouse} {c : ClosingCondition} (h : closing w = some c) :
    c.Usable := by
  unfold closing at h
  split at h
  · cases h
  · obtain rfl := Option.some.inj h
    exact ClosingCondition.usable_standard.or_entries _ _

/-- The closing condition that the arguments of a command make of a stored one can be used. -/
theorem CommandLine.MetricArgs.usable_closing (args : CommandLine.MetricArgs) {w : Warehouse}
    {c : ClosingCondition} (h : args.closing (Settings.closing w) = some c) : c.Usable := by
  unfold closing at h
  split at h
  · obtain rfl := Option.some.inj h
    refine ClosingCondition.Usable.or_entries ?_ _ _
    cases stored : Settings.closing w with
    | none => exact ClosingCondition.usable_standard
    | some base => exact Settings.usable_closing stored
  · cases h

/-! ## The theorem -/

namespace Session

/-- **Settings can be used after any changes.** Without unchecked writes the period and the limit
can be read, and every setting has the last value that was accepted for it. Whatever was written, a
setting that is refused changes nothing, the closing condition can be read and used, and what a
command makes of it never stands in the way of a filter.

The session starts empty and the changes are any at all, so this speaks of every session that can be
reached. That a filter is not refused is said as an equation: with the closing condition the result
is the same as without it, apart from the condition itself. -/
theorem settings_usable {shared : Bool} {cs : List Change} {s : Session}
    (reached : changes { warehouse := .empty, shared } cs = s) :
    ((∀ c ∈ cs, c.Checked) →
      (∃ p, (s.ask Settings.period).1 = .ok p) ∧
      (∃ n, (s.ask Settings.limit).1 = .ok n) ∧
      ∀ key, s.warehouse.setting? key = lastAccepted { warehouse := .empty, shared } cs key) ∧
    (∀ key value e, (s.store key value).1 = .error e → (s.store key value).2 = s) ∧
    ∃ closing, (s.ask fun w => .ok (Settings.closing w)).1 = .ok closing ∧
      (∀ c, closing = some c → c.Usable) ∧
      ∀ (args : CommandLine.MetricArgs) (r : FilterRequest),
        FilterRequest.build { r with closing := args.closing closing }
          = (FilterRequest.build { r with closing := none }).map fun f =>
              { f with closing := args.closing closing } := by
  subst reached
  generalize opened : ({ warehouse := .empty, shared } : Session) = s₀
  -- no change takes a connection down, so each question reaches the warehouse
  have fresh : s₀.down = [] := by rw [← opened]
  have up : (s₀.changes cs).down = [] := down_changes fresh cs
  refine ⟨fun checked => ?_, fun key value e refused => store_of_error refused up,
    Settings.closing (s₀.changes cs).warehouse, ask_of_ok up rfl,
    fun c => Settings.usable_closing, fun args r => ?_⟩
  · have last : ∀ key, (s₀.changes cs).warehouse.setting? key = s₀.lastAccepted cs key := by
      intro key
      rw [setting?_changes fresh checked, ← opened]
      exact Option.or_none
    have passed : ∀ key value, (s₀.changes cs).warehouse.setting? key = some value →
        Settings.check key value = .ok () := fun key value stored =>
      checked_of_lastAccepted ((last key).symm.trans stored)
    obtain ⟨p, period⟩ := Settings.exists_period_of_checked (passed Settings.periodKey)
    obtain ⟨n, limit⟩ := Settings.exists_limit_of_checked (passed Settings.limitKey)
    exact ⟨⟨p, ask_of_ok up period⟩, ⟨n, ask_of_ok up limit⟩, last⟩
  · refine r.build_closing (FilterRequest.checkClosing_eq_ok_iff.2 fun c given => ?_)
    exact (args.usable_closing given).values_ne

/-- Settings that are accepted, refused and replaced, with a record between them. -/
def mixedChanges : List Change :=
  [.setting "default_period" "Weekly", .setting "its.closed_values" " , FIXED ,, DONE ",
    .record (.addSubproject "suite" "core"), .setting "default_period" "hourly",
    .setting "default_limit" "5", .setting "its.closed_values" "  ", .setting "default_limit" "25",
    .setting "colour" "red"]

/-- **What is accepted is read, and what is refused is not.** -/
theorem settings_usable_mixed :
    ∃ s : Session, changes { warehouse := .empty, shared := true } mixedChanges = s ∧
      (∀ c ∈ mixedChanges, c.Checked) ∧ (∃ n, (s.ask Settings.limit).1 = .ok n) ∧
      s.warehouse.setting? "default_period" = some "Weekly" ∧
      s.warehouse.setting? "default_limit" = some "25" ∧ s.warehouse.setting? "colour" = none ∧
      (s.store "default_limit" "many").2 = s ∧
      ∃ closing, (s.ask fun w => .ok (Settings.closing w)).1 = .ok closing ∧
        closing = some ⟨"status", ["FIXED", "DONE"]⟩ ∧ ∀ c, closing = some c → c.Usable := by
  obtain ⟨reads, refuses, closing, asked, usable, _⟩ :=
    settings_usable (rfl : changes { warehouse := .empty, shared := true } mixedChanges = _)
  have checked : ∀ c ∈ mixedChanges, c.Checked := by
    simp only [mixedChanges, List.forall_mem_cons, Change.Checked, List.not_mem_nil, true_and,
      false_implies, implies_true]
  obtain ⟨_, limit, last⟩ := reads checked
  have condition : Except.ok closing = Except.ok (some ⟨"status", ["FIXED", "DONE"]⟩) :=
    asked.symm.trans rfl
  exact ⟨_, rfl, checked, limit, (last _).trans rfl, (last _).trans rfl, (last _).trans rfl,
    refuses _ _ _ rfl, closing, asked, Except.ok.inj condition, usable⟩

end Session

end ActivityMetrics
