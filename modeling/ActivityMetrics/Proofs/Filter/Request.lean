import ActivityMetrics.Filter.Request
import ActivityMetrics.Proofs.Filter.Basic
import ActivityMetrics.Proofs.Outcome

/-!
# Which filters can be asked for

A request takes steps in any order, and the last step of a kind counts. So a request is known by
what its steps ask for last (`FilterRequest.steps_eq`), once arguments are replaced by the grouping
or the values that they are read as (`FilterStep.calls`). A filter is built from it exactly when
each of these parts can be used, and then every part of the filter is as it was asked for
(`FilterRequest.exists_askedFor_iff`).

Nothing is checked before the filter is built, apart from arguments. A step that cannot be used is
therefore no failure as long as a later one of its kind takes it back, and that is so for periods
and selections, for global pairs and for closing conditions. People and organizations to leave out
are the exception: they add up, and none of them can be wrong.

The two halves are kept apart. What the steps ask for is a question about lists, with a last member
for each kind; what can be used is a question about texts, one part at a time. So the parts of the
filter are read off without following the order in which the steps were taken.
-/

namespace ActivityMetrics

open Calendar

/-! ## What steps ask for

Steps are said to ask for parts of a filter. A step asks for one part, and arguments come down to a
step of another kind, so the parts can be looked at one by one. -/

namespace SelectionChoice

/-- The step that asks for a selection. -/
def step : SelectionChoice → FilterStep
  | .values names vs => .dimension names vs
  | .every names => .groupBy names

/-- The names of a selection, which are separated by commas. -/
def nameList : SelectionChoice → List String
  | .values names _ | .every names => Text.splitCommas names

/-- The values of a selection. A dimension that is to be broken down has none. -/
def valueList : SelectionChoice → List (Option String)
  | .values _ vs => vs.map some
  | .every _ => [none]

/-- There are as many values as names, and a single name if there are no values. Values belong to
names by position, and so a missing one would give the others to the wrong names. -/
def Counted : SelectionChoice → Prop
  | .values names vs => vs.length = (Text.splitCommas names).length
  | .every names => (Text.splitCommas names).length = 1

/-- Names and values are paired in order, every name as the dimension that it stands for. The
entries are determined by this, since a name stands for one dimension at most. -/
def Pairs (c : SelectionChoice) (entries : List (Dimension × Option String)) : Prop :=
  ∃ ds, List.Forall₂ (fun name d => Dimension.ofName name = .ok d) c.nameList ds ∧
    ds.length = c.valueList.length ∧ entries = ds.zip c.valueList

end SelectionChoice

namespace FilterStep

/-- The steps that a step comes down to. Arguments come down to the grouping or to the values that
they are read as, every other step to itself. No arguments come down to no step, so they leave an
earlier selection alone. -/
def calls : FilterStep → Outcome (List FilterStep)
  | .assignments args => do
    let choice ← FilterRequest.selectionOf (← Assignment.readAll args)
    return (choice.map SelectionChoice.step).toList
  | s => .ok [s]

/-- The period that a step asks for. -/
def period? : FilterStep → Option PeriodChoice
  | .period p => some (.fixed p)
  | .periodName name => some (.named name)
  | _ => none

/-- The selection that a step asks for. -/
def selection? : FilterStep → Option SelectionChoice
  | .dimension names values => some (.values names values)
  | .groupBy name => some (.every name)
  | _ => none

/-- The limit that a step asks for. -/
def limit? : FilterStep → Option Nat
  | .limit n => some n
  | _ => none

/-- The person that a step leaves out. -/
def actor? : FilterStep → Option String
  | .excludeActor uuid => some uuid
  | _ => none

/-- The organization that a step leaves out. -/
def organization? : FilterStep → Option String
  | .excludeOrganization name => some name
  | _ => none

/-- The global binding that a step asks for. -/
def global? : FilterStep → Option (String × String)
  | .global name value => some (name, value)
  | _ => none

/-- The closing condition that a step asks for. -/
def closing? : FilterStep → Option ClosingCondition
  | .closing condition => some condition
  | _ => none

/-- What steps ask for last. The question picks the steps of one kind, and all others do not
count. -/
def last {α : Type} (ask : FilterStep → Option α) (ss : List FilterStep) : Option α :=
  (ss.filterMap ask).getLast?

/-- Of two sequences of steps, the second one decides if it asks at all. -/
theorem last_append {α : Type} (ask : FilterStep → Option α) (ss ts : List FilterStep) :
    last ask (ss ++ ts) = (last ask ts).or (last ask ss) := by
  rw [last, List.filterMap_append, List.getLast?_append]
  rfl

end FilterStep

open FilterStep (last)

namespace FilterRequest

variable {r r' : FilterRequest} {f : Filter} {ss cs : List FilterStep} {start stop : Date}

/-- The request after steps none of which reads arguments. Every part has the last value that was
asked for, or else the one that it had. -/
def after (r : FilterRequest) (cs : List FilterStep) : FilterRequest :=
  { start := r.start
    stop := r.stop
    period := (last FilterStep.period? cs).getD r.period
    selection := (last FilterStep.selection? cs).or r.selection
    limit := (last FilterStep.limit? cs).or r.limit
    excludedActors := r.excludedActors ++ cs.filterMap FilterStep.actor?
    excludedOrganizations := r.excludedOrganizations ++ cs.filterMap FilterStep.organization?
    global := (last FilterStep.global? cs).or r.global
    closing := (last FilterStep.closing? cs).or r.closing }

/-- No steps change nothing. -/
theorem after_nil (r : FilterRequest) : r.after [] = r := by
  simp only [after, List.filterMap_nil, List.append_nil]
  rfl

/-- Steps may be taken in two goes. -/
theorem after_append (r : FilterRequest) (cs ds : List FilterStep) :
    r.after (cs ++ ds) = (r.after cs).after ds := by
  simp only [after, FilterStep.last_append, Option.getD_or, Option.or_assoc,
    List.filterMap_append, List.append_assoc]

/-- The step of a selection sets the selection. -/
theorem step_of_choice (r : FilterRequest) (c : SelectionChoice) :
    r.after [c.step] = { r with selection := some c } := by
  cases c <;>
    simp only [after, SelectionChoice.step, List.filterMap_cons, List.filterMap_nil,
      FilterStep.actor?, FilterStep.organization?, List.append_nil] <;>
    rfl

/-- A step asks for what the steps ask for that it comes down to. Only arguments can fail here, and
they do so when they are read. -/
theorem step_eq (r : FilterRequest) (s : FilterStep) : r.step s = s.calls.map r.after := by
  cases s with
  | assignments args =>
    show r.assign args = _
    rw [assign, FilterStep.calls]
    cases Assignment.readAll args with
    | error e => rfl
    | ok parsed =>
      show (selectionOf parsed >>= _) = (selectionOf parsed >>= _).map _
      cases selectionOf parsed with
      | error e => rfl
      | ok choice =>
        cases choice with
        | none => exact congrArg Except.ok r.after_nil.symm
        | some c => exact congrArg Except.ok (r.step_of_choice c).symm
  | _ =>
    refine congrArg Except.ok ?_
    simp only [after, List.filterMap_cons, List.filterMap_nil, FilterStep.actor?,
      FilterStep.organization?, List.append_nil]
    rfl

/-- **A request is known by the steps that its steps come down to.** The induction is on the steps,
and `after` takes the place of what the earlier ones have left behind. -/
theorem steps_eq (r : FilterRequest) (ss : List FilterStep) :
    r.steps ss = (ss.mapM FilterStep.calls).map fun parts => r.after parts.flatten := by
  induction ss generalizing r with
  | nil => exact congrArg Except.ok r.after_nil.symm
  | cons s ss ih =>
    rw [steps, List.foldlM_cons, step_eq, List.mapM_cons]
    cases s.calls with
    | error e => rfl
    | ok cs =>
      show (r.after cs).steps ss = _
      rw [ih]
      show _ = (ss.mapM FilterStep.calls >>= _).map _
      cases ss.mapM FilterStep.calls with
      | error e => rfl
      | ok parts => exact congrArg Except.ok (r.after_append cs parts.flatten).symm

/-! ## The parts of a filter

Each part is checked when the filter is built, and not when it is asked for. What a part has to
satisfy is stated of the part alone. -/

/-- Names are read as dimensions one by one, and all of them must be known. -/
theorem dimensions_eq_ok_iff {names : String} {ds : List Dimension} :
    dimensions names = .ok ds
      ↔ List.Forall₂ (fun name d => Dimension.ofName name = .ok d) (Text.splitCommas names) ds :=
  mapM_eq_ok_iff

theorem length_dimensions {names : String} {ds : List Dimension} (h : dimensions names = .ok ds) :
    ds.length = (Text.splitCommas names).length :=
  (dimensions_eq_ok_iff.1 h).length_eq.symm

/-- Names and values make a selection if there are as many of the one as of the other. -/
theorem resolve_values_iff {names : String} {vs : List String} {selection : Selection} :
    SelectionChoice.resolve (.values names vs) = .ok selection ↔
      ∃ ds, dimensions names = .ok ds ∧ vs.length = ds.length ∧
        selection = .bound (ds.zip vs) := by
  show (dimensions names >>= _) = _ ↔ _
  rw [bind_eq_ok_iff]
  refine exists_congr fun ds => and_congr_right fun _ => ?_
  by_cases counted : vs.length = ds.length
  · rw [if_pos counted]
    exact ⟨fun h => ⟨counted, (Except.ok.inj h).symm⟩, fun h => congrArg Except.ok h.2.symm⟩
  · rw [if_neg counted]
    exact iff_of_false nofun fun h => counted h.1

/-- A breakdown is by one dimension. -/
theorem resolve_every_iff {names : String} {selection : Selection} :
    SelectionChoice.resolve (.every names) = .ok selection ↔
      ∃ d, dimensions names = .ok [d] ∧ selection = .every d := by
  show (dimensions names >>= _) = _ ↔ _
  rw [bind_eq_ok_iff]
  constructor
  · rintro ⟨ds, known, h⟩
    split at h
    · rename_i d
      exact ⟨d, known, (Except.ok.inj h).symm⟩
    · cases h
  · rintro ⟨d, known, rfl⟩
    exact ⟨[d], known, rfl⟩

/-- A selection can be used when its names are known and its values are counted right. Values
themselves are never wrong, since any text may be the name of an item. -/
theorem exists_resolve_iff {c : SelectionChoice} :
    (∃ selection, SelectionChoice.resolve c = .ok selection) ↔
      (∀ name ∈ c.nameList, ∃ d, Dimension.ofName name = .ok d) ∧ c.Counted := by
  rw [show (∀ name ∈ c.nameList, ∃ d, Dimension.ofName name = .ok d) ↔ _ from
    exists_mapM_eq_ok_iff.symm]
  cases c with
  | values names vs =>
    simp only [resolve_values_iff]
    constructor
    · rintro ⟨_, ds, known, counted, _⟩
      exact ⟨⟨ds, known⟩, counted.trans (length_dimensions known)⟩
    · rintro ⟨⟨ds, known⟩, counted⟩
      exact ⟨_, ds, known, counted.trans (length_dimensions known).symm, rfl⟩
  | every names =>
    simp only [resolve_every_iff]
    constructor
    · rintro ⟨_, d, known, _⟩
      exact ⟨⟨[d], known⟩, (length_dimensions known).symm⟩
    · rintro ⟨⟨ds, known⟩, single⟩
      obtain ⟨d, rfl⟩ := List.length_eq_one_iff.1 ((length_dimensions known).trans single)
      exact ⟨_, d, known, rfl⟩

/-- **A selection pairs names and values in order.** -/
theorem resolve_eq_ok_iff {c : SelectionChoice} {selection : Selection} :
    SelectionChoice.resolve c = .ok selection ↔ c.Pairs selection.entries := by
  cases c with
  | values names vs =>
    have entries : ∀ ds : List Dimension,
        selection = .bound (ds.zip vs) ↔ selection.entries = ds.zip (vs.map some) := fun ds => by
      rw [List.zip_map_right]
      exact (Selection.entries_injective.eq_iff (b := .bound (ds.zip vs))).symm
    simp only [resolve_values_iff, dimensions_eq_ok_iff, entries]
    simp only [SelectionChoice.Pairs, SelectionChoice.valueList, List.length_map,
      SelectionChoice.nameList, eq_comm (a := vs.length)]
  | every names =>
    rw [resolve_every_iff]
    constructor
    · rintro ⟨d, known, rfl⟩
      exact ⟨[d], dimensions_eq_ok_iff.1 known, rfl, rfl⟩
    · rintro ⟨ds, known, single, same⟩
      obtain ⟨d, rfl⟩ := List.length_eq_one_iff.1 single
      exact ⟨d, dimensions_eq_ok_iff.2 known, Selection.entries_injective same⟩

/-- Without a period, buckets are months. -/
theorem resolve_period_iff {c : Option PeriodChoice} {p : Period} :
    PeriodChoice.resolve (c.getD (.fixed .month)) = .ok p ↔
      c.elim (p = .month) fun c => PeriodChoice.resolve c = .ok p := by
  cases c with
  | none => exact ⟨fun h => (Except.ok.inj h).symm, fun h => congrArg Except.ok h.symm⟩
  | some c => rfl

/-- Without a selection, nothing is bound. -/
theorem resolveSelection_eq_ok_iff {c : Option SelectionChoice} {selection : Selection} :
    resolveSelection c = .ok selection ↔
      c.elim (selection.entries = []) fun c => c.Pairs selection.entries := by
  cases c with
  | none =>
    show Except.ok (Selection.bound []) = _ ↔ selection.entries = (Selection.bound []).entries
    rw [Selection.entries_injective.eq_iff, Except.ok.injEq, eq_comm]
  | some c => exact resolve_eq_ok_iff

/-- A closing condition needs a value. -/
theorem checkClosing_eq_ok_iff {closing : Option ClosingCondition} :
    checkClosing closing = .ok () ↔ ∀ c, closing = some c → c.values ≠ [] := by
  cases closing with
  | none => exact iff_of_true rfl nofun
  | some c =>
    obtain ⟨field, values⟩ := c
    cases values with
    | nil => exact iff_of_false nofun fun h => h _ rfl rfl
    | cons v vs =>
      refine iff_of_true rfl ?_
      rintro _ ⟨⟩
      exact List.cons_ne_nil v vs

/-- The global pair needs a name that is known, and its value may be any text. -/
theorem resolveGlobal_eq_ok_iff {b : Option (String × String)}
    {global : Option (Dimension × String)} :
    resolveGlobal b = .ok global ↔
      b.elim (global = none) fun b =>
        ∃ d, Dimension.ofName b.1 = .ok d ∧ global = some (d, b.2) := by
  cases b with
  | none => exact ⟨fun h => (Except.ok.inj h).symm, fun h => congrArg Except.ok h.symm⟩
  | some b =>
    show (Dimension.ofName b.1 >>= _) = _ ↔ _
    rw [bind_eq_ok_iff]
    refine exists_congr fun d => and_congr_right fun _ => ?_
    exact ⟨fun h => (Except.ok.inj h).symm, fun h => congrArg Except.ok h.symm⟩

/-! ## Completion

A filter is built when all of its parts can be used. What remains is to say this of the steps, which
ask for some parts several times and for others not at all. -/

/-- A window alone makes a filter. -/
theorem build_plain (h : start < stop) : build { start, stop } = .ok (.plain start stop h) :=
  dif_pos h

/-- A filter is built from a request when each of its parts can be used. -/
theorem build_eq_ok_iff :
    r.build = .ok f ↔ f.start = r.start ∧ f.stop = r.stop ∧
      PeriodChoice.resolve r.period = .ok f.period ∧
      resolveSelection r.selection = .ok f.selection ∧ resolveGlobal r.global = .ok f.global ∧
      checkClosing r.closing = .ok () ∧ f.limit = r.limit ∧
      f.excludedActors = r.excludedActors ∧
      f.excludedOrganizations = r.excludedOrganizations ∧ f.closing = r.closing := by
  constructor
  · intro h
    unfold build at h
    split at h
    · obtain ⟨p, period, h⟩ := exists_of_bind_eq_ok h
      obtain ⟨selection, selects, h⟩ := exists_of_bind_eq_ok h
      obtain ⟨global, binds, h⟩ := exists_of_bind_eq_ok h
      obtain ⟨⟨⟩, closes, h⟩ := exists_of_bind_eq_ok h
      obtain rfl := Except.ok.inj h
      exact ⟨rfl, rfl, period, selects, binds, closes, rfl, rfl, rfl, rfl⟩
    · cases h
  · obtain ⟨start, stop, period, selection, limit, actors, organizations, global, closing⟩ := r
    rintro ⟨rfl, rfl, period, selects, binds, closes, rfl, rfl, rfl, rfl⟩
    rw [build, dif_pos f.start_lt_stop, period, selects, binds, closes]
    rfl

/-- A closing condition that has a value decides nothing about whether a filter is built. -/
theorem build_closing (r : FilterRequest) {closing : Option ClosingCondition}
    (closes : checkClosing closing = .ok ()) :
    build { r with closing }
      = (build { r with closing := none }).map fun f => { f with closing } := by
  by_cases window : r.start < r.stop
  · rw [build, dif_pos (show r.start < r.stop from window), build,
      dif_pos (show r.start < r.stop from window)]
    cases PeriodChoice.resolve r.period with
    | error e => rfl
    | ok period =>
      cases resolveSelection r.selection with
      | error e => rfl
      | ok selection =>
        cases resolveGlobal r.global with
        | error e => rfl
        | ok global =>
          show (checkClosing closing >>= _) = _
          rw [closes]
          rfl
  · rw [build, dif_neg (show ¬ r.start < r.stop from window), build,
      dif_neg (show ¬ r.start < r.stop from window)]
    rfl

/-- A filter is what steps ask for, part by part. If a part was not asked for, it is that of a plain
filter. -/
structure AskedFor (start stop : Date) (cs : List FilterStep) (f : Filter) : Prop where
  /-- The window begins on the first day. -/
  start_eq : f.start = start
  /-- The window ends before the second one. -/
  stop_eq : f.stop = stop
  /-- The period is the last one, or that of the last name, and a month otherwise. -/
  period : (last FilterStep.period? cs).elim (f.period = .month) fun c =>
    PeriodChoice.resolve c = .ok f.period
  /-- The selection pairs the last names and values, and restricts nothing otherwise. -/
  selection : (last FilterStep.selection? cs).elim (f.selection.entries = []) fun c =>
    c.Pairs f.selection.entries
  /-- The limit is the last one. -/
  limit : f.limit = last FilterStep.limit? cs
  /-- The people to leave out add up. -/
  excludedActors : f.excludedActors = cs.filterMap FilterStep.actor?
  /-- The organizations to leave out add up. -/
  excludedOrganizations : f.excludedOrganizations = cs.filterMap FilterStep.organization?
  /-- The global pair is the last one, with the dimension of its name. -/
  global : (last FilterStep.global? cs).elim (f.global = none) fun b =>
    ∃ d, Dimension.ofName b.1 = .ok d ∧ f.global = some (d, b.2)
  /-- The closing condition is the last one. -/
  closing : f.closing = last FilterStep.closing? cs
  /-- The closing condition has a value. -/
  closes : ∀ c, f.closing = some c → c.values ≠ []

/-- A filter can be built from steps, none of which reads arguments. The conditions are on the last
steps of their kinds; what was taken back does not occur. -/
structure Acceptable (start stop : Date) (cs : List FilterStep) : Prop where
  /-- The window holds a day. -/
  window : start < stop
  /-- If the last period is named, the name is known. -/
  period : ∀ name, last FilterStep.period? cs = some (.named name) →
    ∃ p, Period.ofName name = .ok p
  /-- All names of the last selection are known. -/
  names : ∀ c, last FilterStep.selection? cs = some c →
    ∀ name ∈ c.nameList, ∃ d, Dimension.ofName name = .ok d
  /-- The last selection has as many values as names, or a single name and no values. -/
  counted : ∀ c, last FilterStep.selection? cs = some c → c.Counted
  /-- The name of the last global pair is known. -/
  global : ∀ b, last FilterStep.global? cs = some b → ∃ d, Dimension.ofName b.1 = .ok d
  /-- The last closing condition has a value. -/
  closing : ∀ c, last FilterStep.closing? cs = some c → c.values ≠ []

/-- The filter that steps ask for. The window is given at the start, and no step changes it. -/
def requested (start stop : Date) (ss : List FilterStep) : Outcome Filter :=
  steps { start, stop } ss >>= build

/-- **A filter is built from steps when every part of it is as they ask for it.** Since the parts
determine the filter, there is one filter at most. -/
theorem build_after_eq_ok_iff :
    build (after { start, stop } cs) = .ok f ↔ AskedFor start stop cs f := by
  rw [build_eq_ok_iff]
  simp only [after, Option.or_none, List.nil_append, resolve_period_iff,
    resolveSelection_eq_ok_iff, resolveGlobal_eq_ok_iff, checkClosing_eq_ok_iff]
  constructor
  · rintro ⟨first, last, period, selection, global, closes, limit, actors, organizations, closing⟩
    exact ⟨first, last, period, selection, limit, actors, organizations, global, closing,
      closing ▸ closes⟩
  · rintro ⟨first, last, period, selection, limit, actors, organizations, global, closing, closes⟩
    exact ⟨first, last, period, selection, global, closing ▸ closes, limit, actors, organizations,
      closing⟩

/-- A filter is what is requested if all arguments can be read and each part is as they and the
other steps ask for it. -/
theorem requested_eq_ok_iff :
    requested start stop ss = .ok f ↔
      ∃ parts, ss.mapM FilterStep.calls = .ok parts ∧ AskedFor start stop parts.flatten f := by
  rw [requested, steps_eq, bind_eq_ok_iff]
  simp only [map_eq_ok_iff]
  constructor
  · rintro ⟨_, ⟨parts, read, rfl⟩, built⟩
    exact ⟨parts, read, build_after_eq_ok_iff.1 built⟩
  · rintro ⟨parts, read, asked⟩
    exact ⟨_, ⟨parts, read, rfl⟩, build_after_eq_ok_iff.2 asked⟩

/-- A period is found if its name is known. -/
theorem exists_period_iff {c : Option PeriodChoice} :
    (∃ p, c.elim (p = .month) fun c => PeriodChoice.resolve c = .ok p) ↔
      ∀ name, c = some (.named name) → ∃ p, Period.ofName name = .ok p := by
  cases c with
  | none => exact iff_of_true ⟨.month, rfl⟩ nofun
  | some c =>
    cases c with
    | fixed p => exact iff_of_true ⟨p, rfl⟩ nofun
    | named name =>
      constructor
      · rintro known _ ⟨⟩
        exact known
      · exact fun known => known name rfl

/-- A selection is found if its names are known and its values are counted right. -/
theorem exists_selection_iff {c : Option SelectionChoice} :
    (∃ s : Selection, c.elim (s.entries = []) fun c => c.Pairs s.entries) ↔
      ∀ choice, c = some choice →
        (∀ name ∈ choice.nameList, ∃ d, Dimension.ofName name = .ok d) ∧ choice.Counted := by
  cases c with
  | none => exact iff_of_true ⟨.bound [], rfl⟩ nofun
  | some c =>
    show (∃ s : Selection, c.Pairs s.entries) ↔ _
    simp only [← resolve_eq_ok_iff, exists_resolve_iff, Option.some.injEq, forall_eq']

/-- A global pair is found if its name is known. -/
theorem exists_global_iff {b : Option (String × String)} :
    (∃ global : Option (Dimension × String), b.elim (global = none) fun b =>
        ∃ d, Dimension.ofName b.1 = .ok d ∧ global = some (d, b.2)) ↔
      ∀ pair, b = some pair → ∃ d, Dimension.ofName pair.1 = .ok d := by
  cases b with
  | none => exact iff_of_true ⟨none, rfl⟩ nofun
  | some b =>
    constructor
    · rintro ⟨_, d, known, _⟩ _ ⟨⟩
      exact ⟨d, known⟩
    · intro known
      obtain ⟨d, known⟩ := known b rfl
      exact ⟨some (d, b.2), d, known, rfl⟩

/-- **Steps ask for a filter exactly when each of its parts can be used.** The parts do not depend
on each other, so a filter is found by finding them one by one. -/
theorem exists_askedFor_iff : (∃ f, AskedFor start stop cs f) ↔ Acceptable start stop cs := by
  constructor
  · rintro ⟨f, asked⟩
    have used := exists_selection_iff.1 ⟨f.selection, asked.selection⟩
    refine ⟨?_, exists_period_iff.1 ⟨f.period, asked.period⟩, fun c taken => (used c taken).1,
      fun c taken => (used c taken).2, exists_global_iff.1 ⟨f.global, asked.global⟩, ?_⟩
    · rw [← asked.start_eq, ← asked.stop_eq]
      exact f.start_lt_stop
    · rw [← asked.closing]
      exact asked.closes
  · intro ok
    obtain ⟨p, period⟩ := exists_period_iff.2 ok.period
    obtain ⟨selection, selects⟩ :=
      exists_selection_iff.2 fun c taken => ⟨ok.names c taken, ok.counted c taken⟩
    obtain ⟨global, binds⟩ := exists_global_iff.2 ok.global
    exact ⟨{ period := p, start, stop, start_lt_stop := ok.window, selection
             limit := last FilterStep.limit? cs
             excludedActors := cs.filterMap FilterStep.actor?
             excludedOrganizations := cs.filterMap FilterStep.organization?
             global, closing := last FilterStep.closing? cs },
      rfl, rfl, period, selects, rfl, rfl, rfl, binds, rfl, ok.closing⟩

/-- **Which filters can be asked for.** A filter is built from steps exactly when all arguments
among them can be read and the last period, selection, global pair and closing condition that they
ask for can be used. Every part of the filter then is as they ask for it. The parts of the filter
agree, also after any changes of its window, which change nothing else.

So the answer to a filter is an answer to what was asked, and an equivalence on the other side: no
filter is refused that could have been built. -/
theorem builds_exactly (start stop : Date) (ss : List FilterStep) :
    ((∃ f, requested start stop ss = .ok f) ↔
      ∃ parts, ss.mapM FilterStep.calls = .ok parts ∧ Acceptable start stop parts.flatten) ∧
    ∀ f, requested start stop ss = .ok f →
      (∃ parts, ss.mapM FilterStep.calls = .ok parts ∧ AskedFor start stop parts.flatten f) ∧
      ∀ g, f.Moves g → g.Coherent ∧
        g = { f with start := g.start, stop := g.stop, start_lt_stop := g.start_lt_stop } := by
  refine ⟨?_, fun f built =>
    ⟨requested_eq_ok_iff.1 built, fun g moved => ⟨g.coherent, Filter.eq_of_moves moved⟩⟩⟩
  simp only [requested_eq_ok_iff, ← exists_askedFor_iff]
  exact ⟨fun ⟨f, parts, read, asked⟩ => ⟨parts, read, f, asked⟩,
    fun ⟨parts, read, f, asked⟩ => ⟨f, parts, read, asked⟩⟩

/-- Steps that take back earlier ones: an unknown period and an unknown dimension, a closing
condition without a value, and a limit. -/
def overriding : List FilterStep :=
  [.periodName "hourly", .period .week, .groupBy "galaxy",
    .assignments ["repo = core", "org=Acme, Inc"], .global "Projects" "eclipse", .limit 3,
    .closing ⟨"status", []⟩, .assignments [], .limit 5, .closing ⟨"status", ["CLOSED"]⟩]

/-- **What is taken back does no harm.** The filter binds the two dimensions of the arguments, in a
window that is moved as well. -/
theorem builds_exactly_overriding :
    ∃ f g : Filter, requested ⟨20089, by decide, by decide⟩ ⟨20120, by decide, by decide⟩ overriding
        = .ok f ∧
      f.withWindow ⟨20120, by decide, by decide⟩ ⟨20148, by decide, by decide⟩ = .ok g ∧
      f.period = .week ∧ f.limit = some 5 ∧
      g.bindings = [(.repository, "core"), (.company, "Acme, Inc"), (.project, "eclipse")] := by
  obtain ⟨builds, each⟩ :=
    builds_exactly ⟨20089, by decide, by decide⟩ ⟨20120, by decide, by decide⟩ overriding
  have read : overriding.mapM FilterStep.calls = .ok
      [[.periodName "hourly"], [.period .week], [.groupBy "galaxy"],
        [.dimension "repository,company" ["core", "Acme, Inc"]], [.global "Projects" "eclipse"],
        [.limit 3], [.closing ⟨"status", []⟩], [], [.limit 5],
        [.closing ⟨"status", ["CLOSED"]⟩]] := rfl
  obtain ⟨f, built⟩ := builds.2 ⟨_, read,
    { window := by decide
      period := nofun
      names := by
        rintro _ ⟨⟩
        show ∀ name ∈ ["repository", "company"], _
        simp only [List.forall_mem_cons]
        exact ⟨⟨.repository, rfl⟩, ⟨.company, rfl⟩, nofun⟩
      counted := by
        rintro _ ⟨⟩
        rfl
      global := by
        rintro _ ⟨⟩
        exact ⟨.project, rfl⟩
      closing := by
        rintro _ ⟨⟩
        exact List.cons_ne_nil _ _ }⟩
  obtain ⟨⟨parts, same, asked⟩, chain⟩ := each f built
  obtain rfl := Except.ok.inj (read.symm.trans same)
  obtain ⟨ds, known, _, entries⟩ :
    (SelectionChoice.values "repository,company" ["core", "Acme, Inc"]).Pairs f.selection.entries :=
    asked.selection
  obtain rfl : [.repository, .company] = ds := Except.ok.inj (mapM_eq_ok_iff.2 known)
  obtain ⟨d, project, global⟩ := asked.global
  obtain rfl : .project = d := Except.ok.inj project
  have period : Except.ok Period.week = Except.ok f.period := asked.period
  have later : Date.day ⟨20120, by decide, by decide⟩ < Date.day ⟨20148, by decide, by decide⟩ := by
    decide
  obtain ⟨g, moved⟩ := f.exists_withWindow later
  obtain ⟨coherent, rest⟩ := chain g (.single ⟨_, _, moved⟩)
  refine ⟨f, g, built, moved, (Except.ok.inj period).symm, asked.limit, ?_⟩
  rw [coherent.bindings, rest]
  show List.filterMap _ f.selection.entries ++ f.global.toList = _
  rw [entries, global]
  rfl

end FilterRequest

end ActivityMetrics
