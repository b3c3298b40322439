import ActivityMetrics.Proofs.Filter.Request
import ActivityMetrics.Proofs.Text.Blank
import Mathlib.Data.String.Basic

/-!
# Filters from arguments

An argument is read as the name and the value that it spells, and the parts of an argument are
unique: the name ends where its letters end, and the value is what lies between white space
(`Assignment.split?_eq_some_iff`). A value may hold further equals signs, commas and white space
inside; only a line break is not allowed in it.

The dimensions of several arguments are joined to a single text of names, which is taken apart again
when the filter is built. This detour could lose something, as any text with separators could.
Nothing is lost, because only the names are joined and no name holds a comma; the values go along as
a list. So a filter is built when what was read is the list of entries of a selection, and this is
the selection of the filter (`FilterRequest.requested_assignments_eq_ok_iff`).

All that can go wrong is found in the arguments themselves. One of them does not spell anything, or
spells an unknown name, or one without a value stands beside others; no failure comes from joining.
-/

namespace ActivityMetrics

open Calendar

/-! ## What an argument spells

The reader takes parts off the front of an argument, one after another. What an argument spells is
said without it, and without any order among the parts; that the reader finds these parts and no
others is the content of `Assignment.split?_eq_some_iff`. -/

namespace Assignment

open Text

variable {s name value : String} {cs : List Char} {c : Char}

/-- An argument spells a name and a value, with white space around both. The relation describes the
whole argument, without an order in which its parts are found. -/
structure Spells (s name value : String) : Prop where
  /-- The name has a character. -/
  name_ne : name ≠ ""
  /-- The name is made of letters and underscores. -/
  letters : ∀ c ∈ name.toList, isNameChar c
  /-- The value has a character. -/
  value_ne : value ≠ ""
  /-- The value has no line break. -/
  line : '\n' ∉ value.toList
  /-- The value neither begins nor ends with white space. -/
  trimmed : Trimmed value.toList
  /-- The argument is the name, an equals sign and the value. -/
  parts : ∃ before between after behind, AllBlank before ∧ AllBlank between ∧ AllBlank after ∧
    AllBlank behind ∧
    s.toList = before ++ name.toList ++ between ++ '=' :: (after ++ value.toList ++ behind)

/-- No character of a name is white space. -/
theorem isBlank_of_isNameChar (h : isNameChar c) : isBlank c = false := by
  rcases Bool.or_eq_true_iff.1 h with letter | underscore
  · rcases Bool.or_eq_true_iff.1 letter with upper | lower
    · obtain ⟨low, high⟩ : 65 ≤ c.toNat ∧ c.toNat ≤ 90 := of_decide_eq_true upper
      exact isBlank_eq_false (by omega) (by omega)
    · obtain ⟨low, high⟩ := Bool.and_eq_true_iff.1 lower
      have low : 97 ≤ c.toNat := of_decide_eq_true low
      have high : c.toNat ≤ 122 := of_decide_eq_true high
      exact isBlank_eq_false (by omega) (by omega)
  · rw [of_decide_eq_true underscore]
    rfl

/-- White space and an equals sign are not part of a name. -/
theorem not_isNameChar_of_mem_head? {between rest : List Char} (blank : AllBlank between) :
    ∀ c ∈ (between ++ '=' :: rest).head?, ¬ isNameChar c := by
  intro c h letter
  cases between with
  | nil =>
    obtain rfl := Option.some.inj h
    cases letter
  | cons b between =>
    obtain rfl := Option.some.inj h
    have blank : isBlank b := blank b List.mem_cons_self
    rw [isBlank_of_isNameChar letter] at blank
    cases blank

/-- A name ends where its letters do, so the longest run of letters is the name and not more than
it. -/
theorem takeWhile_isNameChar {name rest : List Char} (letters : ∀ c ∈ name, isNameChar c)
    (stops : ∀ c ∈ rest.head?, ¬ isNameChar c) :
    (name ++ rest).takeWhile isNameChar = name ∧ (name ++ rest).dropWhile isNameChar = rest := by
  rw [List.takeWhile_append_of_pos letters, List.dropWhile_append_of_pos letters]
  cases rest with
  | nil => exact ⟨List.append_nil name, rfl⟩
  | cons c rest =>
    have stop : ¬ isNameChar c = true := stops c rfl
    rw [List.takeWhile_cons_of_neg stop, List.dropWhile_cons_of_neg stop]
    exact ⟨List.append_nil name, rfl⟩

/-- A value can be used if it has a character and no line break. -/
theorem usable_iff : ¬ (cs.isEmpty || cs.contains '\n') = true ↔ cs ≠ [] ∧ '\n' ∉ cs := by
  rw [Bool.not_eq_true, Bool.or_eq_false_iff, List.isEmpty_eq_false_iff, List.contains_eq_mem,
    decide_eq_false_iff_not]

/-- The parts of an argument, as they are taken off its front. It is halfway between the reader and
what is spelled: the reader is unfolded here and nowhere else. -/
theorem split?_eq_some_iff_front :
    split? cs = some (name, value) ↔
      name ≠ "" ∧ (dropBlank cs).takeWhile isNameChar = name.toList ∧
      ∃ rest, dropBlank ((dropBlank cs).dropWhile isNameChar) = '=' :: rest ∧
        trimChars rest = value.toList ∧ value ≠ "" ∧ '\n' ∉ value.toList := by
  unfold split?
  dsimp only
  split
  · rename_i c letters rest taken left
    rw [taken, left]
    constructor
    · intro h
      split at h
      · cases h
      · rename_i fits
        obtain ⟨named, valued⟩ := Prod.mk.inj (Option.some.inj h)
        rw [String.ofList_eq] at named valued
        obtain ⟨ne, line⟩ := usable_iff.1 fits
        rw [valued] at ne line
        refine ⟨mt String.toList_eq_nil_iff.2 ?_, named, rest, rfl, valued,
          mt String.toList_eq_nil_iff.2 ne, line⟩
        rw [← named]
        exact List.cons_ne_nil c letters
    · rintro ⟨_, named, _, ⟨⟩, valued, ne, line⟩
      rw [if_neg (usable_iff.2 (valued ▸ ⟨mt String.toList_eq_nil_iff.1 ne, line⟩)),
        String.ofList_eq.2 named, String.ofList_eq.2 valued]
  · rename_i misfit
    refine iff_of_false nofun ?_
    rintro ⟨ne, taken, rest, left, _⟩
    obtain ⟨c, letters, chars⟩ := List.exists_cons_of_ne_nil (mt String.toList_eq_nil_iff.1 ne)
    exact misfit c letters rest (taken.trans chars) left

/-- **An argument is split into what it spells.** Forward, each part that is taken off is put back
in its place; backward, each part is found because the next one begins with a character that cannot
belong to it. -/
theorem split?_eq_some_iff : split? s.toList = some (name, value) ↔ Spells s name value := by
  rw [split?_eq_some_iff_front]
  constructor
  · rintro ⟨name_ne, taken, rest, left, valued, value_ne, line⟩
    obtain ⟨before, blank, front, _⟩ := exists_dropBlank s.toList
    obtain ⟨between, blank_between, middle, _⟩ :=
      exists_dropBlank ((dropBlank s.toList).dropWhile isNameChar)
    obtain ⟨trimmed, after, behind, blank_after, blank_behind, last⟩ := trimChars_eq_iff.1 valued
    refine ⟨name_ne, taken ▸ List.all_eq_true.1 List.all_takeWhile, value_ne, line, trimmed, before,
      between, after, behind, blank, blank_between, blank_after, blank_behind, ?_⟩
    have name_rest := List.takeWhile_append_dropWhile (p := isNameChar) (l := dropBlank s.toList)
    rw [List.append_assoc, List.append_assoc, ← last, ← left, ← middle, ← taken, name_rest]
    exact front
  · rintro ⟨name_ne, letters, value_ne, line, trimmed, before, between, after, behind, blank,
      blank_between, blank_after, blank_behind, parts⟩
    obtain ⟨c, cs, chars⟩ := List.exists_cons_of_ne_nil (mt String.toList_eq_nil_iff.1 name_ne)
    have first : isBlank c = false := isBlank_of_isNameChar (letters c (chars ▸ List.mem_cons_self))
    have front : dropBlank s.toList
        = name.toList ++ (between ++ '=' :: (after ++ value.toList ++ behind)) := by
      rw [parts, List.append_assoc, List.append_assoc, dropBlank_append blank]
      exact dropBlank_eq_self (by rw [chars]; rintro _ ⟨⟩; exact first)
    have stops : ∀ c ∈ (between ++ '=' :: (after ++ value.toList ++ behind)).head?,
        ¬ isNameChar c := not_isNameChar_of_mem_head? blank_between
    obtain ⟨taken, left⟩ := takeWhile_isNameChar letters stops
    rw [front]
    refine ⟨name_ne, taken, after ++ value.toList ++ behind, ?_,
      trimChars_eq_iff.2 ⟨trimmed, after, behind, blank_after, blank_behind, rfl⟩, value_ne, line⟩
    rw [left, dropBlank_append blank_between]
    rfl

/-- What an argument spells is read, whether the name is known or not. -/
theorem read_of_spells (h : Spells s name value) :
    read s
      = (Dimension.ofName name).map fun d => (d, if value = "*" then none else some value) := by
  rw [read, split?_eq_some_iff.2 h]
  dsimp only
  cases Dimension.ofName name <;> rfl

/-- Nothing else is read. -/
theorem read_of_not_spells (h : ¬ ∃ name value, Spells s name value) :
    read s = .error (.filter (.assignment s)) := by
  have misfit : split? s.toList = none := by
    rw [Option.eq_none_iff_forall_ne_some]
    exact fun _ fits => h ⟨_, _, split?_eq_some_iff.1 fits⟩
  rw [read, misfit]

/-- A name stands for no dimension, in any spelling. -/
def Unknown (name : String) : Prop :=
  ∀ d, Dimension.ofName name ≠ .ok d

/-- A name that stands for no dimension is reported as it was normalized, for every source. -/
theorem ofName_eq_error_iff {e : Failure} :
    Dimension.ofName name = .error e ↔
      Unknown name ∧ e = .unsupportedDimension (normalName name) "any" := by
  unfold Unknown Dimension.ofName
  cases Dimension.ofNormalName? (normalName name) with
  | some d => exact iff_of_false nofun fun h => h.1 d rfl
  | none =>
    exact ⟨fun h => ⟨nofun, (Except.error.inj h).symm⟩, fun h => congrArg Except.error h.2.symm⟩

/-- **An argument is read as the dimension and the value that it spells.** An asterisk as the value
stands for none. -/
theorem read_eq_ok_iff {d : Dimension} {v? : Option String} :
    read s = .ok (d, v?) ↔ ∃ name value, Spells s name value ∧ Dimension.ofName name = .ok d ∧
      v? = if value = "*" then none else some value := by
  constructor
  · intro h
    by_cases spelled : ∃ name value, Spells s name value
    · obtain ⟨name, value, spells⟩ := spelled
      rw [read_of_spells spells, map_eq_ok_iff] at h
      obtain ⟨d, known, ⟨⟩⟩ := h
      exact ⟨name, value, spells, known, rfl⟩
    · rw [read_of_not_spells spelled] at h
      cases h
  · rintro ⟨name, value, spells, known, rfl⟩
    rw [read_of_spells spells, known]
    rfl

/-- An argument cannot be read because of the name, if it spells one that is unknown. -/
theorem read_eq_unsupported_iff {m scope : String} :
    read s = .error (.unsupportedDimension m scope) ↔
      ∃ name value, Spells s name value ∧ Unknown name ∧ m = normalName name ∧ scope = "any" := by
  constructor
  · intro h
    by_cases spelled : ∃ name value, Spells s name value
    · obtain ⟨name, value, spells⟩ := spelled
      rw [read_of_spells spells, map_eq_error_iff, ofName_eq_error_iff] at h
      exact ⟨name, value, spells, h.1, Failure.unsupportedDimension.inj h.2⟩
    · rw [read_of_not_spells spelled] at h
      cases h
  · rintro ⟨name, value, spells, unknown, rfl, rfl⟩
    rw [read_of_spells spells, map_eq_error_iff, ofName_eq_error_iff]
    exact ⟨unknown, rfl⟩

/-- An argument cannot be read because of its form, if it spells nothing. -/
theorem read_eq_malformed_iff {fault : FilterFault} :
    read s = .error (.filter fault) ↔
      (¬ ∃ name value, Spells s name value) ∧ fault = .assignment s := by
  constructor
  · intro h
    by_cases spelled : ∃ name value, Spells s name value
    · obtain ⟨name, value, spells⟩ := spelled
      rw [read_of_spells spells, map_eq_error_iff, ofName_eq_error_iff] at h
      cases h.2
    · rw [read_of_not_spells spelled] at h
      exact ⟨spelled, (Failure.filter.inj (Except.error.inj h)).symm⟩
  · rintro ⟨spelled, rfl⟩
    exact read_of_not_spells spelled

end Assignment

/-! ## What arguments select

From what was read to the selection, names and values go different ways. Names are joined to one
text, and taken apart again by the builder; values are put into a list. The two are put together by
position, so that a name lost on the way would shift all values behind it. -/

/-- Every dimension is found under its own name. -/
theorem Dimension.ofName_name (d : Dimension) : Dimension.ofName d.name = .ok d := by
  cases d <;> rfl

/-- No name of a dimension has a comma. On this rests that names can be joined. -/
theorem Dimension.comma_not_mem_name (d : Dimension) : ',' ∉ d.name.toList := by
  cases d <;> decide

namespace FilterRequest

variable {start stop : Date} {args : List String} {parsed : List (Dimension × Option String)}
  {selection : Selection}

/-- **Names that are joined are taken apart again**, and every name stands for its dimension. -/
theorem dimensions_intercalate {ds : List Dimension} (ne : ds ≠ []) :
    dimensions (String.intercalate "," (ds.map Dimension.name)) = .ok ds := by
  have names : Text.splitCommas (String.intercalate "," (ds.map Dimension.name))
      = ds.map Dimension.name :=
    Text.splitCommas_intercalate (mt List.map_eq_nil_iff.1 ne)
      (List.forall_mem_map.2 fun d _ => d.comma_not_mem_name)
  rw [dimensions_eq_ok_iff, names, List.forall₂_map_left_iff, List.forall₂_same]
  exact fun d _ => d.ofName_name

/-- A single name is taken apart as itself. -/
theorem dimensions_name (d : Dimension) : dimensions d.name = .ok [d] := by
  cases d <;> rfl

/-- Values alone are joined by their names. The first dimension is added without a comma, so the
list has one comma less than names. -/
theorem selectionOf_bound {pairs : List (Dimension × String)} (ne : pairs ≠ []) :
    selectionOf (Selection.bound pairs).entries
      = .ok (some (.values (String.intercalate "," (pairs.map fun p => p.1.name))
          (pairs.map Prod.snd))) := by
  unfold selectionOf
  split
  · rename_i empty
    exact absurd (List.map_eq_nil_iff.1 empty) ne
  · rename_i d single
    refine absurd ?_ (Selection.not_mem_entries_bound pairs (d := d))
    rw [single]
    exact List.mem_singleton.2 rfl
  · have valued : ¬ (Selection.bound pairs).entries.any (fun e => e.2.isNone) = true := by
      rw [Selection.entries, List.any_map]
      exact Bool.eq_false_iff.1 (List.any_eq_false.2 fun _ _ => Bool.false_ne_true)
    rw [if_neg valued, Selection.entries, List.map_map, List.filterMap_map]
    have values : pairs.filterMap (fun p => some p.2) = pairs.map Prod.snd :=
      congrFun List.filterMap_eq_map pairs
    exact congrArg (fun vs => Except.ok (some (SelectionChoice.values _ vs))) values

/-- **The entries of a selection select it.** This is the way from a selection to arguments and
back, and it holds for all selections, with names that occur twice as well. -/
theorem selectionOf_entries (selection : Selection) :
    selectionOf selection.entries >>= resolveSelection = .ok selection := by
  cases selection with
  | every d =>
    show SelectionChoice.resolve (.every d.name) = _
    rw [resolve_every_iff]
    exact ⟨d, dimensions_name d, rfl⟩
  | bound pairs =>
    by_cases empty : pairs = []
    · rw [empty]
      rfl
    · rw [selectionOf_bound empty]
      show SelectionChoice.resolve (.values _ _) = _
      have ne : pairs.map Prod.fst ≠ [] := mt List.map_eq_nil_iff.1 empty
      have names := dimensions_intercalate ne
      rw [List.map_map] at names
      refine resolve_values_iff.2 ⟨pairs.map Prod.fst, names, ?_, ?_⟩
      · rw [List.length_map, List.length_map]
      · rw [← List.zip_of_prod rfl rfl]

/-- Values are not mixed with an item that has none. -/
theorem selectionOf_mixed (several : 1 < parsed.length) {d : Dimension}
    (star : (d, none) ∈ parsed) : selectionOf parsed = .error (.filter .groupingNotAlone) := by
  unfold selectionOf
  split
  · cases star
  · cases Nat.lt_irrefl 1 several
  · exact if_pos (List.any_eq_true.2 ⟨_, star, rfl⟩)

/-- What was read is the list of entries of a selection, or an item without a value stands among
several. So there is nothing else that a selection cannot hold. -/
theorem exists_entries_eq_iff :
    (∃ selection : Selection, selection.entries = parsed) ↔
      ¬ (1 < parsed.length ∧ ∃ d, (d, none) ∈ parsed) := by
  constructor
  · rintro ⟨selection, rfl⟩ ⟨several, d, star⟩
    cases selection with
    | every d => exact Nat.lt_irrefl 1 several
    | bound pairs => exact Selection.not_mem_entries_bound pairs star
  · intro fits
    by_cases star : ∃ d, (d, none) ∈ parsed
    · obtain ⟨d, star⟩ := star
      have single : parsed.length = 1 :=
        Nat.le_antisymm (Nat.le_of_not_lt fun several => fits ⟨several, d, star⟩)
          (List.length_pos_of_mem star)
      obtain ⟨e, rfl⟩ := List.length_eq_one_iff.1 single
      obtain rfl := List.mem_singleton.1 star
      exact ⟨.every d, rfl⟩
    · have valued : ∀ e ∈ parsed, ∃ p : Dimension × String, e = (p.1, some p.2) := by
        rintro ⟨d, v⟩ there
        cases v with
        | none => exact absurd ⟨d, there⟩ star
        | some v => exact ⟨(d, v), rfl⟩
      obtain ⟨pairs, each⟩ := exists_forall₂_iff.2 valued
      refine ⟨.bound pairs, ?_⟩
      rw [Selection.entries, eq_comm, ← List.forall₂_eq_eq_eq, List.forall₂_map_right_iff]
      exact each

/-- **What was read selects itself**, if it is the list of entries of a selection. -/
theorem selectionOf_eq_ok_iff :
    selectionOf parsed >>= resolveSelection = .ok selection ↔ selection.entries = parsed := by
  constructor
  · intro selects
    by_cases fits : ∃ other : Selection, other.entries = parsed
    · obtain ⟨other, rfl⟩ := fits
      rw [selectionOf_entries other] at selects
      exact congrArg Selection.entries (Except.ok.inj selects).symm
    · rw [exists_entries_eq_iff, not_not] at fits
      obtain ⟨several, d, star⟩ := fits
      rw [selectionOf_mixed several star] at selects
      cases selects
  · rintro rfl
    exact selectionOf_entries selection

/-! ## Filters from arguments

The window is given, and arguments add the selection to it. Nothing else of a filter can be said by
them, so all other parts are as in a filter without arguments. -/

/-- Arguments are read, and what was read is selected in the window. -/
theorem assign_eq (args : List String) :
    assign { start, stop } args
      = (Assignment.readAll args >>= selectionOf).map fun choice =>
          { start, stop, selection := choice } := by
  unfold assign
  cases Assignment.readAll args with
  | error e => rfl
  | ok parsed =>
    show (selectionOf parsed >>= _) = (selectionOf parsed).map _
    cases selectionOf parsed with
    | error e => rfl
    | ok choice => cases choice <;> rfl

/-- A filter with a window and a selection is built if the selection can be. -/
theorem build_selection (window : start < stop) (choice : Option SelectionChoice) :
    build { start, stop, selection := choice }
      = (resolveSelection choice).map fun selection =>
          { Filter.plain start stop window with selection } := by
  rw [build, dif_pos (show start < stop from window)]
  show (resolveSelection choice >>= _) = _
  cases resolveSelection choice <;> rfl

/-- **Arguments select what was read**, and nothing else is asked for: all other parts are those of
a plain filter. -/
theorem requested_assignments_eq_ok_iff (window : start < stop) {f : Filter} :
    requested start stop [.assignments args] = .ok f ↔
      ∃ selection : Selection, Assignment.readAll args = .ok selection.entries ∧
        { Filter.plain start stop window with selection } = f := by
  have built : requested start stop [.assignments args]
      = (Assignment.readAll args >>= fun parsed => selectionOf parsed >>= resolveSelection).map
          fun selection => { Filter.plain start stop window with selection } := by
    show (assign { start, stop } args >>= pure) >>= build = _
    rw [assign_eq]
    cases Assignment.readAll args with
    | error e => rfl
    | ok parsed =>
      show ((selectionOf parsed).map _ >>= pure) >>= build = (selectionOf parsed >>= _).map _
      cases selectionOf parsed with
      | error e => rfl
      | ok choice => exact build_selection window choice
  rw [built, map_eq_ok_iff]
  refine exists_congr fun selection => and_congr_left fun _ => ?_
  rw [bind_eq_ok_iff]
  simp only [selectionOf_eq_ok_iff]
  exact ⟨fun ⟨_, read, same⟩ => same ▸ read, fun read => ⟨_, read, rfl⟩⟩

/-- No filter comes from arguments if one of them fails, or an item without a value stands among
several. -/
theorem requested_assignments_error_iff (window : start < stop) :
    (∃ e, requested start stop [.assignments args] = .error e) ↔
      (∃ a ∈ args, ∃ e, Assignment.read a = .error e) ∨
        (1 < args.length ∧ ∃ a ∈ args, ∃ d, Assignment.read a = .ok (d, none)) := by
  have result : (∃ f, requested start stop [.assignments args] = .ok f) ↔
      ∃ selection : Selection, Assignment.readAll args = .ok selection.entries := by
    simp only [requested_assignments_eq_ok_iff window]
    exact exists_result
  have fails : (∃ a ∈ args, ∃ e, Assignment.read a = .error e) ↔
      ¬ ∃ parsed, Assignment.readAll args = .ok parsed := by
    rw [Assignment.readAll, exists_mapM_eq_ok_iff]
    simp only [exists_error_iff, not_forall, exists_prop]
  rw [exists_error_iff, result]
  -- if all arguments can be read, what is left to go wrong is an item without a value beside others
  by_cases read : ∃ parsed, Assignment.readAll args = .ok parsed
  · obtain ⟨parsed, read⟩ := read
    have length : parsed.length = args.length := (mapM_eq_ok_iff.1 read).length_eq.symm
    have stars : (∃ d, (d, none) ∈ parsed) ↔
        ∃ a ∈ args, ∃ d, Assignment.read a = .ok (d, none) := by
      constructor
      · rintro ⟨d, star⟩
        obtain ⟨a, there, ok⟩ := (mem_iff_of_mapM read).1 star
        exact ⟨a, there, d, ok⟩
      · rintro ⟨a, there, d, ok⟩
        exact ⟨d, (mem_iff_of_mapM read).2 ⟨a, there, ok⟩⟩
    have selects : (∃ selection : Selection, Assignment.readAll args = .ok selection.entries) ↔
        ∃ selection : Selection, selection.entries = parsed := by
      simp only [read, Except.ok.injEq, eq_comm]
    rw [selects, exists_entries_eq_iff, not_not, length, stars, or_iff_right]
    exact fun failed => fails.1 failed ⟨parsed, read⟩
  · refine iff_of_true ?_ (.inl (fails.2 read))
    rintro ⟨selection, ok⟩
    exact read ⟨_, ok⟩

/-- **Arguments are read exactly, and survive the joining of their names.** An argument is read as
the dimension and the value that it spells; its name or its form is at fault if it cannot be read.
Values are selected as they were read, in their order, and a single `*` selects every item.

Reading is settled in both directions, so that each argument has one outcome and each outcome one
kind of argument. The filter is then settled by what was read: values alone, a single item without a
value, or nothing at all, and in every other case there is no filter. -/
theorem assignments_exactly :
    (∀ s : String,
      (∀ d v?, Assignment.read s = .ok (d, v?) ↔
        ∃ name value, Assignment.Spells s name value ∧ Dimension.ofName name = .ok d ∧
          v? = if value = "*" then none else some value) ∧
      (∀ m scope, Assignment.read s = .error (.unsupportedDimension m scope) ↔
        ∃ name value, Assignment.Spells s name value ∧ Assignment.Unknown name ∧
          m = normalName name ∧ scope = "any") ∧
      ∀ fault, Assignment.read s = .error (.filter fault) ↔
        (¬ ∃ name value, Assignment.Spells s name value) ∧ fault = .assignment s) ∧
    ∀ (start stop : Date) (window : start < stop) (args : List String),
      (∀ pairs : List (Dimension × String),
        List.Forall₂ (fun a p => Assignment.read a = .ok (p.1, some p.2)) args pairs →
          requested start stop [.assignments args]
            = .ok { Filter.plain start stop window with selection := .bound pairs }) ∧
      (∀ a d, args = [a] → Assignment.read a = .ok (d, none) →
        requested start stop [.assignments args]
          = .ok { Filter.plain start stop window with selection := .every d }) ∧
      (args = [] → requested start stop [.assignments args] = .ok (.plain start stop window)) ∧
      ((∃ e, requested start stop [.assignments args] = .error e) ↔
        (∃ a ∈ args, ∃ e, Assignment.read a = .error e) ∨
          (1 < args.length ∧ ∃ a ∈ args, ∃ d, Assignment.read a = .ok (d, none))) := by
  refine ⟨fun s => ⟨fun _ _ => Assignment.read_eq_ok_iff,
    fun _ _ => Assignment.read_eq_unsupported_iff, fun _ => Assignment.read_eq_malformed_iff⟩,
    fun start stop window args => ⟨fun pairs each => ?_, ?_, ?_,
      requested_assignments_error_iff window⟩⟩
  · have read : Assignment.readAll args = .ok (Selection.bound pairs).entries := by
      rw [Assignment.readAll, mapM_eq_ok_iff, Selection.entries, List.forall₂_map_right_iff]
      exact each
    exact (requested_assignments_eq_ok_iff window).2 ⟨_, read, rfl⟩
  · rintro a d rfl star
    have read : Assignment.readAll [a] = .ok (Selection.every d).entries :=
      mapM_eq_ok_iff.2 (.cons star .nil)
    exact (requested_assignments_eq_ok_iff window).2 ⟨_, read, rfl⟩
  · rintro rfl
    exact (requested_assignments_eq_ok_iff window).2 ⟨.bound [], rfl, rfl⟩

/-- **Commas and equals signs in values.** The white space around the names and the values is
dropped, and nothing else; and an item without a value does not stand beside others. -/
theorem assignments_exactly_separators :
    ∃ f g : Filter,
      requested ⟨20089, by decide, by decide⟩ ⟨20120, by decide, by decide⟩
        [.assignments ["repo = core", "\tORG=Acme, Inc = x\n"]] = .ok f ∧
      f.selection = .bound [(.repository, "core"), (.company, "Acme, Inc = x")] ∧
      requested ⟨20089, by decide, by decide⟩ ⟨20120, by decide, by decide⟩
        [.assignments [" countries = *"]] = .ok g ∧
      g.selection = .every .country ∧
      ∃ e, requested ⟨20089, by decide, by decide⟩ ⟨20120, by decide, by decide⟩
        [.assignments ["repo = core", " countries = *"]] = .error e := by
  have selected := assignments_exactly.2 ⟨20089, by decide, by decide⟩
    ⟨20120, by decide, by decide⟩ (by decide)
  have core : Assignment.read "repo = core" = .ok (.repository, some "core") := rfl
  have acme : Assignment.read "\tORG=Acme, Inc = x\n" = .ok (.company, some "Acme, Inc = x") := rfl
  have star : Assignment.read " countries = *" = .ok (.country, none) := rfl
  refine ⟨_, _, (selected _).1 [(.repository, "core"), (.company, "Acme, Inc = x")]
    (.cons core (.cons acme .nil)), rfl, (selected _).2.1 _ _ rfl star, rfl, ?_⟩
  exact (selected _).2.2.2.2
    (.inr ⟨by decide, _, List.mem_cons_of_mem _ List.mem_cons_self, _, star⟩)

end FilterRequest

end ActivityMetrics
