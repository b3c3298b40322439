import ActivityMetrics.Filter.Basic
import ActivityMetrics.Warehouse.Load

/-!
# Settings

The warehouse keeps a few settings that stand in where a request says nothing: the period of a
series, the limit of a ranking, and the change that closes an issue. A setting is checked before it
is stored, so that it can be used later. Settings that were stored without a check may fail when
they are used, with the exception of the closing condition, which falls back on the standard one.
-/

namespace ActivityMetrics

namespace Settings

/-- The name of the period of a series. -/
def periodKey : String := "default_period"

/-- The name of the limit of a ranking. -/
def limitKey : String := "default_limit"

/-- The name of the field of the closing condition. -/
def closingFieldKey : String := "its.closed_field"

/-- The name of the values of the closing condition. -/
def closingValuesKey : String := "its.closed_values"

/-- The names of all settings. -/
def keys : List String :=
  [periodKey, limitKey, closingFieldKey, closingValuesKey]

/-- Checks that a setting is known and that its value can be used. -/
def check (key value : String) : Outcome Unit :=
  if key = periodKey then (Period.ofName value).map fun _ => ()
  else if key = limitKey then
    if (Text.readNat32? value.toList).isSome then .ok ()
    else .error (.setting (.notANumber key value))
  else if key = closingFieldKey ∨ key = closingValuesKey then
    if (Text.trim value).isEmpty then .error (.setting (.empty key)) else .ok ()
  else .error (.setting (.unknownKey key))

/-- Stores a setting that passes the check. -/
def store (w : Warehouse) (key value : String) : Warehouse.Loaded Unit :=
  match check key value with
  | .ok () => (.ok (), w.storeSetting key value)
  | .error e => (.error e, w)

/-- The period of a series, if one is set. -/
def period (w : Warehouse) : Outcome (Option Period) :=
  match w.setting? periodKey with
  | none => .ok none
  | some name => (Period.ofName name).map some

/-- The limit of a ranking, if one is set. -/
def limit (w : Warehouse) : Outcome (Option Nat) :=
  match w.setting? limitKey with
  | none => .ok none
  | some value =>
    match Text.readNat32? value.toList with
    | some n => .ok (some n)
    | none => .error (.setting (.storedLimit value))

/-- The closing condition, if a part of it is set. The other part, and values of which none can be
used, are those of the standard condition. -/
def closing (w : Warehouse) : Option ClosingCondition :=
  match w.setting? closingFieldKey, w.setting? closingValuesKey with
  | none, none => none
  | field, values =>
    let entries := values.elim [] Text.listEntries
    some {
      field := field.getD ClosingCondition.standard.field
      values := if entries.isEmpty then ClosingCondition.standard.values else entries }

end Settings

end ActivityMetrics
