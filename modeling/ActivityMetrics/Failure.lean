import ActivityMetrics.Calendar.Reading
import ActivityMetrics.Dimension

/-!
# Failures

Every way in which a request can fail, as a cause. `Failure.message` is the one place where the
wording is decided; the prefix of a message names the family of the cause.
-/

namespace ActivityMetrics

open Calendar

/-- Why a filter, or a part of one, cannot be used. -/
inductive FilterFault where
  /-- A text is not a date. -/
  | date (text : String) (fault : Misreading)
  /-- A period has an unknown name. -/
  | period (name : String)
  /-- A number cannot be read. -/
  | number (what text : String)
  /-- A named window begins or ends with a day that does not exist. -/
  | noSuchDay (year : Int) (month day : Nat)
  /-- A rolling window has no day. -/
  | emptyRolling
  /-- A rolling window begins before the calendar. -/
  | rollingTooLong (days : Int)
  /-- A year does not have the week. -/
  | week (text : String)
  /-- A window has no known form. -/
  | window (text : String)
  /-- An argument is not of the form `dimension=value`. -/
  | assignment (text : String)
  /-- Grouping stands beside other arguments. -/
  | groupingNotAlone
  /-- A window does not begin before it ends. -/
  | emptyWindow (start stop : Date)
  /-- Grouping names several dimensions. -/
  | groupingArity (names : String)
  /-- Dimensions and values differ in number. -/
  | arity (dimensions : Nat) (names : String) (values : Nat)
  /-- A closing condition has no value. -/
  | noClosingValue
  /-- A trend has a window of no day. -/
  | emptyTrend
  /-- A trend reaches back before the calendar. -/
  | trendTooLong (days : Nat) (before : Date)

/-- The words for a fault of a filter. -/
def FilterFault.message : FilterFault → String
  | .date text fault => "invalid date '" ++ text ++ "': " ++ fault.message
  | .period name => "unsupported period: " ++ name
  | .number what text => "invalid " ++ what ++ ": " ++ text
  | .noSuchDay y m d => "invalid date " ++ toString y ++ "-" ++ toString m ++ "-" ++ toString d
  | .emptyRolling => "rolling window needs at least one day"
  | .rollingTooLong days => "rolling window of " ++ toString days ++ " days is out of range"
  | .week text => "invalid week: " ++ text
  | .window text => "unrecognized window: " ++ text
  | .assignment text => "expected dimension=value, got '" ++ text ++ "'"
  | .groupingNotAlone => "dimension=* cannot be combined with other filters"
  | .emptyWindow start stop =>
    "startdate " ++ start.text ++ " must be before enddate " ++ stop.text
  | .groupingArity names => "all-items mode needs a single dimension, got '" ++ names ++ "'"
  | .arity dimensions names values =>
    toString dimensions ++ " dimension(s) '" ++ names ++ "' but " ++ toString values ++ " value(s)"
  | .noClosingValue => "closed condition needs at least one value"
  | .emptyTrend => "trend window must be at least one day"
  | .trendTooLong days before =>
    toString days ++ " day(s) before " ++ before.text ++ " is out of range"

/-- Why a table of results does not have the promised shape. -/
inductive ShapeFault where
  /-- A row has more or fewer values than there are columns. -/
  | width (row values columns : Nat)
  /-- A column is absent. -/
  | missingColumn (name : String)
  /-- A total has more than one row. -/
  | severalRows (rows : Nat)
  /-- A bucket is named by something other than an integer. -/
  | bucketName (text : String)
  /-- A bucket lies outside the window. -/
  | bucketOutside (id : Int)
  /-- A bucket has two rows. -/
  | bucketRepeated (id : Int)
  /-- An item has several rows. -/
  | itemRepeated (key : String) (rows : Nat)
  /-- A field of a result is absent. -/
  | missingField (name : String)
  /-- A total has no value of its name. -/
  | missingScalar (name : String)
  /-- A grouped result has no list of items. -/
  | missingKeys (name : String)
  /-- A grouped result has no list of its name. -/
  | missingList (name : String)
  /-- Items and values differ in number. -/
  | keyCount (keys values : Nat) (name : String)
  /-- Two series over one window differ in length. -/
  | bucketCount (closed opened : Nat)

/-- The words for a fault of shape. -/
def ShapeFault.message : ShapeFault → String
  | .width row values columns =>
    "row " ++ toString row ++ " has " ++ toString values ++ " value(s) for " ++ toString columns
      ++ " column(s)"
  | .missingColumn name => "missing column '" ++ name ++ "'"
  | .severalRows rows => "aggregate returned " ++ toString rows ++ " rows"
  | .bucketName text => "bucket id '" ++ text ++ "' is not an integer"
  | .bucketOutside id => "bucket " ++ toString id ++ " is outside the window"
  | .bucketRepeated id => "bucket " ++ toString id ++ " appears twice"
  | .itemRepeated key rows => "key '" ++ key ++ "' appears in " ++ toString rows ++ " rows"
  | .missingField name => "missing field '" ++ name ++ "'"
  | .missingScalar name => "aggregate has no scalar '" ++ name ++ "'"
  | .missingKeys name => "aggregate has no key list '" ++ name ++ "'"
  | .missingList name => "aggregate has no list '" ++ name ++ "'"
  | .keyCount keys values name =>
    toString keys ++ " key(s) but " ++ toString values ++ " value(s) for '" ++ name ++ "'"
  | .bucketCount closed opened =>
    "closed has " ++ toString closed ++ " bucket(s), opened " ++ toString opened

/-- Why a setting cannot be stored or used. -/
inductive SettingFault where
  /-- A source has an unknown name. -/
  | source (name : String)
  /-- A setting has to be a number. -/
  | notANumber (key value : String)
  /-- A setting has to have a value. -/
  | empty (key : String)
  /-- A setting has an unknown name. -/
  | unknownKey (key : String)
  /-- The stored limit cannot be read. -/
  | storedLimit (value : String)

/-- The words for a fault of a setting. -/
def SettingFault.message : SettingFault → String
  | .source name => "unknown data source: " ++ name
  | .notANumber key value => key ++ " must be a number, got '" ++ value ++ "'"
  | .empty key => key ++ " cannot be empty"
  | .unknownKey key => "unknown config key: " ++ key
  | .storedLimit value => "stored default_limit is not a number: " ++ value

/-- Why the database refuses a request. -/
inductive DatabaseFault where
  /-- A record refers to one that does not exist. -/
  | danglingReference
  /-- The conditions of a statement are nested more deeply than the limit. -/
  | tooDeep (limit : Nat)
  /-- A statement has too many marks, the first of them at an offset. -/
  | tooManyMarks (statement : String) (offset : Nat)
  /-- The connection is down. -/
  | connectionClosed

/-- The words for a fault of the database. -/
def DatabaseFault.message : DatabaseFault → String
  | .danglingReference => "FOREIGN KEY constraint failed"
  | .tooDeep limit => "Expression tree is too large (maximum depth " ++ toString limit ++ ")"
  | .tooManyMarks statement offset =>
    "too many SQL variables in " ++ statement ++ " at offset " ++ toString offset
  | .connectionClosed => "ConnectionClosed"

/-- Why a request fails. -/
inductive Failure where
  /-- A dimension is unknown, or cannot be used as asked. -/
  | unsupportedDimension (dimension source : String)
  /-- The filter cannot be used. -/
  | filter (fault : FilterFault)
  /-- The database refuses the request. -/
  | database (fault : DatabaseFault)
  /-- A table of results does not have the promised shape. -/
  | shape (fault : ShapeFault)
  /-- A metric has an unknown name. -/
  | unknownMetric (id : String)
  /-- A setting cannot be stored or used. -/
  | setting (fault : SettingFault)
  /-- A statement has no value to select. -/
  | noValue
  /-- The index has no statement of its own. -/
  | derivedIndex
  /-- A computation left the calendar. -/
  | beyondCalendar

/-- The words for a failure. -/
def Failure.message : Failure → String
  | .unsupportedDimension dimension source =>
    "Unsupported dimension '" ++ dimension ++ "' for data source " ++ source
  | .filter fault => "Malformed filter: " ++ fault.message
  | .database fault => "Database error: " ++ fault.message
  | .shape fault => "Result contract violation: " ++ fault.message
  | .unknownMetric id => "Unknown metric: " ++ id
  | .setting fault => "Configuration error: " ++ fault.message
  | .noValue => "query has no value fields"
  | .derivedIndex => "bmi is derived from closed and opened"
  | .beyondCalendar => "a date lies beyond the calendar"

/-- The result of a request. -/
abbrev Outcome := Except Failure

/-- The date of a text. -/
def readDate (s : String) : Outcome Date :=
  match Date.read s with
  | .ok d => .ok d
  | .error fault => .error (.filter (.date s fault))

/-- The instant of a text. -/
def readInstant (s : String) : Outcome Instant :=
  match Instant.read s with
  | .ok t => .ok t
  | .error fault => .error (.filter (.date (Text.trim s) fault))

end ActivityMetrics
