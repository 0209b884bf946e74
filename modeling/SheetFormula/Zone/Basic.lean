import SheetFormula.Calendar.Timestamp

/-!
# Time zones

A zone says by how many seconds the wall clock is ahead of universal time: by none, by a fixed
number, or by a number that changes at the instants of a table.

A wall-clock time may be shown twice, when the clock goes back, or never, when it goes forward.
The first of two instants is taken; a time that is never shown is read an hour later.

## Main definitions

* `SheetFormula.Zone` — time zones, and `SheetFormula.OffsetTable`, the table of a named one.
* `SheetFormula.ZoneDatabase` — the zones that have a name.
* `SheetFormula.Zone.offsetAt`, `SheetFormula.Zone.wallClock` — from an instant to local time.
* `SheetFormula.Zone.instantAt?` — from local time to an instant.
* `SheetFormula.Zone.name` — how a zone is named.
-/

set_option relaxedAutoImplicit false
set_option autoImplicit false

namespace SheetFormula

open SheetFormula.Calendar (Timestamp)

/-- A change of the offset: the second from which it holds, and the new offset. -/
structure OffsetChange where
  second : Int
  offset : Int
  deriving Repr, DecidableEq

/-- Offsets in seconds: the one at the beginning, and the changes in the order of time. -/
structure OffsetTable where
  initial : Int
  changes : List OffsetChange
  deriving Repr, DecidableEq

namespace OffsetTable

/-- The offset at a second, given the offset before the changes. -/
def offsetFrom (offset : Int) : List OffsetChange → Int → Int
  | [], _ => offset
  | change :: rest, second =>
    if second < change.second then offset else offsetFrom change.offset rest second

/-- The offset that holds at a second of universal time. -/
def offsetAt (table : OffsetTable) (second : Int) : Int :=
  offsetFrom table.initial table.changes second

/-- The offset of the first span of time in which the wall clock shows a second, given the offset
before the changes and the second from which it holds, if any. -/
def wallOffsetFrom? (since : Option Int) (offset : Int) : List OffsetChange → Int → Option Int
  | [], wall => if since.all (· ≤ wall - offset) then some offset else none
  | change :: rest, wall =>
    if since.all (· ≤ wall - offset) ∧ wall - offset < change.second then some offset
    else wallOffsetFrom? (some change.second) change.offset rest wall

/-- The offset of the first span of time in which the wall clock shows a second. -/
def wallOffset? (table : OffsetTable) (wall : Int) : Option Int :=
  wallOffsetFrom? none table.initial table.changes wall

end OffsetTable

/-- The zones that have a name, each with the table of its offsets. -/
abbrev ZoneDatabase := String → Option OffsetTable

/-- Time zones. -/
inductive Zone where
  | utc
  /-- A zone that is ahead of universal time by a fixed number of seconds. -/
  | fixed (offset : Int)
  /-- A zone with a name and a table of its offsets. -/
  | named (name : String) (table : OffsetTable)
  deriving Repr, DecidableEq

namespace Zone

/-- Whether a zone is universal time itself. -/
def isUtc : Zone → Bool
  | .utc => true
  | _ => false

/-- The seconds by which the wall clock is ahead at an instant. -/
def offsetAt (zone : Zone) (instant : Timestamp) : Int :=
  match zone with
  | .utc => 0
  | .fixed offset => offset
  | .named _ table => table.offsetAt instant.seconds

/-- The wall-clock time at an instant. Near the ends of the calendar its day may lie outside the
range of dates. -/
def wallClock (zone : Zone) (instant : Timestamp) : Timestamp :=
  instant.shift (zone.offsetAt instant)

/-- The first instant at which the wall clock of a table shows a time. -/
def firstInstant? (table : OffsetTable) (wall : Timestamp) : Option Timestamp :=
  (table.wallOffset? wall.seconds).map fun offset => wall.shift (-offset)

/-- The milliseconds of an hour. -/
def hourMillis : Int := 3600000

/-- The first instant at which the wall clock of a table shows a time, if it lies in the range of
dates. -/
def shownAt? (table : OffsetTable) (wall : Timestamp) : Option Timestamp :=
  (firstInstant? table wall).bind Timestamp.checked

/-- The instant at which the wall clock shows a time: the first one of two, and for a time that has
none the one that belongs to an hour later. It must lie in the range of dates. -/
def instantAt? (zone : Zone) (wall : Timestamp) : Option Timestamp :=
  match zone with
  | .utc => some wall
  | .fixed offset => (wall.shift (-offset)).checked
  | .named _ table =>
    (shownAt? table wall).or ((wall.plusMillis? hourMillis).bind (shownAt? table))

/-- A number with at least two digits. -/
def twoDigits (n : Nat) : String :=
  if n < 10 then "0" ++ toString n else toString n

/-- An offset as sign, hours and minutes, with seconds only if there are any. -/
def offsetText (offset : Int) : String :=
  let seconds := offset.natAbs
  (if offset < 0 then "-" else "+") ++ twoDigits (seconds / 3600) ++ ":" ++
    twoDigits (seconds / 60 % 60) ++
    (if seconds % 60 = 0 then "" else ":" ++ twoDigits (seconds % 60))

/-- The minutes of an offset, rounded. -/
def roundedMinutes (offset : Int) : Nat :=
  (offset.natAbs + 30) / 60

/-- An offset as sign, hours and minutes, rounded to minutes. -/
def minutesText (offset : Int) : String :=
  let minutes := roundedMinutes offset
  (if offset < 0 then "-" else "+") ++ twoDigits (minutes / 60) ++ ":" ++ twoDigits (minutes % 60)

/-- How a zone is named. -/
def name : Zone → String
  | .utc => "UTC"
  | .fixed offset => offsetText offset
  | .named name _ => name

end Zone

end SheetFormula
