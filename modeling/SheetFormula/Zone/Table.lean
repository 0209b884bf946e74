import SheetFormula.Zone.Reader

/-!
# The known zones

A database for the outer layer of the program and for examples; what is said about evaluations
holds of every database. Some zones keep one offset. Most others put the clock forward for a summer
season by rules that name a Sunday of a month; their tables hold the changes of the years 2008 to
2099, in which the rules have been the same. Three zones have a history of their own.

## Main definitions

* `SheetFormula.Zone.SeasonRule` — when the clock is put forward and back in a year.
* `SheetFormula.Zone.northern`, `SheetFormula.Zone.southern` — the tables of zones with a rule.
* `SheetFormula.Zone.knownZones`, `SheetFormula.Zone.known` — the named zones and the database of
  them.
* `SheetFormula.Zone.ofText?` — the zone that a text names among them.
-/

set_option relaxedAutoImplicit false
set_option autoImplicit false

namespace SheetFormula.Zone

open SheetFormula.Calendar (Date secondsPerDay sundayFrom)

/-- The second of universal time at an hour and minute of a day. -/
def secondOf (day : Int) (hour minute : Int) : Int :=
  day * secondsPerDay + 3600 * hour + 60 * minute

/-- The first Sunday on or after a day of a month. -/
def sundayOf (year : Int) (month day : Nat) : Int :=
  sundayFrom (Date.dayNumber ⟨year, month, day⟩)

/-- An offset of hours and minutes ahead of universal time. -/
def ahead (hours minutes : Int) : Int :=
  3600 * hours + 60 * minutes

/-- An offset of hours and minutes behind universal time. -/
def behind (hours minutes : Int) : Int :=
  -ahead hours minutes

/-! ## Seasons -/

/-- When a year's clock is put forward and back: the seconds of universal time. -/
structure SeasonRule where
  forward : Int → Int
  back : Int → Int

/-- The years whose seasons are in the tables. -/
def seasonYears : List Int :=
  (List.range 92).map fun (n : Nat) => (n : Int) + 2008

/-- The table of a northern zone, whose summer lies within the year. -/
def northern (rule : SeasonRule) (standard summer : Int) : OffsetTable :=
  { initial := standard
    changes := seasonYears.flatMap fun year =>
      [⟨rule.forward year, summer⟩, ⟨rule.back year, standard⟩] }

/-- The table of a southern zone, whose summer spans the turn of the year. -/
def southern (rule : SeasonRule) (standard summer : Int) : OffsetTable :=
  { initial := summer
    changes := seasonYears.flatMap fun year =>
      [⟨rule.back year, standard⟩, ⟨rule.forward year, summer⟩] }

/-- From the last Sunday of March to the last Sunday of October, at 01:00 universal time. -/
def europeanRule : SeasonRule :=
  { forward := fun year => secondOf (sundayOf year 3 25) 1 0
    back := fun year => secondOf (sundayOf year 10 25) 1 0 }

/-- From the second Sunday of March to the first Sunday of November, at 02:00 on the wall
clock. -/
def americanRule (standard : Int) : SeasonRule :=
  { forward := fun year => secondOf (sundayOf year 3 8) 2 0 - standard
    back := fun year => secondOf (sundayOf year 11 1) 1 0 - standard }

/-- From the first Sunday of October at 02:00 to the first Sunday of April, when the clock is put
back to 02:00 standard time. -/
def sydneyRule : SeasonRule :=
  { forward := fun year => secondOf (sundayOf year 10 1) 2 0 - ahead 10 0
    back := fun year => secondOf (sundayOf year 4 1) 2 0 - ahead 10 0 }

/-- From the first Sunday of October to the first Sunday of April, at 02:00 on the wall clock. The
clock moves by half an hour. -/
def lordHoweRule : SeasonRule :=
  { forward := fun year => secondOf (sundayOf year 10 1) 2 0 - ahead 10 30
    back := fun year => secondOf (sundayOf year 4 1) 2 0 - ahead 11 0 }

/-- From the last Sunday of September to the first Sunday of April, at 14:00 universal time of the
Saturday before. -/
def newZealandRule : SeasonRule :=
  { forward := fun year => secondOf (sundayOf year 9 24 - 1) 14 0
    back := fun year => secondOf (sundayOf year 4 1 - 1) 14 0 }

/-! ## Histories -/

/-- Samoa changed sides of the date line at the end of 2011 and gave up its summer season in
2021. -/
def samoa : OffsetTable :=
  { initial := behind 11 0
    changes :=
      [⟨secondOf (Date.dayNumber ⟨2011, 9, 24⟩) 14 0, behind 10 0⟩,
       ⟨secondOf (Date.dayNumber ⟨2011, 12, 30⟩) 10 0, ahead 14 0⟩,
       ⟨secondOf (Date.dayNumber ⟨2012, 3, 31⟩) 14 0, ahead 13 0⟩] ++
      ((List.range 9).map fun (n : Nat) => (n : Int) + 2012).flatMap fun year =>
        [⟨newZealandRule.forward year, ahead 14 0⟩,
         ⟨newZealandRule.back (year + 1), ahead 13 0⟩] }

/-- São Paulo gave up its summer season in 2019. -/
def saoPaulo : OffsetTable :=
  { initial := behind 3 0
    changes :=
      [⟨secondOf (Date.dayNumber ⟨2017, 10, 15⟩) 3 0, behind 2 0⟩,
       ⟨secondOf (Date.dayNumber ⟨2018, 2, 18⟩) 2 0, behind 3 0⟩,
       ⟨secondOf (Date.dayNumber ⟨2018, 11, 4⟩) 3 0, behind 2 0⟩,
       ⟨secondOf (Date.dayNumber ⟨2019, 2, 17⟩) 2 0, behind 3 0⟩] }

/-- A station in Antarctica put its clock forward by three hours from time to time, in 2016 at
midnight. -/
def casey : OffsetTable :=
  { initial := ahead 8 0
    changes :=
      [⟨secondOf (Date.dayNumber ⟨2009, 10, 17⟩) 18 0, ahead 11 0⟩,
       ⟨secondOf (Date.dayNumber ⟨2010, 3, 4⟩) 15 0, ahead 8 0⟩,
       ⟨secondOf (Date.dayNumber ⟨2011, 10, 27⟩) 18 0, ahead 11 0⟩,
       ⟨secondOf (Date.dayNumber ⟨2012, 2, 21⟩) 17 0, ahead 8 0⟩,
       ⟨secondOf (Date.dayNumber ⟨2016, 10, 21⟩) 16 0, ahead 11 0⟩,
       ⟨secondOf (Date.dayNumber ⟨2018, 3, 10⟩) 17 0, ahead 8 0⟩,
       ⟨secondOf (Date.dayNumber ⟨2018, 10, 6⟩) 20 0, ahead 11 0⟩,
       ⟨secondOf (Date.dayNumber ⟨2019, 3, 16⟩) 16 0, ahead 8 0⟩,
       ⟨secondOf (Date.dayNumber ⟨2019, 10, 3⟩) 19 0, ahead 11 0⟩,
       ⟨secondOf (Date.dayNumber ⟨2020, 3, 7⟩) 16 0, ahead 8 0⟩,
       ⟨secondOf (Date.dayNumber ⟨2020, 10, 3⟩) 16 1, ahead 11 0⟩,
       ⟨secondOf (Date.dayNumber ⟨2021, 3, 13⟩) 13 0, ahead 8 0⟩,
       ⟨secondOf (Date.dayNumber ⟨2021, 10, 2⟩) 16 1, ahead 11 0⟩,
       ⟨secondOf (Date.dayNumber ⟨2022, 3, 12⟩) 13 0, ahead 8 0⟩,
       ⟨secondOf (Date.dayNumber ⟨2022, 10, 1⟩) 16 1, ahead 11 0⟩,
       ⟨secondOf (Date.dayNumber ⟨2023, 3, 8⟩) 16 0, ahead 8 0⟩] }

/-! ## Names -/

/-- The table of a zone that keeps one offset. -/
def constant (offset : Int) : OffsetTable :=
  { initial := offset, changes := [] }

/-- The table of a zone of central Europe. -/
def centralEurope : OffsetTable :=
  northern europeanRule (ahead 1 0) (ahead 2 0)

/-- The table of the east of North America. -/
def easternAmerica : OffsetTable :=
  northern (americanRule (behind 5 0)) (behind 5 0) (behind 4 0)

/-- The named zones and their tables. -/
def knownZones : List (String × OffsetTable) :=
  [("Etc/GMT", constant 0),
   ("GMT0", constant 0),
   ("Zulu", constant 0),
   ("Etc/GMT+5", constant (behind 5 0)),
   ("EST", constant (behind 5 0)),
   ("Etc/GMT-5", constant (ahead 5 0)),
   ("Asia/Tokyo", constant (ahead 9 0)),
   ("Asia/Kolkata", constant (ahead 5 30)),
   ("Asia/Calcutta", constant (ahead 5 30)),
   ("Asia/Kathmandu", constant (ahead 5 45)),
   ("Pacific/Kiritimati", constant (ahead 14 0)),
   ("Europe/Berlin", centralEurope),
   ("CET", centralEurope),
   ("Europe/Helsinki", northern europeanRule (ahead 2 0) (ahead 3 0)),
   ("Europe/London", northern europeanRule (ahead 0 0) (ahead 1 0)),
   ("America/New_York", easternAmerica),
   ("US/Eastern", easternAmerica),
   ("America/St_Johns", northern (americanRule (behind 3 30)) (behind 3 30) (behind 2 30)),
   ("Australia/Sydney", southern sydneyRule (ahead 10 0) (ahead 11 0)),
   ("Australia/Lord_Howe", southern lordHoweRule (ahead 10 30) (ahead 11 0)),
   ("Pacific/Auckland", southern newZealandRule (ahead 12 0) (ahead 13 0)),
   ("Pacific/Chatham", southern newZealandRule (ahead 12 45) (ahead 13 45)),
   ("Pacific/Apia", samoa),
   ("America/Sao_Paulo", saoPaulo),
   ("Antarctica/Casey", casey)]

/-- The database of these zones. -/
def known : ZoneDatabase :=
  fun name => knownZones.lookup name

/-- The zone that a text names, if the named zones are these. -/
def ofText? (text : String) : Option Zone :=
  ofTextIn? known text

end SheetFormula.Zone
