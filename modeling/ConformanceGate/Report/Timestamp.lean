import ConformanceGate.Text.Decimal

/-!
# Points in time

Seconds since the beginning of 1970 as a date and a time of day in universal time.
-/

namespace ConformanceGate.Timestamp

structure Date where
  year : Int
  month : Nat
  day : Nat
deriving DecidableEq

/-- The date of a day, counted from the first of January 1970. Years are counted from March inside,
so that the leap day is the last of its year, in eras of 400 years. -/
def Date.ofDays (days : Int) : Date :=
  let shifted := days + 719468
  let era := shifted.fdiv 146097
  let inEra := (shifted.fmod 146097).toNat
  let yearInEra := (inEra - inEra / 1460 + inEra / 36524 - inEra / 146096) / 365
  let inYear := inEra - (365 * yearInEra + yearInEra / 4 - yearInEra / 100)
  let fromMarch := (5 * inYear + 2) / 153
  let month := if fromMarch < 10 then fromMarch + 3 else fromMarch - 9
  { year := yearInEra + era * 400 + (if month ≤ 2 then 1 else 0)
    month
    day := inYear - (153 * fromMarch + 2) / 5 + 1 }

/-- A year has at least four digits; outside these it has a sign. -/
def yearText (year : Int) : String :=
  if year < 0 then "-" ++ Text.zeroPadded 4 year.natAbs
  else if year ≤ 9999 then Text.zeroPadded 4 year.natAbs
  else "+" ++ year.natAbs.repr

def text (seconds : Int) : String :=
  let date := Date.ofDays (seconds.fdiv 86400)
  let time := (seconds.fmod 86400).toNat
  let two := Text.zeroPadded 2
  yearText date.year ++ "-" ++ two date.month ++ "-" ++ two date.day ++ " " ++
    two (time / 3600) ++ ":" ++ two (time / 60 % 60) ++ ":" ++ two (time % 60) ++ " UTC"

end ConformanceGate.Timestamp
