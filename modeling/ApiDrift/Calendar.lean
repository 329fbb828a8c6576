import ApiDrift.Number.Natural

/-!
# Dates and moments

Calendar dates from year 1 to 9999, and moments with an optional offset from universal time in
minutes, in the three ways they are written: for reading, for data exchange, and as a display of
their parts. A moment without an offset is never the same as one with an offset; two with offsets
are the same when they name the same instant.
-/

namespace ApiDrift

structure Date where
  year : Nat
  month : Nat
  day : Nat
deriving DecidableEq, Repr

structure Moment where
  date : Date
  hour : Nat
  minute : Nat
  second : Nat
  micro : Nat
  /-- Minutes ahead of universal time. -/
  offset : Option Int
deriving DecidableEq, Repr

/-- Why numbers name no date or moment, in the order in which they are examined. -/
inductive CalendarFault where
  | offset (days : Int) (seconds : Nat)
  | year (n : Nat)
  | month
  | day
  | hour
  | minute
  | second
deriving DecidableEq, Repr

namespace Calendar

def isLeap (y : Nat) : Bool := y % 4 == 0 && (y % 100 != 0 || y % 400 == 0)

def daysInMonth (y m : Nat) : Nat :=
  if m = 2 then (if isLeap y then 29 else 28)
  else if m = 4 || m = 6 || m = 9 || m = 11 then 30 else 31

def padded (width n : Nat) : String :=
  let ds := Nat.repr n
  String.ofList (List.replicate (width - ds.length) '0') ++ ds

end Calendar

open Calendar

/-- The date that three numbers name. -/
def Date.of (year month day : Nat) : Except CalendarFault Date :=
  if year < 1 || 9999 < year then .error (.year year)
  else if month < 1 || 12 < month then .error .month
  else if day < 1 || daysInMonth year month < day then .error .day
  else .ok ⟨year, month, day⟩

/-- The number of days before a date, counted from the first day of year 1. -/
def Date.ordinal (d : Date) : Nat :=
  let y := d.year - 1
  let before := Number.total ((List.range (d.month - 1)).map fun i => daysInMonth d.year (i + 1))
  y * 365 + y / 4 - y / 100 + y / 400 + before + d.day

/-- The moment that numbers name. -/
def Moment.of (year month day hour minute second micro : Nat) (offset : Option Int) :
    Except CalendarFault Moment := do
  match offset with
  | some o =>
    if 1440 ≤ o.natAbs then
      .error (.offset (Int.fdiv o 1440) (Int.toNat (Int.fmod o 1440) * 60))
  | none => pure ()
  let date ← Date.of year month day
  if 23 < hour then .error .hour
  else if 59 < minute then .error .minute
  else if 59 < second then .error .second
  else .ok ⟨date, hour, minute, second, micro, offset⟩

/-- Microseconds since the beginning of the count of days, in universal time. -/
def Moment.instant (t : Moment) : Int :=
  let minutes : Int := ((t.date.ordinal * 24 + t.hour) * 60 + t.minute : Nat)
  ((minutes - t.offset.getD 0) * 60 + t.second) * 1000000 + t.micro

/-- Whether two moments are the same. -/
def Moment.same (a b : Moment) : Bool :=
  a.offset.isSome == b.offset.isSome && a.instant == b.instant

def Date.text (d : Date) : String :=
  padded 4 d.year ++ "-" ++ padded 2 d.month ++ "-" ++ padded 2 d.day

private def offsetText (o : Int) : String :=
  (if o < 0 then "-" else "+") ++ padded 2 (o.natAbs / 60) ++ ":" ++ padded 2 (o.natAbs % 60)

private def Moment.clock (t : Moment) : String :=
  padded 2 t.hour ++ ":" ++ padded 2 t.minute ++ ":" ++ padded 2 t.second ++
    (if t.micro = 0 then "" else "." ++ padded 6 t.micro)

/-- A moment for reading: a blank between date and time. -/
def Moment.text (t : Moment) : String :=
  t.date.text ++ " " ++ t.clock ++ (t.offset.map offsetText).getD ""

/-- A moment for data exchange: `T` between date and time, `Z` for universal time. -/
def Moment.isoText (t : Moment) : String :=
  let zone := match t.offset with
    | none => ""
    | some o => if o = 0 then "Z" else offsetText o
  t.date.text ++ "T" ++ t.clock ++ zone

private def commaList (ns : List Nat) : String := String.intercalate ", " (ns.map Nat.repr)

def Date.display (d : Date) : String :=
  "datetime.date(" ++ commaList [d.year, d.month, d.day] ++ ")"

/-- A span of whole seconds by its days and seconds. -/
def spanDisplay (days : Int) (seconds : Nat) : String :=
  let parts := (if days = 0 then [] else ["days=" ++ toString days]) ++
    (if seconds = 0 then [] else ["seconds=" ++ Nat.repr seconds])
  "datetime.timedelta(" ++ String.intercalate ", " parts ++ ")"

private def zoneDisplay (o : Int) : String :=
  if o = 0 then "datetime.timezone.utc"
  else
    "datetime.timezone(" ++ spanDisplay (Int.fdiv o 1440) ((Int.fmod o 1440).toNat * 60) ++ ")"

/-- A moment by its parts; seconds and microseconds are left out when nothing but zeros follows. -/
def Moment.display (t : Moment) : String :=
  let fields := [t.date.year, t.date.month, t.date.day, t.hour, t.minute] ++
    (if t.micro ≠ 0 then [t.second, t.micro] else if t.second ≠ 0 then [t.second] else [])
  let zone := match t.offset with
    | none => ""
    | some o => ", tzinfo=" ++ zoneDisplay o
  "datetime.datetime(" ++ commaList fields ++ zone ++ ")"

/-- What is wrong with the numbers. -/
def CalendarFault.message : CalendarFault → String
  | .offset days seconds =>
    "offset must be a timedelta strictly between -timedelta(hours=24) and " ++
      "timedelta(hours=24), not " ++
      spanDisplay days seconds ++ "."
  | .year n => "year " ++ Nat.repr n ++ " is out of range"
  | .month => "month must be in 1..12"
  | .day => "day is out of range for month"
  | .hour => "hour must be in 0..23"
  | .minute => "minute must be in 0..59"
  | .second => "second must be in 0..59"

end ApiDrift
