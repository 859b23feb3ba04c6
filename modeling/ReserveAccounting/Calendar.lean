/-!
# Days and times

Days of the proleptic Gregorian calendar and times of day, as scenario files may
hold them, with their texts.
-/

namespace ReserveAccounting

structure CalendarDay where
  year : Nat
  month : Nat
  day : Nat
deriving DecidableEq, Repr, Inhabited

/-- A time of day, with its distance from universal time in minutes if that is known. -/
structure ClockTime where
  hour : Nat
  minute : Nat
  second : Nat
  microsecond : Nat
  offset : Option Int
deriving DecidableEq, Repr, Inhabited

def zeroPadded (width n : Nat) : String :=
  let digits := Nat.toDigits 10 n
  String.ofList (List.replicate (width - digits.length) '0' ++ digits)

namespace CalendarDay

def isLeapYear (y : Nat) : Bool := y % 4 = 0 && (y % 100 ≠ 0 || y % 400 = 0)

def daysInMonth (y m : Nat) : Nat :=
  if m = 2 then (if isLeapYear y then 29 else 28)
  else if m = 4 || m = 6 || m = 9 || m = 11 then 30
  else 31

def isValid (d : CalendarDay) : Bool :=
  1 ≤ d.year && d.year ≤ 9999 && 1 ≤ d.month && d.month ≤ 12 &&
    1 ≤ d.day && d.day ≤ daysInMonth d.year d.month

def text (d : CalendarDay) : String :=
  s!"{zeroPadded 4 d.year}-{zeroPadded 2 d.month}-{zeroPadded 2 d.day}"

def shown (d : CalendarDay) : String := s!"datetime.date({d.year}, {d.month}, {d.day})"

/-- The number of a day, counted from the first of March of the year zero. -/
def number (d : CalendarDay) : Int :=
  let y : Int := if d.month ≤ 2 then (d.year : Int) - 1 else d.year
  let m : Int := if d.month ≤ 2 then (d.month : Int) + 9 else (d.month : Int) - 3
  365 * y + y / 4 - y / 100 + y / 400 + (153 * m + 2) / 5 + d.day - 1

def ofNumber (n : Int) : CalendarDay :=
  let era := n.fdiv 146097
  let d := (n - 146097 * era).toNat
  let yearOfEra := (d - d / 1460 + d / 36524 - d / 146096) / 365
  let dayOfYear := d - (365 * yearOfEra + yearOfEra / 4 - yearOfEra / 100)
  let m := (5 * dayOfYear + 2) / 153
  let month := if m < 10 then m + 3 else m - 9
  let year := 400 * era + yearOfEra + (if month ≤ 2 then 1 else 0)
  ⟨year.toNat, month, dayOfYear - (153 * m + 2) / 5 + 1⟩

end CalendarDay

namespace ClockTime

def isValid (t : ClockTime) : Bool :=
  t.hour < 24 && t.minute < 60 && t.second < 60 &&
    (match t.offset with
    | some o => o.natAbs < 24 * 60
    | none => true)

def offsetText : Option Int → String
  | none => ""
  | some o =>
      (if o < 0 then "-" else "+") ++
        s!"{zeroPadded 2 (o.natAbs / 60)}:{zeroPadded 2 (o.natAbs % 60)}"

def text (t : ClockTime) : String :=
  s!"{zeroPadded 2 t.hour}:{zeroPadded 2 t.minute}:{zeroPadded 2 t.second}" ++
    (if t.microsecond = 0 then "" else "." ++ zeroPadded 6 t.microsecond) ++ offsetText t.offset

def instant? (d : CalendarDay) (t : ClockTime) : Option Int :=
  t.offset.map fun offset =>
    let minutes : Int := (24 * d.number + t.hour) * 60 + t.minute - offset
    (minutes * 60 + t.second) * 1000000 + t.microsecond

def ofMicroseconds (n : Nat) : ClockTime :=
  let seconds := n / 1000000
  ⟨seconds / 3600, seconds / 60 % 60, seconds % 60, n % 1000000, some 0⟩

/-- Whether two moments are the same: both in universal time, or both as the clock shows them. -/
def isSame (d : CalendarDay) (t : ClockTime) (e : CalendarDay) (u : ClockTime) : Bool :=
  match instant? d t, instant? e u with
  | some m, some n => m == n
  | none, none => d == e && t == u
  | _, _ => false

def shownOffset : Option Int → String
  | none => ""
  | some 0 => ", tzinfo=datetime.timezone.utc"
  | some o =>
      let seconds := 60 * o
      let amount :=
        if o < 0 then s!"days=-1, seconds={seconds + 86400}" else s!"seconds={seconds}"
      s!", tzinfo=datetime.timezone(datetime.timedelta({amount}))"

def shown (d : CalendarDay) (t : ClockTime) : String :=
  let seconds :=
    if t.microsecond = 0 then (if t.second = 0 then "" else s!", {t.second}")
    else s!", {t.second}, {t.microsecond}"
  s!"datetime.datetime({d.year}, {d.month}, {d.day}, {t.hour}, {t.minute}{seconds}{shownOffset t.offset})"

end ClockTime
end ReserveAccounting
