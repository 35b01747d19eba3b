import MarkdownPages.Text.Basic

/-!
# Dates and times

Days of the Gregorian calendar from the year 1 to the year 9999, and moments on them to the
microsecond.
-/

namespace MarkdownPages

open Text

structure Date where
  year : Nat
  month : Nat
  day : Nat
deriving DecidableEq, Repr

structure Moment where
  date : Date
  hour : Nat
  minute : Nat
  second : Nat
  microsecond : Nat
deriving DecidableEq, Repr

inductive CalendarError
  | year (n : Nat)
  | month
  | day
  | hour
  | minute
  | second
  | overflow
deriving DecidableEq, Repr

namespace CalendarError

def message : CalendarError → Text
  | .year n => "year ".toList ++ Text.ofNat n ++ " is out of range".toList
  | .month => "month must be in 1..12".toList
  | .day => "day is out of range for month".toList
  | .hour => "hour must be in 0..23".toList
  | .minute => "minute must be in 0..59".toList
  | .second => "second must be in 0..59".toList
  | .overflow => "date value out of range".toList

end CalendarError

namespace Date

def isLeap (year : Nat) : Bool := year % 4 = 0 && (year % 100 != 0 || year % 400 = 0)

def daysIn (year month : Nat) : Nat :=
  if month = 2 then (if isLeap year then 29 else 28)
  else if month ∈ [4, 6, 9, 11] then 30
  else 31

def of (year month day : Nat) : Except CalendarError Date :=
  if year < 1 ∨ 9999 < year then .error (.year year)
  else if month < 1 ∨ 12 < month then .error .month
  else if day < 1 ∨ daysIn year month < day then .error .day
  else .ok ⟨year, month, day⟩

def next? (d : Date) : Option Date :=
  if d.day < daysIn d.year d.month then some { d with day := d.day + 1 }
  else if d.month < 12 then some ⟨d.year, d.month + 1, 1⟩
  else if d.year < 9999 then some ⟨d.year + 1, 1, 1⟩
  else none

def previous? (d : Date) : Option Date :=
  if 1 < d.day then some { d with day := d.day - 1 }
  else if 1 < d.month then some ⟨d.year, d.month - 1, daysIn d.year (d.month - 1)⟩
  else if 1 < d.year then some ⟨d.year - 1, 12, 31⟩
  else none

def repeat? (step : Date → Option Date) : Nat → Date → Option Date
  | 0, d => some d
  | n + 1, d => (step d).bind (repeat? step n)

def addDays? (d : Date) (days : Int) : Option Date :=
  if days < 0 then repeat? previous? days.natAbs d else repeat? next? days.natAbs d

def padded (width n : Nat) : Text :=
  let digits := Text.ofNat n
  List.replicate (width - digits.length) '0' ++ digits

def toText (d : Date) : Text :=
  padded 4 d.year ++ '-' :: padded 2 d.month ++ '-' :: padded 2 d.day

def numbers (d : Date) : List Nat := [d.year, d.month, d.day]

def shown (d : Date) : Text :=
  "datetime.date(".toList ++ ", ".toList.intercalate (d.numbers.map Text.ofNat) ++ ")".toList

end Date

namespace Moment

def of (date : Date) (hour minute second microsecond : Nat) : Except CalendarError Moment :=
  if 23 < hour then .error .hour
  else if 59 < minute then .error .minute
  else if 59 < second then .error .second
  else .ok ⟨date, hour, minute, second, microsecond⟩

def addSeconds (m : Moment) (seconds : Int) : Except CalendarError Moment :=
  let total : Int := ((m.hour * 60 + m.minute) * 60 + m.second : Nat) + seconds
  let rest := (total % 86400).toNat
  match m.date.addDays? (total / 86400) with
  | some date => .ok ⟨date, rest / 3600, rest / 60 % 60, rest % 60, m.microsecond⟩
  | none => .error .overflow

def toText (m : Moment) : Text :=
  m.date.toText ++ ' ' :: Date.padded 2 m.hour ++ ':' :: Date.padded 2 m.minute ++
    ':' :: Date.padded 2 m.second ++
    (if m.microsecond = 0 then [] else '.' :: Date.padded 6 m.microsecond)

/-- A moment as messages show it; seconds and microseconds are left out if they are zero. -/
def shown (m : Moment) : Text :=
  let fine :=
    if m.microsecond ≠ 0 then [m.second, m.microsecond]
    else if m.second ≠ 0 then [m.second]
    else []
  "datetime.datetime(".toList ++
    ", ".toList.intercalate ((m.date.numbers ++ [m.hour, m.minute] ++ fine).map Text.ofNat) ++
    ")".toList

end Moment

end MarkdownPages
