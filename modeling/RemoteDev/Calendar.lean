import RemoteDev.Text.Basic

/-! Days and times of the Gregorian calendar, extended to all years, and the written form of a
moment: weekday, month, day, time and year, as in `Mon Jan  1 00:00:00 2024`. A period of 400 years
has 146097 days and begins with a first of March, so that a leap day is the last day of a year. -/
namespace RemoteDev.Calendar

structure Date where
  year : Int
  month : Nat
  day : Nat
deriving DecidableEq, Repr

/-- The days from the first of March of the year zero to the beginning of 1970. -/
def marchOffset : Int := 719468

def periodDays : Nat := 146097

def yearOfPeriod (day : Nat) : Nat :=
  (day - day / 1460 + day / 36524 - day / 146096) / 365

def daysBeforeYear (year : Nat) : Nat := 365 * year + year / 4 - year / 100

/-- The month, counted from March, that holds a day of a year. -/
def monthOfYear (day : Nat) : Nat := (5 * day + 2) / 153

def daysBeforeMonth (month : Nat) : Nat := (153 * month + 2) / 5

def Date.ofDays (days : Int) : Date :=
  let shifted := days + marchOffset
  let period := shifted / (periodDays : Int)
  let day := (shifted % (periodDays : Int)).toNat
  let year := yearOfPeriod day
  let dayOfYear := day - daysBeforeYear year
  let month := monthOfYear dayOfYear
  { year := period * 400 + year + (if month < 10 then 0 else 1)
    month := if month < 10 then month + 3 else month - 9
    day := dayOfYear - daysBeforeMonth month + 1 }

theorem month_ofDays (days : Int) :
    1 ≤ (Date.ofDays days).month ∧ (Date.ofDays days).month ≤ 12 := by
  have h : (((days + marchOffset) % (periodDays : Int)).toNat) < periodDays := by
    unfold periodDays
    omega
  generalize hd : ((days + marchOffset) % (periodDays : Int)).toNat = day at h
  have hm : monthOfYear (day - daysBeforeYear (yearOfPeriod day)) < 12 := by
    unfold periodDays at h
    unfold monthOfYear daysBeforeYear yearOfPeriod
    omega
  simp only [Date.ofDays, hd]
  split <;> omega

/-- The day of the week, counted from Sunday; 1970 began on a Thursday. -/
def weekday (days : Int) : Nat := ((days + 4) % 7).toNat

theorem weekday_lt (days : Int) : weekday days < 7 := by
  unfold weekday
  omega

def weekdayNames : List String := ["Sun", "Mon", "Tue", "Wed", "Thu", "Fri", "Sat"]

def monthNames : List String :=
  ["Jan", "Feb", "Mar", "Apr", "May", "Jun", "Jul", "Aug", "Sep", "Oct", "Nov", "Dec"]

def padded (filler : Char) (width : Nat) (text : String) : String :=
  String.ofList (List.replicate (width - text.length) filler) ++ text

def digits (count n : Nat) : String := padded '0' count (decimalText n)

/-- A year of four digits, with a sign and as many digits as it needs if it has no such form. -/
def yearText (year : Int) : String :=
  if 0 ≤ year ∧ year ≤ 9999 then digits 4 year.natAbs
  else (if year < 0 then "-" else "+") ++ digits 4 year.natAbs

def clockText (seconds : Nat) : String :=
  digits 2 (seconds / 3600) ++ ":" ++ digits 2 (seconds / 60 % 60) ++ ":" ++ digits 2 (seconds % 60)

def secondsPerDay : Int := 86400

def momentText (seconds : Int) : String :=
  let days := seconds / secondsPerDay
  let date := Date.ofDays days
  weekdayNames.getD (weekday days) "" ++ " " ++ monthNames.getD (date.month - 1) "" ++ " " ++
    padded ' ' 2 (decimalText date.day) ++ " " ++
    clockText (seconds % secondsPerDay).toNat ++ " " ++ yearText date.year

/-- The times that can be shown, in milliseconds: the years -262143 to 262142. -/
def isShowable (milliseconds : Int) : Bool :=
  -8334601228800000 ≤ milliseconds && milliseconds ≤ 8210266876799999

def timeText? (offset milliseconds : Int) : Option String :=
  if isShowable milliseconds then some (momentText (milliseconds / 1000 + offset)) else none

end RemoteDev.Calendar
