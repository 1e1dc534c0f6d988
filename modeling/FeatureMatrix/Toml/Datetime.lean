/-!
Dates and times, with or without an offset, and their text by RFC 3339: a `T` between date
and time, and of a fraction only the digits up to the last that is not zero.
-/

namespace FeatureMatrix.Toml

structure Date where
  year : Nat
  month : Nat
  day : Nat
  deriving DecidableEq, Repr

structure TimeOfDay where
  hour : Nat
  minute : Nat
  second : Nat
  nanosecond : Nat
  deriving DecidableEq, Repr

/-- The distance of local time from universal time. -/
inductive Offset where
  | utc
  | minutes (ahead : Int)
  deriving DecidableEq, Repr

inductive Datetime where
  | withOffset (date : Date) (time : TimeOfDay) (offset : Offset)
  | atLocal (date : Date) (time : TimeOfDay)
  | dateOnly (date : Date)
  | timeOnly (time : TimeOfDay)
  deriving DecidableEq, Repr

/-! ### The calendar -/

def isLeap (year : Nat) : Bool := year % 4 == 0 && (year % 100 != 0 || year % 400 == 0)

def daysInMonth (year month : Nat) : Nat :=
  if month == 2 then (if isLeap year then 29 else 28)
  else if month == 4 || month == 6 || month == 9 || month == 11 then 30
  else 31

/-- The month exists, and has such a day. -/
def Date.isValid (d : Date) : Bool :=
  1 ≤ d.month && d.month ≤ 12 && 1 ≤ d.day && d.day ≤ daysInMonth d.year d.month

/-- A second 60 is a leap second, which may end any minute. -/
def TimeOfDay.isValid (t : TimeOfDay) : Bool :=
  t.hour < 24 && t.minute < 60 && t.second ≤ 60

/-! ### The text -/

/-- A number with zeros in front up to the given width. -/
def padded (width n : Nat) : List Char :=
  let digits := Nat.toDigits 10 n
  List.replicate (width - digits.length) '0' ++ digits

def Date.text (d : Date) : List Char :=
  padded 4 d.year ++ '-' :: padded 2 d.month ++ '-' :: padded 2 d.day

/-- The fraction of a second with its point; nothing for a full second. -/
def fractionText (nanosecond : Nat) : List Char :=
  if nanosecond == 0 then []
  else '.' :: ((padded 9 nanosecond).reverse.dropWhile (· == '0')).reverse

def TimeOfDay.text (t : TimeOfDay) : List Char :=
  padded 2 t.hour ++ ':' :: padded 2 t.minute ++ ':' :: padded 2 t.second ++
    fractionText t.nanosecond

def Offset.text : Offset → List Char
  | utc => ['Z']
  | minutes ahead =>
    (if ahead < 0 then '-' else '+') ::
      (padded 2 (ahead.natAbs / 60) ++ ':' :: padded 2 (ahead.natAbs % 60))

def Datetime.text : Datetime → String
  | withOffset date time offset =>
    String.ofList (date.text ++ 'T' :: time.text ++ offset.text)
  | atLocal date time => String.ofList (date.text ++ 'T' :: time.text)
  | dateOnly date => String.ofList date.text
  | timeOnly time => String.ofList time.text

end FeatureMatrix.Toml
