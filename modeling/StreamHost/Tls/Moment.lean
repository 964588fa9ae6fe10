import StreamHost.Tls.Der

/-!
Points in time as certificates state them: a date and a time of day in digits, with a year of two or of four
digits. Days are counted by the calendar in which every fourth year is a leap year, except for three of four
whole centuries.
-/

namespace StreamHost.Tls

/-- A point in time: the seconds since the year 1970 began. -/
structure Moment where
  seconds : Nat
  deriving DecidableEq, Repr

namespace Moment

/-- The year from which seconds are counted. -/
def firstYear : Nat := 1970

def isLeap (year : Nat) : Bool := year % 4 == 0 && (year % 100 != 0 || year % 400 == 0)

def daysInYear (year : Nat) : Nat := if isLeap year then 366 else 365

/-- The days of a month, which counts from one. -/
def daysInMonth (year month : Nat) : Nat :=
  if month = 2 then if isLeap year then 29 else 28
  else if [4, 6, 9, 11].contains month then 30
  else 31

/-- The days of the years before one. -/
def daysBeforeYear (year : Nat) : Nat :=
  (List.range (year - firstYear)).foldl (fun days n => days + daysInYear (firstYear + n)) 0

/-- The days of the months before one. -/
def daysBeforeMonth (year month : Nat) : Nat :=
  (List.range (month - 1)).foldl (fun days n => days + daysInMonth year (n + 1)) 0

/-- The moment with a date and a time of day. -/
def ofParts (year month day hour minute second : Nat) : Moment :=
  let days := daysBeforeYear year + daysBeforeMonth year month + (day - 1)
  ⟨((days * 24 + hour) * 60 + minute) * 60 + second⟩

/-- The moment of whoever looks at a certificate and has no clock that tells the date. -/
def present : Moment := ofParts 2026 12 5 0 0 0

/-- Two digits at the front, with a value between two bounds. -/
def twoDigits? (least most : Nat) : Bytes → Option (Nat × Bytes)
  | a :: b :: bs =>
    let digit? (c : UInt8) : Option Nat := if 0x30 ≤ c ∧ c ≤ 0x39 then some (c - 0x30).toNat else none
    match digit? a, digit? b with
    | some a, some b =>
      if least ≤ a * 10 + b ∧ a * 10 + b ≤ most then some (a * 10 + b, bs) else none
    | _, _ => none
  | _ => none

def shortTag : UInt8 := 0x17
def longTag : UInt8 := 0x18

/-- The year at the front. One of two digits lies between 1950 and 2049. -/
def year? (isShort : Bool) (bs : Bytes) : Option (Nat × Bytes) := do
  let (a, bs) ← twoDigits? 0 99 bs
  if isShort then return ((if 50 ≤ a then 1900 else 2000) + a, bs)
  else
    let (b, bs) ← twoDigits? 0 99 bs
    return (a * 100 + b, bs)

/-- The letter behind a time of day that is that of Greenwich. -/
def zone : UInt8 := 0x5a

/-- The moment in the content of a value. -/
def ofContent? (isShort : Bool) (bs : Bytes) : Option Moment := do
  let (year, bs) ← year? isShort bs
  let (month, bs) ← twoDigits? 1 12 bs
  let (day, bs) ← twoDigits? 1 (daysInMonth year month) bs
  let (hour, bs) ← twoDigits? 0 23 bs
  let (minute, bs) ← twoDigits? 0 59 bs
  let (second, bs) ← twoDigits? 0 59 bs
  if bs = [zone] ∧ firstYear ≤ year then return ofParts year month day hour minute second else none

/-- The moment at the front, and what follows it. -/
def next? (bs : Bytes) : Option (Moment × Bytes) := do
  let (v, rest) ← Der.next? bs
  if v.tag = shortTag ∨ v.tag = longTag then return (← ofContent? (v.tag == shortTag) v.content, rest)
  else none

/-- The last digits of a number. -/
def digits : (count : Nat) → Nat → Bytes
  | 0, _ => []
  | count + 1, n => digits count (n / 10) ++ [0x30 + (n % 10).toUInt8]

/-- A moment as it is written with a year of four digits. -/
def encode (year month day : Nat) : Bytes :=
  Der.encode longTag (digits 4 year ++ digits 2 month ++ digits 2 day ++ digits 6 0 ++ [zone])

end Moment

end StreamHost.Tls
