namespace ComponentBuild

structure TimeOfDay where
  hour : Nat
  minute : Nat
  second : Nat
  micro : Nat
  deriving DecidableEq

/-- The distance of the clock is in minutes. -/
structure Moment where
  year : Nat
  month : Nat
  day : Nat
  time : Option TimeOfDay
  offset : Option Int
  deriving DecidableEq

inductive MomentFault
  | year (n : Nat)
  | month
  | day
  | hour
  | minute
  | second
  | offset (minutes : Int)
  deriving DecidableEq

namespace MomentFault

def span (minutes : Int) : String :=
  let days := minutes / 1440
  let seconds := minutes % 1440 * 60
  if seconds = 0 then s!"datetime.timedelta(days={days})"
  else s!"datetime.timedelta(days={days}, seconds={seconds})"

def message : MomentFault → String
  | year n => s!"year {n} is out of range"
  | month => "month must be in 1..12"
  | day => "day is out of range for month"
  | hour => "hour must be in 0..23"
  | minute => "minute must be in 0..59"
  | second => "second must be in 0..59"
  | offset minutes => "offset must be a timedelta strictly between -timedelta(hours=24) and " ++
      s!"timedelta(hours=24), not {span minutes}."

end MomentFault

namespace Moment

def isLeap (year : Nat) : Bool := year % 4 == 0 && (year % 100 != 0 || year % 400 == 0)

def daysIn (year month : Nat) : Nat :=
  if month = 2 then (if isLeap year then 29 else 28)
  else if month ∈ [4, 6, 9, 11] then 30
  else 31

def dateFault? (m : Moment) : Option MomentFault :=
  if m.year = 0 then some (.year m.year)
  else if m.month = 0 ∨ 12 < m.month then some .month
  else if m.day = 0 ∨ daysIn m.year m.month < m.day then some .day
  else none

def timeFault? (t : TimeOfDay) : Option MomentFault :=
  if 23 < t.hour then some .hour
  else if 59 < t.minute then some .minute
  else if 59 < t.second then some .second
  else none

def fault? (m : Moment) : Option MomentFault :=
  match m.offset with
  | some minutes =>
    if 1440 ≤ minutes.natAbs then some (.offset minutes)
    else m.dateFault?.or (m.time.bind timeFault?)
  | none => m.dateFault?.or (m.time.bind timeFault?)

def padded (width n : Nat) : String :=
  let digits := toString n
  String.ofList (List.replicate (width - digits.length) '0') ++ digits

def timeText (t : TimeOfDay) : String :=
  s!" {padded 2 t.hour}:{padded 2 t.minute}:{padded 2 t.second}" ++
    (if t.micro = 0 then "" else s!".{padded 6 t.micro}")

def offsetText (minutes : Int) : String :=
  let sign := if minutes < 0 then "-" else "+"
  s!"{sign}{padded 2 (minutes.natAbs / 60)}:{padded 2 (minutes.natAbs % 60)}"

def text (m : Moment) : String :=
  s!"{padded 4 m.year}-{padded 2 m.month}-{padded 2 m.day}" ++
    (m.time.map timeText).getD "" ++ (m.offset.map offsetText).getD ""

def dayNumber (m : Moment) : Nat :=
  let past := m.year - 1
  let before := past * 365 + past / 4 - past / 100 + past / 400
  (List.range (m.month - 1)).foldl (fun days k => days + daysIn m.year (k + 1)) before + m.day

def universal? (m : Moment) : Option Int := do
  let t ← m.time
  let distance ← m.offset
  let minutes : Int := ((m.dayNumber * 24 + t.hour) * 60 + t.minute : Nat) - distance
  return (minutes * 60 + t.second) * 1000000 + t.micro

def sameInstant (m n : Moment) : Bool :=
  match m.universal?, n.universal? with
  | some i, some j => i == j
  | _, _ => m == n

end Moment

end ComponentBuild
