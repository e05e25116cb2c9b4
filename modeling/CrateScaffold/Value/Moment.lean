import CrateScaffold.Text.Quoted

/-!
Dates and times. A moment may carry the distance of its clock from universal time.
-/

namespace CrateScaffold

structure Date where
  year : Nat
  month : Nat
  day : Nat
  deriving DecidableEq, Repr

structure Clock where
  hour : Nat
  minute : Nat
  second : Nat
  micro : Nat
  deriving DecidableEq, Repr

structure Zone where
  minutes : Int
  name : Text
  deriving DecidableEq, Repr

inductive Moment where
  | date (d : Date)
  | clock (c : Clock)
  | both (d : Date) (c : Clock) (zone : Option Zone)
  deriving DecidableEq, Repr

namespace Date

def isLeap (year : Nat) : Bool := year % 4 == 0 && (year % 100 != 0 || year % 400 == 0)

def daysIn (year month : Nat) : Nat :=
  if month = 2 then if isLeap year then 29 else 28
  else if month ∈ [4, 6, 9, 11] then 30
  else 31

def isValid (d : Date) : Bool :=
  1 ≤ d.year && 1 ≤ d.month && d.month ≤ 12 && 1 ≤ d.day && d.day ≤ daysIn d.year d.month

end Date

def Clock.isValid (c : Clock) : Bool := c.hour < 24 && c.minute < 60 && c.second < 60

namespace Text

def digits (width n : Nat) : Text := padLeft width '0' (ofNat n)

def ofDate (d : Date) : Text := digits 4 d.year ++ '-' :: digits 2 d.month ++ '-' :: digits 2 d.day

def ofClock (c : Clock) : Text :=
  digits 2 c.hour ++ ':' :: digits 2 c.minute ++ ':' :: digits 2 c.second ++
    if c.micro = 0 then [] else '.' :: digits 6 c.micro

def ofZone (z : Zone) : Text :=
  (if z.minutes < 0 then '-' else '+') :: digits 2 (z.minutes.natAbs / 60) ++
    ':' :: digits 2 (z.minutes.natAbs % 60)

def ofMoment : Moment → Text
  | .date d => ofDate d
  | .clock c => ofClock c
  | .both d c zone => ofDate d ++ ' ' :: ofClock c ++ (zone.map ofZone).getD []

end Text

namespace Moment

def kind : Moment → Text
  | .date _ => "datetime.date"
  | .clock _ => "datetime.time"
  | .both .. => "datetime.datetime"

def clockParts (c : Clock) : List Text :=
  [c.hour, c.minute].map Text.ofNat ++
    if c.micro ≠ 0 then [c.second, c.micro].map Text.ofNat
    else if c.second ≠ 0 then [Text.ofNat c.second]
    else []

def dateParts (d : Date) : List Text := [d.year, d.month, d.day].map Text.ofNat

def zonePart (z : Zone) : Text :=
  let days : Text := if z.minutes < 0 then "days=-1, " else []
  let seconds := (if z.minutes < 0 then z.minutes + 1440 else z.minutes) * 60
  let delta : Text := if z.minutes = 0 then "0" else days ++ "seconds=" ++ Text.ofInt seconds
  "tzinfo=datetime.timezone(datetime.timedelta(" ++ delta ++ "), " ++ Text.quote z.name ++ ")"

def parts : Moment → List Text
  | .date d => dateParts d
  | .clock c => clockParts c
  | .both d c zone => dateParts d ++ clockParts c ++ (zone.map fun z => [zonePart z]).getD []

def literal (m : Moment) : Text := m.kind ++ '(' :: Text.joinWith ", " m.parts ++ [')']

end Moment

end CrateScaffold
