import QueryTree.Time.Calendar

/-! Points in time on the UTC scale. -/
namespace QueryTree.Time

/-- Whole seconds since 1970-01-01T00:00:00 and nanoseconds into that second. Inside a leap second
the nanoseconds go on past 10^9, after the last second of a minute. -/
structure Instant where
  second : Int
  nano : Nat
  inSecond : nano < 1000000000 ∨ nano < 2000000000 ∧ second % 60 = 59
  deriving DecidableEq, Repr

def Instant.ofCounts? (second : Int) (nano : Nat) : Option Instant :=
  if h : nano < 1000000000 ∨ nano < 2000000000 ∧ second % 60 = 59 then some ⟨second, nano, h⟩ else none

def Instant.date (t : Instant) : Date := Date.ofDayNumber (t.second / 86400)

def Instant.secondOfDay (t : Instant) : Nat := (t.second % 86400).toNat

end QueryTree.Time
