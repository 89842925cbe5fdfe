/-!
# Time

Times are milliseconds since the epoch, in 64 bits. A time of day counts whole
seconds since local midnight, so that a leap second stays within the minute it
ends.
-/

namespace FuturesDesk

/-- A time of day to the minute, in minutes since midnight. -/
abbrev Minute := Nat

/-- A time of day: seconds since midnight, and the milliseconds into the
second. A leap second is the second before it, from the thousandth millisecond
on. -/
structure TimeOfDay where
  second : Nat
  milli : Nat
deriving DecidableEq, Repr

namespace TimeOfDay

def ofMinute (m : Minute) : TimeOfDay := ⟨60 * m, 0⟩

def before (a b : TimeOfDay) : Bool := a.second < b.second || (a.second = b.second && a.milli < b.milli)

/-- Before a minute means in an earlier second. -/
theorem before_ofMinute (t : TimeOfDay) (m : Minute) : t.before (ofMinute m) = true ↔ t.second < 60 * m := by
  simp only [before, Bool.or_eq_true, Bool.and_eq_true, decide_eq_true_eq]
  simp [ofMinute]

end TimeOfDay

namespace Clock

def daySeconds : Nat := 24 * 60 * 60

/-- The milliseconds from `since` to `now`, none if that lies ahead. -/
def elapsed (since now : UInt64) : Nat := now.toNat - since.toNat

/-- A time of 64 bits without a sign, taken as one with a sign. -/
def signed (t : UInt64) : Int64 := t.toInt64

/-- `a - b`, held at the limits of 64 bits. -/
def saturatingSub (a b : Int64) : Int64 :=
  Int64.ofInt (max Int64.minValue.toInt (min Int64.maxValue.toInt (a.toInt - b.toInt)))

end Clock

/-- A time zone: how many seconds its clocks are ahead of universal time, which
may change in the course of a year. -/
structure Zone where
  offset : UInt64 → Int

namespace Zone

def utc : Zone := ⟨fun _ => 0⟩

/-- What the clocks of a zone show at a time since the epoch. -/
def timeOfDay (z : Zone) (now : UInt64) : TimeOfDay :=
  ⟨((↑(now.toNat / 1000) + z.offset now) % ↑Clock.daySeconds).toNat, now.toNat % 1000⟩

theorem second_timeOfDay_lt (z : Zone) (now : UInt64) : (z.timeOfDay now).second < Clock.daySeconds := by
  have hday : Clock.daySeconds = 86400 := rfl
  simp only [timeOfDay, hday]
  omega

end Zone

end FuturesDesk
