/-!
# Moments

A moment is a number of nanoseconds since the start of 1970.  The calendar ends on
both sides; what lies outside cannot be represented.

* `Moment.ofSeconds?` and `Moment.after?` give only moments of the calendar.
-/

namespace CloudClient

structure Moment where
  /-- Nanoseconds since the start of 1970. -/
  nanos : Int
deriving DecidableEq, Repr

namespace Moment

def perSecond : Int := 1000000000

def firstSecond : Int := -8334601228800

def lastSecond : Int := 8210266876799

/-- The longest span of time in seconds. -/
def longestSpan : Int := 9223372036854775

def seconds (t : Moment) : Int := Int.fdiv t.nanos perSecond

def isRepresentable (t : Moment) : Bool :=
  decide (firstSecond ≤ t.seconds ∧ t.seconds ≤ lastSecond)

/-- A moment without checking the calendar. -/
def ofSeconds (s : Int) : Moment := ⟨s * perSecond⟩

/-- The moment a number of seconds after the start of 1970. -/
def ofSeconds? (s : Int) : Option Moment :=
  if firstSecond ≤ s ∧ s ≤ lastSecond then some (ofSeconds s) else none

/-- A span of seconds, unless it is too long to be one. -/
def span? (s : Int) : Option Int :=
  if -longestSpan ≤ s ∧ s ≤ longestSpan then some s else none

def after (t : Moment) (span : Int) : Moment := ⟨t.nanos + span * perSecond⟩

def reached (t goal : Moment) : Bool := decide (goal.nanos ≤ t.nanos)

end Moment

end CloudClient
