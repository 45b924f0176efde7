/-
Spans of time in whole nanoseconds, and their growth by a floating-point factor.  The span is first turned into
seconds as a floating-point number: the whole seconds and the part below a second are rounded each by itself and
their sum once more.  The product is taken in the same arithmetic and turned back to the nearest nanosecond.
-/
import TaskTail.Number.Binary64
namespace TaskTail

open Number

structure Duration where
  nanos : Nat
  deriving DecidableEq, Repr, Inhabited

namespace Duration

def nanosPerSecond : Nat := 1000000000

def ofParts (seconds nanos : Nat) : Duration :=
  ⟨seconds * nanosPerSecond + nanos⟩

def ofSeconds (seconds : Nat) : Duration :=
  ofParts seconds 0

def ofMillis (millis : Nat) : Duration :=
  ⟨millis * 1000000⟩

def wholeSeconds (d : Duration) : Nat :=
  d.nanos / nanosPerSecond

def subsecondNanos (d : Duration) : Nat :=
  d.nanos % nanosPerSecond

def min (a b : Duration) : Duration :=
  if a.nanos ≤ b.nanos then a else b

/-- The span in seconds. -/
def seconds (d : Duration) : Binary64 :=
  match roundRatio? d.wholeSeconds 1, roundRatio? d.subsecondNanos nanosPerSecond with
  | some whole, some part => Binary64.addMagnitudes whole part
  | _, _ => .infinite false

/-- Why a number of seconds is not a span of time. -/
inductive RangeError
  | negative
  | tooBig
  deriving DecidableEq, Repr

def RangeError.message : RangeError → String
  | negative => "cannot convert float seconds to Duration: value is negative"
  | tooBig => "cannot convert float seconds to Duration: value is either too big or NaN"

/-- The number of seconds that no span reaches. -/
def secondsBound : Nat := UInt64.size

/-- The span nearest to a number of seconds. -/
def ofSeconds64 : Binary64 → Except RangeError Duration
  | .nan => .error .tooBig
  | .infinite negative => .error (if negative then .negative else .tooBig)
  | .finite negative x =>
    if negative && x.mantissa ≠ 0 then .error .negative
    else if x.atLeast secondsBound then .error .tooBig
    else .ok ⟨roundHalfEven (x.numerator * nanosPerSecond) x.denominator⟩

def scale (d : Duration) (factor : Binary64) : Except RangeError Duration :=
  ofSeconds64 (factor.mul d.seconds)

end Duration

end TaskTail
