import TxGateway.Failure

/-!
# How calls end

A call returns a value or a failure, or it breaks off because a number or a date leaves its range.
A failure is told to the caller as such; a crash is not, but whatever the call still owed is
settled after it.
-/

namespace TxGateway

/-- Why a call breaks off. -/
inductive Crash
  /-- A price or a cost is no word any more. -/
  | priceOverflow
  /-- A date would lie outside of the calendar. -/
  | outsideCalendar
  /-- A length of time is too great for every date. -/
  | spanOverflow
  /-- A timer without a period. -/
  | zeroPeriod
  /-- A number of the chain is too great for a counter. -/
  | counterOverflow
  deriving DecidableEq, Repr

namespace Crash

/-- The wording of a crash. -/
def message : Crash → String
  | priceOverflow => "arithmetic operation overflow"
  | outsideCalendar => "`DateTime - TimeDelta` overflowed"
  | spanOverflow => "TimeDelta::milliseconds out of bounds"
  | zeroPeriod => "`period` must be non-zero."
  | counterOverflow => "Integer overflow when casting to u64"

end Crash

/-- The end of a call that can fail or crash. -/
inductive Ending (α : Type)
  /-- The call returns. -/
  | returned (result : Except Failure α)
  /-- The call breaks off. -/
  | crashed (crash : Crash)

namespace Ending

/-- Maps the value of a call that returns. -/
def map {α β : Type} (f : α → β) : Ending α → Ending β
  | returned result => returned (result.map f)
  | crashed crash => crashed crash

/-- The end of a call that cannot crash. -/
def ofResult {α β : Type} (f : α → β) (result : Except Failure α) : Ending β :=
  returned (result.map f)

/-- The end of a call that can only return. -/
def ofValue {α : Type} (a : α) : Ending α := returned (.ok a)

end Ending

end TxGateway
