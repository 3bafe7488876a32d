/-!
# How an operation ends

An operation of the service ends with a value, with a failure that its caller can handle, or with
a crash that no caller handles. Failures are causes with a message each; crashes are the bounds of
the machine that an operation can run into.
-/

set_option autoImplicit false

namespace Presence

universe u v

/-- What a backend reports to be wrong. -/
inductive ErrorCode where
  /-- A service that is needed cannot be reached. -/
  | serviceUnavailable
  /-- A store has refused or garbled a request. -/
  | databaseError
  deriving Repr, DecidableEq

/-- The text of a code. -/
def ErrorCode.text : ErrorCode → String
  | .serviceUnavailable => "SERVICE_UNAVAILABLE"
  | .databaseError => "DATABASE_ERROR"

/-- An error of a backend: a code, a message and what the backend said itself. -/
structure BackendError where
  code : ErrorCode
  message : String
  details : Option String := none
  deriving Repr, DecidableEq

namespace BackendError

/-- The error with the words of its cause. -/
def withDetails (e : BackendError) (details : String) : BackendError :=
  { e with details := some details }

/-- A result whose failure, whatever it is, becomes an error with the failure as its details. -/
def wrap {α : Type u} (code : ErrorCode) (message : String) : Except String α → Except BackendError α
  | .ok a => .ok a
  | .error cause => .error { code, message, details := some cause }

/-- The error as one line of text. -/
def text (e : BackendError) : String :=
  let cause := match e.details with
    | some d => ": " ++ d
    | none => ""
  "[" ++ e.code.text ++ "] " ++ e.message ++ cause

end BackendError

/-- Why an operation has failed. -/
inductive Failure where
  /-- An alert range that is not positive was asked for. -/
  | nonPositiveRange (range : Int)
  /-- An activity event names no user. -/
  | missingUser
  /-- A backend has reported an error. -/
  | backend (error : BackendError)
  /-- A failure that is known by its message only. -/
  | reported (message : String)
  deriving Repr, DecidableEq

/-- The message of a failure. -/
def Failure.message : Failure → String
  | .nonPositiveRange r => "alert range must be positive, got " ++ toString r
  | .missingUser => "activity event without user id"
  | .backend e => e.text
  | .reported m => m

/-- A bound of the machine that an operation has run into. -/
inductive Crash where
  /-- A sum left the range of its word. -/
  | addition
  /-- A product left the range of its word. -/
  | multiplication
  /-- A span of time is longer than spans can be. -/
  | span
  /-- An instant lies outside the calendar. -/
  | instant
  /-- A waiting time is no span of time. -/
  | waiting
  /-- More workers were asked for than there can be permits. -/
  | permits
  /-- A timer has no period. -/
  | period
  deriving Repr, DecidableEq

/-- The message of a crash. -/
def Crash.message : Crash → String
  | .addition => "attempt to add with overflow"
  | .multiplication => "attempt to multiply with overflow"
  | .span => "TimeDelta::seconds out of bounds"
  | .instant => "`DateTime + TimeDelta` overflowed"
  | .waiting => "cannot convert float seconds to Duration: value is either too big or NaN"
  | .permits => "a semaphore may not have more than MAX_PERMITS permits (2305843009213693951)"
  | .period => "`period` must be non-zero."

/-- How an operation ends. -/
inductive Outcome (α : Type u) where
  | ok (value : α)
  | failed (failure : Failure)
  | crashed (crash : Crash)
  deriving Repr, DecidableEq

namespace Outcome

variable {α : Type u} {β : Type v}

/-- The value of an operation that has one, else a crash. -/
def ofOption (crash : Crash) : Option α → Outcome α
  | some a => .ok a
  | none => .crashed crash

/-- Goes on with the value, if there is one. -/
def andThen (x : Outcome α) (f : α → Outcome β) : Outcome β :=
  match x with
  | .ok a => f a
  | .failed e => .failed e
  | .crashed c => .crashed c

/-- Applies a function to the value. -/
def map (f : α → β) (x : Outcome α) : Outcome β := x.andThen fun a => .ok (f a)

/-- An operation that has ended with a value. -/
def isOk : Outcome α → Bool
  | .ok _ => true
  | _ => false

@[simp] theorem andThen_ok (a : α) (f : α → Outcome β) : (ok a).andThen f = f a := rfl

@[simp] theorem andThen_failed (e : Failure) (f : α → Outcome β) :
    (failed e : Outcome α).andThen f = failed e := rfl

@[simp] theorem andThen_crashed (c : Crash) (f : α → Outcome β) :
    (crashed c : Outcome α).andThen f = crashed c := rfl

end Outcome

end Presence
