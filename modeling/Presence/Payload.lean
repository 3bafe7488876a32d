import Presence.Session

/-!
# Handling payloads

A payload is the text of an activity event. It is counted once, as processed or as failed, and
confirmed whatever became of it.
-/

set_option autoImplicit false

namespace Presence

/-- What became of a payload. -/
inductive PayloadStatus where
  | processed
  | failed
  /-- The payload is no activity event. -/
  | malformed
  deriving Repr, DecidableEq

namespace Service

open Operation

/-- Lets an event have its effect. An event whose user is blank has none. -/
def record (s : Service) (e : ActivityEvent) : Operation Accrual :=
  if Text.isBlankText e.user then .fail .missingUser
  else
    match e.kind with
    | .heartbeat => s.onHeartbeat e.user
    | .activity => s.onActivity e.user

/-- Lets the event of a payload have its effect and counts it. -/
def process (s : Service) (payload : String) : Operation PayloadStatus := do
  match ActivityEvent.decode? payload with
  | none =>
    count (.eventsFailed "malformed") 1
    pure .malformed
  | some e =>
    match ← (s.record e).attempt with
    | .ok _ =>
      count (.eventsProcessed e.kind.name) 1
      pure .processed
    | .error _ =>
      count (.eventsFailed e.kind.name) 1
      pure .failed

/-- Processes a payload and then confirms it. A failure to confirm changes nothing. -/
def handle (s : Service) (payload : String) : Operation PayloadStatus := do
  let status ← s.process payload
  let _ ← (ack payload).attempt
  pure status

end Service

end Presence
