import Presence.Binary64
import Presence.Table

/-!
# Metrics

Seven families of counters, four of them with a label. Counters are words of 64 bits and wrap
around. `exposition` is the text in which they are published.
-/

set_option autoImplicit false

namespace Presence

/-- One counter. -/
inductive Counter where
  /-- Events that were processed, by kind. -/
  | eventsProcessed (kind : String)
  /-- Events that failed, by kind. -/
  | eventsFailed (kind : String)
  /-- Sessions that were written to the daily statistics. -/
  | sessionsFlushed
  /-- Seconds that were written to the daily statistics. -/
  | flushedSeconds
  /-- Alerts that were sent, by level. -/
  | alertsSent (level : String)
  /-- Reminders that were sent. -/
  | sleepReminders
  /-- Scans that were skipped because one was running, by job. -/
  | scansSkipped (job : String)
  deriving Repr, DecidableEq

/-- The values of all counters. -/
structure Metrics where
  eventsProcessed : Table String Nat := .empty
  eventsFailed : Table String Nat := .empty
  sessionsFlushed : Nat := 0
  flushedSeconds : Nat := 0
  alertsSent : Table String Nat := .empty
  sleepReminders : Nat := 0
  scansSkipped : Table String Nat := .empty

namespace Metrics

/-- A sum of words of 64 bits, kept below `2 ^ 64`. -/
def plus (a b : Nat) : Nat := (a + b) % 18446744073709551616

/-- A labelled family after adding to the counter of a label. -/
def addTo (t : Table String Nat) (label : String) (n : Nat) : Table String Nat :=
  t.modify label 0 (plus · n)

/-- The counters after adding to one of them. -/
def add (m : Metrics) (c : Counter) (n : Nat) : Metrics :=
  match c with
  | .eventsProcessed l => { m with eventsProcessed := addTo m.eventsProcessed l n }
  | .eventsFailed l => { m with eventsFailed := addTo m.eventsFailed l n }
  | .sessionsFlushed => { m with sessionsFlushed := plus m.sessionsFlushed n }
  | .flushedSeconds => { m with flushedSeconds := plus m.flushedSeconds n }
  | .alertsSent l => { m with alertsSent := addTo m.alertsSent l n }
  | .sleepReminders => { m with sleepReminders := plus m.sleepReminders n }
  | .scansSkipped l => { m with scansSkipped := addTo m.scansSkipped l n }

/-- The value of one counter; a label that was never counted stands at zero. -/
def value (m : Metrics) : Counter → Nat
  | .eventsProcessed l => m.eventsProcessed.getD l 0
  | .eventsFailed l => m.eventsFailed.getD l 0
  | .sessionsFlushed => m.sessionsFlushed
  | .flushedSeconds => m.flushedSeconds
  | .alertsSent l => m.alertsSent.getD l 0
  | .sleepReminders => m.sleepReminders
  | .scansSkipped l => m.scansSkipped.getD l 0

/-- A family of counters as it is published: its name, what it counts, and each counter with the
text of its label. -/
structure Family where
  name : String
  help : String
  counters : List (String × Nat)

/-- A label in quotes: the quote, the backslash and the end of a line are escaped. -/
def quotedLabel (s : String) : String :=
  let escape (c : Char) : List Char :=
    if c = '\\' then ['\\', '\\']
    else if c = '"' then ['\\', '"']
    else if c = '\n' then ['\\', 'n']
    else [c]
  String.ofList ('"' :: s.toList.flatMap escape ++ ['"'])

/-- A family with labels of a name. -/
def labelled (name help label : String) (t : Table String Nat) : Family :=
  ⟨name, help, t.entries.map fun p => ("\x7b" ++ label ++ "=" ++ quotedLabel p.1 ++ "\x7d", p.2)⟩

/-- A family of one counter. -/
def single (name help : String) (n : Nat) : Family := ⟨name, help, [("", n)]⟩

/-- The families in the order of their names. -/
def families (m : Metrics) : List Family := [
  labelled "presence_alerts_sent_total" "Total number of online time alerts dispatched" "level"
    m.alertsSent,
  labelled "presence_events_failed_total" "Total number of activity events that failed" "kind"
    m.eventsFailed,
  labelled "presence_events_processed_total" "Total number of activity events processed" "kind"
    m.eventsProcessed,
  single "presence_flushed_seconds_total" "Total online seconds flushed to daily statistics"
    m.flushedSeconds,
  labelled "presence_scans_skipped_total"
    "Total number of scans skipped because the previous run was still active" "job"
    m.scansSkipped,
  single "presence_sessions_flushed_total"
    "Total number of closed sessions flushed to daily statistics" m.sessionsFlushed,
  single "presence_sleep_reminders_total" "Total number of sleep reminders dispatched"
    m.sleepReminders]

/-- The lines of a family. A value is written as a floating-point number. -/
def Family.text (f : Family) : String :=
  "# HELP " ++ f.name ++ " " ++ f.help ++ "\n# TYPE " ++ f.name ++ " counter\n" ++
    String.join (f.counters.map fun c =>
      f.name ++ c.1 ++ " " ++ (Binary64.ofInt c.2).text .plain ++ "\n")

/-- The text in which the counters are published; a family without counters is left out. -/
def exposition (m : Metrics) : String :=
  String.join ((m.families.filter fun f => !f.counters.isEmpty).map Family.text)

end Metrics

end Presence
