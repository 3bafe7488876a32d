import Presence.Clock
import Presence.Ledger
import Presence.Queue
import Presence.ScanGuard
import Presence.Store

/-!
# Surroundings in memory

Everything that the service asks for, kept in memory: what a call answers and what it leaves
behind.
-/

set_option autoImplicit false

namespace Presence

/-- The surroundings of the service. -/
structure Memory where
  store : Store := {}
  ledger : Ledger := {}
  /-- The alert ranges that users chose. -/
  profiles : Table String Int := .empty
  /-- The notifications that were sent, in order. -/
  sent : List Notification := []
  queue : Queue := {}
  clock : Clock
  metrics : Metrics := {}
  /-- The guards of the scans. -/
  guards : ScanJob → ScanGuard := fun _ => {}

namespace Memory

/-- Replaces the guard of a scan. -/
def withGuard (m : Memory) (job : ScanJob) (g : ScanGuard) : Memory :=
  { m with guards := fun j => if j = job then g else m.guards j }

/-- Answers a call. -/
def serve : (c : Call) → Memory → Outcome c.Reply × Memory
  | .store c, m => let (r, s) := Store.serve m.clock.now c m.store; (r, { m with store := s })
  | .ledger c, m => let (r, l) := Ledger.serve c m.ledger; (r, { m with ledger := l })
  | .profile user, m => (.ok (m.profiles.get? user), m)
  | .notify n, m => (.ok (), { m with sent := m.sent ++ [n] })
  | .queue c, m => let (r, q) := Queue.serve c m.queue; (r, { m with queue := q })
  | .now, m => (.ok m.clock.now, m)
  | .count c n, m => (.ok (), { m with metrics := m.metrics.add c n })
  | .enter job, m => let (b, g) := (m.guards job).tryEnter; (.ok b, m.withGuard job g)
  | .leave job, m => (.ok (), m.withGuard job (m.guards job).leave)

/-- Runs an operation without anything going wrong around it. -/
def run {α : Type} (op : Operation α) (m : Memory) : Outcome α × Memory := Program.run serve op m

end Memory

end Presence
