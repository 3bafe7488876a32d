/-!
# Guards against overlapping scans

A guard is entered by at most one scan at a time. A second scan is turned away at once and does
not wait.
-/

set_option autoImplicit false

namespace Presence

/-- The mark of a running scan. -/
structure ScanGuard where
  isRunning : Bool := false
  deriving Repr, DecidableEq

namespace ScanGuard

/-- Sets the mark, unless it is set; tells whether it was set by this attempt. -/
def tryEnter (g : ScanGuard) : Bool × ScanGuard := (!g.isRunning, ⟨true⟩)

/-- Takes the mark away. -/
def leave (_ : ScanGuard) : ScanGuard := ⟨false⟩

end ScanGuard

end Presence
