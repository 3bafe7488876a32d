import Presence.Text.Blank
import Presence.Text.Decimal

/-!
# Logging

What is logged is decided by directives: each names a level, and at most a target, a span and
fields. Of the directives that match an event the one with the longest target decides. Directives
come from the surroundings if they are well formed there, and from the settings otherwise.
-/

set_option autoImplicit false

namespace Presence

/-- The settings of the log: directives, and which parts a line shows. -/
structure Logging where
  level : String := "info"
  withTarget : Bool := false
  withThreadIds : Bool := false
  withFile : Bool := true
  withLineNumber : Bool := true
  deriving Repr, DecidableEq

/-- How much is logged, from nothing to everything. -/
inductive LogLevel where
  | off
  | error
  | warn
  | info
  | debug
  | trace
  deriving Repr, DecidableEq

namespace LogLevel

/-- The place of a level, from nothing to everything. -/
def rank : LogLevel → Nat
  | .off => 0
  | .error => 1
  | .warn => 2
  | .info => 3
  | .debug => 4
  | .trace => 5

/-- The levels by rank, with their names. -/
def names : List (String × LogLevel) :=
  [("off", .off), ("error", .error), ("warn", .warn), ("info", .info), ("debug", .debug),
   ("trace", .trace)]

/-- The level of a rank or of a name in either case. -/
def read? (s : String) : Option LogLevel :=
  match (Text.readNat? 18446744073709551615 s).bind fun n => names[n]? with
  | some p => some p.2
  | none => names.lookup (Text.lowerAscii s)

end LogLevel

/-- A rule about what is logged. -/
structure LogDirective where
  level : LogLevel := .trace
  target : Option String := none
  span : Option String := none
  /-- The names of fields, with the values that they must have. -/
  fields : List (String × Option String) := []
  deriving Repr, DecidableEq

namespace LogDirective

/-- A character with which a target can begin. -/
def isStart (c : Char) : Bool :=
  c = '-' || c = ':' || c = '_' || c.isAlphanum || 128 ≤ c.toNat

/-- A field with its value, if an equals sign follows the name. -/
def field? (cs : List Char) : Option (String × Option String) :=
  match cs, cs.dropWhile (· ≠ '=') with
  | [], _ => none
  | cs, '=' :: v =>
    some (String.ofList (cs.takeWhile (· ≠ '=')), some (String.ofList (v.takeWhile (· ≠ '='))))
  | cs, _ => some (String.ofList cs, none)

/-- The level after an equals sign, everything where none is named. -/
def level? (cs : List Char) : Option LogLevel :=
  if cs.isEmpty then some .trace else LogLevel.read? (String.ofList cs)

/-- What follows a span in brackets: nothing, or a level. -/
def afterSpan? (d : LogDirective) : List Char → Option LogDirective
  | [] => some d
  | '=' :: r => (level? r).map fun l => { d with level := l }
  | _ => none

/-- A span after its opening bracket. Its fields stand in braces. -/
def span? (d : LogDirective) (cs : List Char) : Option LogDirective :=
  let inside (c : Char) : Bool := c ≠ ']' && c ≠ '\x7b'
  let name := cs.takeWhile inside
  match cs.dropWhile inside with
  | ']' :: r => afterSpan? { d with span := some (String.ofList name) } r
  | '\x7b' :: r => do
    let f ← field? (r.takeWhile (· ≠ '\x7d'))
    match r.dropWhile (· ≠ '\x7d') with
    | '\x7d' :: ']' :: r =>
      let span := if name.isEmpty then none else some (String.ofList name)
      afterSpan? { d with span, fields := [f] } r
    | _ => none
  | _ => none

/-- The directive of a text. A word alone is a level or else a target; where a level follows there
are no blanks. -/
def read? (cs : List Char) : Option LogDirective :=
  let inside (c : Char) : Bool := c ≠ '=' && c ≠ '['
  match Text.trimmed cs with
  | [] => none
  | '[' :: r => span? {} r
  | c :: _ =>
    if isStart c then
      let word := String.ofList (cs.takeWhile inside)
      match cs.dropWhile inside with
      | '=' :: r =>
        -- a blank in front shifts the level out of its place
        if (cs.head?.map Text.isBlank).getD false then none
        else (level? r).map fun l => { level := l, target := some word }
      | '[' :: r => span? { target := some word } r
      | _ =>
        match LogLevel.read? word with
        | some l => some { level := l }
        | none => some { target := some word }
    else none

/-- A directive that decides about events wherever they happen. -/
def isStatic (d : LogDirective) : Bool := d.span.isNone && d.fields.all fun f => f.2.isNone

end LogDirective

/-- Something that can be logged. -/
structure LogEvent where
  name : String
  level : LogLevel
  target : String
  fields : List String := ["message"]
  deriving Repr, DecidableEq

namespace LogDirective

/-- A directive whose target and fields an event has. -/
def matchesEvent (d : LogDirective) (e : LogEvent) : Bool :=
  d.isStatic && (d.target.getD "").toList.isPrefixOf e.target.toList &&
    d.fields.all fun f => e.fields.contains f.1

/-- The length of the target and the number of fields; no target counts less than an empty one. -/
def weight (d : LogDirective) : Nat × Nat :=
  ((d.target.map fun t => t.utf8ByteSize + 1).getD 0, d.fields.length)

/-- The more special one of two directives, the later one where they are equally special. -/
def special (best : Option LogDirective) (d : LogDirective) : Option LogDirective :=
  match best with
  | some b =>
    if b.weight.1 < d.weight.1 || (b.weight.1 = d.weight.1 && b.weight.2 ≤ d.weight.2) then some d
    else some b
  | none => some d

end LogDirective

/-- What is logged. -/
abbrev LogFilter := List LogDirective

namespace LogFilter

/-- The directives of a text, with commas between them. -/
def parts (s : String) : List (List Char) :=
  (s.toList.splitOn ',').filter fun cs => !cs.isEmpty

/-- The filter of a text all of whose directives are well formed. -/
def read? (s : String) : Option LogFilter := (parts s).mapM LogDirective.read?

/-- The filter of the well formed directives of a text; errors alone where there are none. -/
def lenient (s : String) : LogFilter :=
  match (parts s).filterMap LogDirective.read? with
  | [] => [{ level := .error }]
  | ds => ds

/-- An event that is logged. -/
def admits (f : LogFilter) (e : LogEvent) : Bool :=
  match (f.filter fun d => d.matchesEvent e).foldl LogDirective.special none with
  | some d => e.level.rank ≤ d.level.rank
  | none => false

end LogFilter

namespace Logging

/-- The filter that holds: the one of the surroundings, if there is one and it is well formed, and
that of the settings otherwise. -/
def filter (l : Logging) (surroundings : Option String) : LogFilter :=
  (surroundings.bind LogFilter.read?).getD (.lenient l.level)

/-- The target of what is logged about logging itself. -/
def ownTarget : String := "flare_social_core::tracing"

/-- The event of a second attempt to set up the log, which changes nothing. -/
def alreadyInitialized : LogEvent := ⟨"already_initialized", .debug, ownTarget, ["message"]⟩

end Logging

end Presence
