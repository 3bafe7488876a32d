import Presence.Text.Decimal
import Presence.Text.Float

/-!
# Redis commands and replies

A command is sent as a list of words. A reply carries no type, so each command reads the reply it
gets in its own way; a reply that cannot be read so counts as an error.
-/

set_option autoImplicit false

namespace Presence

/-- A command of the service. -/
inductive RedisCommand where
  | get (key : String)
  /-- Writes a text, for a number of seconds or for ever. -/
  | put (key value : String) (ttl : Option Nat)
  | score (set member : String)
  | setScore (set member : String) (value : Int)
  | addScore (set member : String) (delta : Int)
  /-- The members whose score is at least `low` and below `high`. -/
  | membersBetween (set : String) (low : Int) (high : Option Int)
  | removeMember (set member : String)
  /-- Puts a text at the left end of a list. -/
  | pushLeft (list value : String)
  /-- Moves the text at the right end of a list to the left end of another, waiting for it. -/
  | moveWaiting (source target : String) (seconds : Binary64)
  /-- Moves the text at the left end of a list to the right end of another. -/
  | moveBack (source target : String)
  /-- Takes the first text of a list that equals a given one out of it. -/
  | removeFirst (list value : String)
  | publish (channel message : String)
  deriving Repr, DecidableEq

/-- A command as it is sent. -/
def RedisCommand.words : RedisCommand → List String
  | .get key => ["GET", key]
  | .put key value none => ["SET", key, value]
  | .put key value (some ttl) => ["SETEX", key, toString ttl, value]
  | .score set member => ["ZSCORE", set, member]
  | .setScore set member value => ["ZADD", set, toString value, member]
  | .addScore set member delta => ["ZINCRBY", set, toString delta, member]
  | .membersBetween set low none => ["ZRANGEBYSCORE", set, toString low, "+inf"]
  | .membersBetween set low (some high) =>
    ["ZRANGEBYSCORE", set, toString low, "(" ++ toString high]
  | .removeMember set member => ["ZREM", set, member]
  | .pushLeft list value => ["LPUSH", list, value]
  | .moveWaiting source target seconds =>
    -- whole numbers of seconds are written with a fraction
    ["BLMOVE", source, target, "RIGHT", "LEFT", seconds.text .compact]
  | .moveBack source target => ["LMOVE", source, target, "LEFT", "RIGHT"]
  | .removeFirst list value => ["LREM", list, "1", value]
  | .publish channel message => ["PUBLISH", channel, message]

/-- A reply of the server. -/
inductive RedisReply where
  | nothing
  | text (s : String)
  /-- Octets that are no text. -/
  | octets
  | integer (n : Int)
  | done
  | list (items : List String)
  | refused (message : String)
  deriving Repr, DecidableEq

namespace RedisReply

/-- What is said of a reply that cannot be read. -/
def unreadable {α : Type} : RedisReply → Except String α
  | .refused message => .error message
  | _ => .error "unexpected reply"

/-- A text. -/
def asText : RedisReply → Except String String
  | .text s => .ok s
  | .integer n => .ok (toString n)
  | .done => .ok "OK"
  | r => r.unreadable

/-- An integer, or its decimal text. -/
def asInt : RedisReply → Except String Int
  | .integer n => .ok n
  | .text s =>
    match Text.readSigned64? s with
    | some n => .ok n
    | none => .error "no integer"
  | r => r.unreadable

/-- A floating point number, or its text. -/
def asFloat : RedisReply → Except String Binary64
  | .integer n => .ok (.ofInt n)
  | .text s =>
    match Text.readFloat? s with
    | some x => .ok x
    | none => .error "no number"
  | r => r.unreadable

/-- A reply that can also be nothing. -/
def asOption {α : Type} (read : RedisReply → Except String α) : RedisReply → Except String (Option α)
  | .nothing => .ok none
  | r => (read r).map some

/-- A text or nothing. -/
def asTextOrNothing : RedisReply → Except String (Option String) := asOption asText

/-- A floating point number or nothing. -/
def asFloatOrNothing : RedisReply → Except String (Option Binary64) := asOption asFloat

/-- A list of texts. One text alone is a list as well, and so is nothing. -/
def asTexts : RedisReply → Except String (List String)
  | .list items => .ok items
  | .text s => .ok [s]
  | .nothing => .ok []
  | r => r.unreadable

/-- Whatever is no error. -/
def asDone : RedisReply → Except String Unit
  | .refused message => .error message
  | _ => .ok ()

end RedisReply

end Presence
