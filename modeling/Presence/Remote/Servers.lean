import Presence.Memory
import Presence.Remote

/-!
# Scripted servers

Servers that keep no data: they note every command and answer it with the next reply of a list, and
refuse it when the list is empty. With them a program over servers can be run without any.
-/

set_option autoImplicit false

namespace Presence

/-- Two scripted servers, and the surroundings that are no servers. -/
structure Servers where
  /-- The replies of Redis that are left. -/
  redis : List RedisReply := []
  /-- The replies of MongoDB that are left. -/
  mongo : List MongoReply := []
  /-- The commands that Redis got, the last one first. -/
  redisLog : List RedisCommand := []
  /-- The commands that MongoDB got, the last one first. -/
  mongoLog : List MongoCommand := []
  /-- The clock, the counters and the marks of the scans. -/
  memory : Memory

namespace Servers

/-- Lets the surroundings that are no servers answer. -/
def answer (c : Call) (s : Servers) : Outcome c.Reply × Servers :=
  let (r, m) := Memory.serve c s.memory
  (r, { s with memory := m })

/-- Answers a call. -/
def serve : (c : RemoteCall) → Servers → Outcome c.Reply × Servers
  | .redis c, s =>
    (.ok (s.redis.head?.getD (.refused "no reply")),
      { s with redis := s.redis.tail, redisLog := c :: s.redisLog })
  | .mongo c, s =>
    (.ok (s.mongo.head?.getD (.refused "no reply")),
      { s with mongo := s.mongo.tail, mongoLog := c :: s.mongoLog })
  | .now, s => answer .now s
  | .stamp, s => answer .now s
  | .count c n, s => answer (.count c n) s
  | .enter job, s => answer (.enter job) s
  | .leave job, s => answer (.leave job) s

/-- Runs a program to its end. -/
def run {α : Type} (p : RemoteOperation α) (s : Servers) : Outcome α × Servers := Program.run serve p s

/-- The servers with other replies, and nothing noted. -/
def withReplies (s : Servers) (redis : List RedisReply) (mongo : List MongoReply) : Servers :=
  { s with redis, mongo, redisLog := [], mongoLog := [] }

end Servers

end Presence
