import Presence.Call
import Presence.Mongo
import Presence.Redis
import Presence.Settings

/-!
# A service with servers

Here the service keeps its state in servers: the presence store, the queue and the notifications in
Redis, the daily statistics and the profiles in MongoDB. Every call of the service is expressed by
commands and by what is made of their replies; the clock, the counters and the marks of the scans
stay where they are. A reply that cannot be used is an error of the backend.
-/

set_option autoImplicit false

namespace Presence

/-- What a service with servers asks of its surroundings. -/
inductive RemoteCall where
  | redis (c : RedisCommand)
  | mongo (c : MongoCommand)
  /-- The clock of the service. -/
  | now
  /-- The clock of the machine, by which documents are stamped. -/
  | stamp
  | count (c : Counter) (n : Nat)
  | enter (job : ScanJob)
  | leave (job : ScanJob)

/-- The type of the reply to a call. -/
@[reducible]
def RemoteCall.Reply : RemoteCall → Type
  | .redis _ => RedisReply
  | .mongo _ => MongoReply
  | .now => Instant
  | .stamp => Instant
  | .count _ _ => Unit
  | .enter _ => Bool
  | .leave _ => Unit

/-- A program over the servers. -/
abbrev RemoteOperation (α : Type) := Program RemoteCall.Reply α

namespace RemoteOperation

/-- The program that makes one call. -/
def of (c : RemoteCall) : RemoteOperation c.Reply := .ask c

/-- Sends a command to Redis. -/
def redis (c : RedisCommand) : RemoteOperation RedisReply := of (.redis c)

/-- Sends a command to MongoDB. -/
def mongo (c : MongoCommand) : RemoteOperation MongoReply := of (.mongo c)

/-- Ends with a result, whose failure is an error of a backend. -/
def check {α : Type} (code : ErrorCode) (message : String) (r : Except String α) :
    RemoteOperation α :=
  match BackendError.wrap code message r with
  | .ok a => .ret a
  | .error e => .fail (.backend e)

/-- Ends with a result, whose failure is known by a message. -/
def expect {α : Type} (message : String) (r : Except String α) : RemoteOperation α :=
  match r with
  | .ok a => .ret a
  | .error _ => .fail (.reported message)

end RemoteOperation

namespace Remote

open RemoteOperation

/-- The presence store in Redis. -/
def store : (c : StoreCall) → RemoteOperation c.Reply
  | .getString key => do
    check .databaseError "failed to read presence key" ((← redis (.get key)).asTextOrNothing)
  | .setString key value ttl => do
    check .databaseError "failed to write presence key" (← redis (.put key value ttl)).asDone
  | .getScore set member => do
    let x ← check .databaseError "failed to read accrual score"
      ((← redis (.score set member)).asFloatOrNothing)
    pure ((x.map Binary64.truncate).getD 0)
  | .setScore set member value => do
    let _ ← check .databaseError "failed to write accrual score"
      (← redis (.setScore set member value)).asInt
  | .incrScore set member delta => do
    let x ← check .databaseError "failed to increment accrual score"
      (← redis (.addScore set member delta)).asFloat
    pure x.truncate
  | .rangeByScore set low high => do
    check .databaseError "failed to range accrual set"
      (← redis (.membersBetween set low high)).asTexts
  | .removeMember set member => do
    let _ ← check .databaseError "failed to remove accrual member"
      (← redis (.removeMember set member)).asInt

/-- The list of the payloads that a consumer has taken and not confirmed. -/
def processingKey (queue consumer : String) : String := queue ++ ":processing:" ++ consumer

/-- The greatest number of payloads that can be counted. -/
def mostPayloads : Nat := 18446744073709551615

/-- Moves payloads back to the queue until there are none, `room` more of them at most, and tells
how many they were. -/
def moveBackUpTo (queue consumer : String) (moved : Nat) : Nat → RemoteOperation Nat
  | 0 => do
    let r ← redis (.moveBack (processingKey queue consumer) queue)
    match ← check .serviceUnavailable "failed to requeue activity event" (r.asTextOrNothing) with
    | none => pure moved
    | some _ => .done (.crashed .addition)
  | room + 1 => do
    let r ← redis (.moveBack (processingKey queue consumer) queue)
    match ← check .serviceUnavailable "failed to requeue activity event" (r.asTextOrNothing) with
    | none => pure moved
    | some _ => moveBackUpTo queue consumer (moved + 1) room

/-- The queue in Redis: a list of payloads, and one of those that a consumer has taken. -/
def queue (key consumer : String) : (c : QueueCall) → RemoteOperation c.Reply
  | .enqueue event => do
    let _ ← check .serviceUnavailable "failed to enqueue activity event"
      (← redis (.pushLeft key event.encode)).asInt
  | .next timeout => do
    check .serviceUnavailable "failed to pop activity event"
      ((← redis (.moveWaiting key (processingKey key consumer) timeout)).asTextOrNothing)
  | .ack payload => do
    let _ ← check .serviceUnavailable "failed to ack activity event"
      (← redis (.removeFirst (processingKey key consumer) payload)).asInt
  | .requeue => moveBackUpTo key consumer 0 mostPayloads

/-- Publishes a notification. Nobody need listen. -/
def notify (channel : String) (n : Notification) : RemoteOperation Unit := do
  let _ ← expect "failed to publish notification" (← redis (.publish channel n.encode)).asInt

/-- The greatest number of times that a cursor is asked for more, which no server reaches. -/
def mostBatches : Nat := 18446744073709551615

/-- The documents that a cursor still yields: as many as there are, or all up to the first one. -/
def more (c : MongoCollection) (first : Bool) (cursor : Int) :
    Nat → RemoteOperation (Except String (List BsonDocument))
  | 0 => pure (.error "endless cursor")
  | n + 1 => do
    match ← mongo (.getMore c cursor) with
    | .batch ds none => pure (.ok ds)
    | .batch ds (some next) =>
      if first && !ds.isEmpty then pure (.ok ds)
      else do
        match ← more c first next n with
        | .ok rest => pure (.ok (ds ++ rest))
        | .error e => pure (.error e)
    | .refused e => pure (.error e)
    | _ => pure (.error "unexpected reply")

/-- The documents that a query finds. The messages are for a query that is refused and for a cursor
that ends early. -/
def find (c : MongoCollection) (q : MongoQuery) (first : Bool) (refused broken : String) :
    RemoteOperation (List BsonDocument) := do
  match ← mongo (.find c q) with
  | .batch ds none => pure ds
  -- an open cursor is left alone where its first document is enough
  | .batch ds (some cursor) =>
    if first && !ds.isEmpty then pure ds
    else do
      pure (ds ++ (← expect broken (← more c first cursor mostBatches)))
  | _ => .fail (.reported refused)

/-- The record of a document. Numbers that are missing or no numbers count as zero. -/
def statistic? (d : BsonDocument) : Except String DailyStatistic :=
  match Bson.text? d "userId", Bson.text? d "createdDate" with
  | none, _ => .error "daily statistic without userId"
  | some _, none => .error "daily statistic without createdDate"
  | some user, some day =>
    .ok ⟨user, day, (Bson.integer? d "spentTimeSecond").getD 0, (Bson.integer? d "point").getD 0⟩

/-- Ends with a result, whose failure is its own message. -/
def say {α : Type} : Except String α → RemoteOperation α
  | .ok a => .ret a
  | .error e => .fail (.reported e)

/-- The daily statistics in MongoDB: one document for each user and day. -/
def ledger (c : MongoCollection) : (call : LedgerCall) → RemoteOperation call.Reply
  | .add user day seconds => do
    let stamp : Bson := .date (← of .stamp)
    let change : BsonDocument :=
      [("$inc", .document [("spentTimeSecond", .integer seconds)]),
       ("$setOnInsert", .document [("point", .integer 0), ("createdAt", stamp)]),
       ("$set", .document [("updatedAt", stamp)])]
    match ← mongo (.update c [("userId", .string user), ("createdDate", .string day)] change) with
    | .done => pure ()
    | _ => .fail (.reported "failed to upsert daily statistic")
  | .find user day => do
    let ds ← find c { filter := [("userId", .string user), ("createdDate", .string day)] } true
      "failed to load daily statistic" "failed to load daily statistic"
    match ds.head? with
    | some d => some <$> say (statistic? d)
    | none => pure none
  | .range user first last => do
    let ds ← find c
      { filter := [("userId", .string user),
          ("createdDate", .document [("$gte", .string first), ("$lte", .string last)])]
        sort := [("createdDate", .integer 1)] } false
      "failed to query daily statistics" "failed to read daily statistics cursor"
    say (ds.mapM statistic?)

/-- The alert range in the profile of a user, in MongoDB. -/
def profile (c : MongoCollection) (user : String) : RemoteOperation (Option Int) := do
  let ds ← find c
    { filter := [("_id", .ofId user)], projection := [("alertRange", .integer 1)], first := true }
    true "failed to load user profile" "failed to load user profile"
  pure (ds.head?.bind fun d => Bson.integer? d "alertRange")

/-- The collection of the daily statistics. -/
def statistics (s : Settings) : MongoCollection := ⟨s.mongoDatabase, s.statisticCollection⟩

/-- The collection of the users. -/
def users (s : Settings) : MongoCollection := ⟨s.mongoDatabase, s.userCollection⟩

/-- A call of the service, expressed by commands. -/
def express (s : Settings) : (c : Call) → RemoteOperation c.Reply
  | .store c => store c
  | .ledger c => ledger (statistics s) c
  | .profile user => profile (users s) user
  | .notify n => notify s.notificationChannel n
  | .queue c => queue s.queueKey s.consumerId c
  | .now => of .now
  | .count c n => of (.count c n)
  | .enter job => of (.enter job)
  | .leave job => of (.leave job)

/-- An operation of the service, expressed by commands. -/
def operation {α : Type} (s : Settings) (op : Operation α) : RemoteOperation α :=
  op.translate (express s)

end Remote

end Presence
