import Presence.Remote.Servers

/-!
# Scripted servers in place of real ones

Scripted servers keep no data, so what they answer has to be known before. Main statement:
`Servers.run_script`, whatever servers a program has run with, some script makes scripted servers
answer just so: the program then ends alike, leaves the other surroundings alike, and the commands
that were noted are those that it has sent, each of which has used up one reply.
-/

set_option autoImplicit false

namespace Presence

/-- The command that a call sends to Redis. -/
def RemoteCall.redis? : RemoteCall → Option RedisCommand
  | .redis c => some c
  | _ => none

/-- The command that a call sends to MongoDB. -/
def RemoteCall.mongo? : RemoteCall → Option MongoCommand
  | .mongo c => some c
  | _ => none

namespace Program

variable {κ σ α : Type} {Reply : κ → Type}

/-- The calls that a run of a program makes, the first one first. -/
def made (serve : (c : κ) → σ → Outcome (Reply c) × σ) : Program Reply α → σ → List κ
  | .done _, _ => []
  | .call c next, s => c :: made serve (next (serve c s).1) (serve c s).2

end Program

/-- The data of two servers, and the surroundings that are no servers. -/
structure Backing (ρ μ : Type) where
  redis : ρ
  mongo : μ
  memory : Memory

namespace Backing

variable {ρ μ : Type}

/-- Lets the surroundings that are no servers answer. -/
def other (c : Call) (b : Backing ρ μ) : Outcome c.Reply × Backing ρ μ :=
  ((Memory.serve c b.memory).1, { b with memory := (Memory.serve c b.memory).2 })

/-- Answers a call with servers that answer each command from their data and change them. -/
def serve (redis : RedisCommand → ρ → RedisReply × ρ) (mongo : MongoCommand → μ → MongoReply × μ) :
    (c : RemoteCall) → Backing ρ μ → Outcome c.Reply × Backing ρ μ
  | .redis c, b => (.ok (redis c b.redis).1, { b with redis := (redis c b.redis).2 })
  | .mongo c, b => (.ok (mongo c b.mongo).1, { b with mongo := (mongo c b.mongo).2 })
  | .now, b => other .now b
  | .stamp, b => other .now b
  | .count c n, b => other (.count c n) b
  | .enter job, b => other (.enter job) b
  | .leave job, b => other (.leave job) b

end Backing

namespace Servers

/-- Scripted servers that have noted the commands of some calls, in surroundings that are left. -/
def heard (calls : List RemoteCall) (m : Memory) (s : Servers) : Servers :=
  { s with
    redisLog := (calls.filterMap RemoteCall.redis?).reverse ++ s.redisLog
    mongoLog := (calls.filterMap RemoteCall.mongo?).reverse ++ s.mongoLog
    memory := m }

theorem heard_redis (c : RedisCommand) (calls : List RemoteCall) (m : Memory) (s : Servers) :
    s.heard (.redis c :: calls) m = heard calls m { s with redisLog := c :: s.redisLog } := by
  simp [heard, List.filterMap_cons, RemoteCall.redis?, RemoteCall.mongo?]

theorem heard_mongo (c : MongoCommand) (calls : List RemoteCall) (m : Memory) (s : Servers) :
    s.heard (.mongo c :: calls) m = heard calls m { s with mongoLog := c :: s.mongoLog } := by
  simp [heard, List.filterMap_cons, RemoteCall.redis?, RemoteCall.mongo?]

/-- The servers with a script in front of the replies that are left, in some surroundings. -/
def scripted (replies : List RedisReply) (answers : List MongoReply) (m : Memory) (s : Servers) :
    Servers :=
  { s with redis := replies ++ s.redis, mongo := answers ++ s.mongo, memory := m }

variable {ρ μ α : Type}

/-- Scripted servers stand in for any others, if their script is what those reply, command by
command. What is left of a longer script stays for later. -/
theorem run_script (redis : RedisCommand → ρ → RedisReply × ρ)
    (mongo : MongoCommand → μ → MongoReply × μ) (p : RemoteOperation α) (b : Backing ρ μ) :
    let serve := Backing.serve redis mongo
    let calls := p.made serve b
    ∃ (replies : List RedisReply) (answers : List MongoReply),
      replies.length = (calls.filterMap RemoteCall.redis?).length ∧
      answers.length = (calls.filterMap RemoteCall.mongo?).length ∧
      ∀ s : Servers, run p (s.scripted replies answers b.memory) =
        ((Program.run serve p b).1, s.heard calls (Program.run serve p b).2.memory) := by
  intro serve calls
  -- the induction is on the program; only commands to the servers take a reply from the script
  induction p generalizing b with
  | done o => exact ⟨[], [], rfl, rfl, fun s => rfl⟩
  | call c next ih =>
      obtain ⟨replies, answers, hr, ha, hrun⟩ := ih (serve c b).1 (serve c b).2
      cases c with
      | redis c =>
          refine ⟨(redis c b.redis).1 :: replies, answers, congrArg (· + 1) hr, ha, fun s => ?_⟩
          refine (hrun { s with redisLog := c :: s.redisLog }).trans ?_
          exact congrArg (Prod.mk _) (heard_redis ..).symm
      | mongo c =>
          refine ⟨replies, (mongo c b.mongo).1 :: answers, hr, congrArg (· + 1) ha, fun s => ?_⟩
          refine (hrun { s with mongoLog := c :: s.mongoLog }).trans ?_
          exact congrArg (Prod.mk _) (heard_mongo ..).symm
      | now => exact ⟨replies, answers, hr, ha, hrun⟩
      | stamp => exact ⟨replies, answers, hr, ha, hrun⟩
      | count c n => exact ⟨replies, answers, hr, ha, hrun⟩
      | enter job => exact ⟨replies, answers, hr, ha, hrun⟩
      | leave job => exact ⟨replies, answers, hr, ha, hrun⟩

/-- A script for one program is what `withReplies` sets: nothing is left of it at the end, and what
was noted are the commands of the run. -/
theorem run_withReplies (redis : RedisCommand → ρ → RedisReply × ρ)
    (mongo : MongoCommand → μ → MongoReply × μ) (p : RemoteOperation α) (b : Backing ρ μ) :
    ∃ (replies : List RedisReply) (answers : List MongoReply), ∀ s : Servers,
      s.memory = b.memory →
        let after := run p (s.withReplies replies answers)
        after.1 = (Program.run (Backing.serve redis mongo) p b).1 ∧
          after.2.redis = [] ∧ after.2.mongo = [] ∧
          after.2.redisLog.reverse =
            (p.made (Backing.serve redis mongo) b).filterMap RemoteCall.redis? ∧
          after.2.mongoLog.reverse =
            (p.made (Backing.serve redis mongo) b).filterMap RemoteCall.mongo? := by
  obtain ⟨replies, answers, -, -, hrun⟩ := run_script redis mongo p b
  refine ⟨replies, answers, fun s hs => ?_⟩
  have hscript : s.withReplies replies answers =
      (s.withReplies [] []).scripted replies answers b.memory := by
    simp [withReplies, scripted, hs]
  intro after
  have hafter : after = _ := (congrArg (run p) hscript).trans (hrun (s.withReplies [] []))
  rw [hafter]
  refine ⟨rfl, rfl, rfl, ?_, ?_⟩
  · exact (congrArg List.reverse (List.append_nil _)).trans (List.reverse_reverse _)
  · exact (congrArg List.reverse (List.append_nil _)).trans (List.reverse_reverse _)

end Servers

end Presence
