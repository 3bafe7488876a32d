import Presence.Proofs.Enumeration
import Presence.Proofs.KnownRange
import Presence.Proofs.Refusals
import Presence.Proofs.Separation

/-!
# Which buckets the scans find

A scan looks at the buckets of the index. A bucket is put there after it was stored as the alert
range of a user, and only then: if that one call is refused, the stored range is trusted from then
on, and nobody lists the bucket any more. `Filed` says of every bucket in which a user has accrued
time that it was listed, or that a call which would have led to it was refused. Main statement:
`Service.known_iff_not_lapsed`, after any requests one after another, whatever calls are refused, a
bucket in which a user has accrued time is among the known ones exactly if it is the default one or
has not lapsed.
-/

set_option autoImplicit false

namespace Presence

open Operation Program

namespace Call

/-- The call lists a bucket in the index. -/
def lists (k : Keys) (bucket : Int) : Call → Bool
  | .store (.setScore set member value) =>
    set = k.bucketIndex && member = toString bucket && value = bucket
  | _ => false

/-- The call stores a bucket as the alert range of a user. -/
def names (k : Keys) (user : String) (bucket : Int) : Call → Bool
  | .store (.setString key value ttl) =>
    key = k.alertRange user && value = toString bucket && ttl = none
  | _ => false

end Call

namespace Trail

variable (k : Keys) (user : String) (bucket : Int) (T : Trail)

/-- The bucket was listed. -/
def hasListed : Bool := T.calls.any fun x => x.call.lists k bucket && x.reply.isOk

/-- Storing the bucket as the alert range of the user, or listing it, was refused. -/
def hasMissed : Bool := T.calls.any fun x =>
  (x.call.names k user bucket || x.call.lists k bucket) && !x.reply.isOk

/-- The bucket was to be listed, but it never was. -/
def hasLapsed : Bool := T.hasMissed k user bucket && !T.hasListed k bucket

/-- The bucket was listed, or the user has missed it. -/
def hasTried : Bool := T.hasListed k bucket || T.hasMissed k user bucket

variable {k user bucket T} {x : Exchange}

theorem hasListed_extend : (T.extend x).hasListed k bucket =
    (x.call.lists k bucket && x.reply.isOk || T.hasListed k bucket) := rfl

theorem hasMissed_extend : (T.extend x).hasMissed k user bucket =
    ((x.call.names k user bucket || x.call.lists k bucket) && !x.reply.isOk ||
      T.hasMissed k user bucket) := rfl

theorem hasTried_extend (h : T.hasTried k user bucket = true) :
    (T.extend x).hasTried k user bucket = true := by
  unfold hasTried at h ⊢
  rw [hasListed_extend, hasMissed_extend]
  simp only [Bool.or_eq_true] at h ⊢
  exact h.imp .inr .inr

/-- However an attempt to list a bucket ends, it was made. -/
theorem hasTried_of_lists (h : x.call.lists k bucket = true) :
    (T.extend x).hasTried k user bucket = true := by
  unfold hasTried
  rw [hasListed_extend, hasMissed_extend, h]
  cases x.reply.isOk <;> simp

theorem hasTried_of_names (h : x.call.names k user bucket = true) (hr : x.reply.isOk = false) :
    (T.extend x).hasTried k user bucket = true := by
  unfold hasTried
  rw [hasListed_extend, hasMissed_extend, h, hr]
  simp

/-- What was tried and has not lapsed was listed. -/
theorem hasListed_iff (h : T.hasTried k user bucket = true) :
    T.hasListed k bucket = true ↔ T.hasLapsed k user bucket = false := by
  unfold hasTried at h
  unfold hasLapsed
  cases hl : T.hasListed k bucket with
  | true => simp
  | false =>
      rw [hl, Bool.false_or] at h
      simp [h]

end Trail

namespace Service

variable {s : Service} {user : String} {T : Trail} {c : Call} {m : Memory}

/-! ## The index -/

/-- The index holds the buckets that were listed, and nothing else. -/
structure Indexed (s : Service) (T : Trail) : Prop where
  members : ∀ name v, (T.memory.store.members s.keys.bucketIndex).get? name = some v →
    ∃ b : Int, name = toString b ∧ v = b ∧ T.hasListed s.keys b = true
  listed : ∀ b, T.hasListed s.keys b = true → s.listed? T.memory b = some b

/-- A call of a request lists a bucket, or it has nothing to do with the index. -/
theorem CallFor.index_cases {r : Request} (hc : s.CallFor r c) :
    (∃ b : Int, c = .store (.setScore s.keys.bucketIndex (toString b) b)) ∨
      (∀ b, c.lists s.keys b = false) ∧ ∀ m name,
        ((Memory.serve c m).2.store.members s.keys.bucketIndex).get? name =
          (m.store.members s.keys.bucketIndex).get? name := by
  have hset (b : Int) (u : String) (x : Int) (m : Memory) (name : String) :
      ((m.putScore (s.keys.accrualSet b) u x).store.members s.keys.bucketIndex).get? name =
        (m.store.members s.keys.bucketIndex).get? name :=
    (m.store.members_setScore_get? _ _ _ _ _).trans
      (if_neg fun e => Keys.bucketIndex_ne_accrualSet b e.1)
  have hadd (b : Int) (u : String) (x : Int) (m : Memory) (name : String) :
      ((Memory.serve (.store (.incrScore (s.keys.accrualSet b) u x)) m).2.store.members
        s.keys.bucketIndex).get? name = (m.store.members s.keys.bucketIndex).get? name := by
    rcases m.serve_incrScore (s.keys.accrualSet b) u x with hs | hs
    · rw [hs]
      exact hset b u _ m name
    · rw [hs]
  unfold CallFor at hc
  split at hc
  · rename_i v hv
    cases hc with
    | any h =>
        cases h with
        | list b => exact .inl ⟨b, rfl⟩
        | reset b =>
            refine .inr ⟨fun b' => ?_, hset b v 0⟩
            simp [Call.lists, (Keys.bucketIndex_ne_accrualSet b).symm]
        | gain b h => exact .inr ⟨fun _ => rfl, hadd b v _⟩
        | _ => exact .inr ⟨fun _ => rfl, fun _ _ => rfl⟩
    | mark h =>
        obtain ⟨text, ttl⟩ := h
        refine .inr ⟨fun _ => rfl, fun m name => ?_⟩
        have hs := (m.store.setString_facts m.clock.now (s.keys.sessionMarker v) text ttl
          (Keys.sessionMarker_ne_alertRange v v).symm).1
        show ((m.store.setString m.clock.now _ text ttl).2.members _).get? name = _
        unfold Store.members
        rw [hs]
    | move h =>
        cases h with
        | lift b =>
            refine .inr ⟨fun _ => rfl, fun m name => ?_⟩
            exact (m.store.members_removeMember_get? _ _ _ _).trans
              (if_neg fun e => Keys.bucketIndex_ne_accrualSet b e.1)
        | drop b x => exact .inr ⟨fun _ => rfl, hadd b v _⟩
  · -- a call that only reads
    refine .inr ⟨fun b => ?_, fun m name => by rw [(Memory.agree_serve hc m).store]⟩
    cases c with
    | store c =>
        cases c with
        | setScore set member value => cases hc
        | _ => rfl
    | _ => rfl

theorem Indexed.extend {r : Request} (h : s.Indexed T) (hc : s.CallFor r c)
    (refused : Option Failure) : s.Indexed (T.extend ⟨c, T.memory, refused⟩) := by
  have hold (hlists : ∀ b, c.lists s.keys b = false ∨
        (⟨c, T.memory, refused⟩ : Exchange).reply.isOk = false)
      (hsame : ∀ name, ((⟨c, T.memory, refused⟩ : Exchange).after.store.members
        s.keys.bucketIndex).get? name = (T.memory.store.members s.keys.bucketIndex).get? name) :
      s.Indexed (T.extend ⟨c, T.memory, refused⟩) := by
    have hl (b : Int) : (T.extend ⟨c, T.memory, refused⟩).hasListed s.keys b =
        T.hasListed s.keys b := by
      rw [Trail.hasListed_extend]
      rcases hlists b with e | e <;> simp [e]
    refine ⟨fun name v hv => ?_, fun b hb => ?_⟩
    · obtain ⟨b, h1, h2, h3⟩ := h.members name v ((hsame name).symm.trans hv)
      exact ⟨b, h1, h2, (hl b).trans h3⟩
    · exact (hsame _).trans (h.listed b ((hl b).symm.trans hb))
  cases hok : (⟨c, T.memory, refused⟩ : Exchange).reply.isOk with
  | false =>
      refine hold (fun _ => .inr hok) fun name => ?_
      rw [Exchange.after_of_not_ok hok]
  | true =>
      rcases Exchange.cases_refusal c T.memory refused with ⟨e, he, -⟩ | ⟨-, ha⟩
      · rw [he] at hok
        cases hok
      · rcases hc.index_cases with ⟨b, rfl⟩ | ⟨hl, hs⟩
        · have hget (name : String) : ((T.extend
              ⟨.store (.setScore s.keys.bucketIndex (toString b) b), T.memory,
                refused⟩).memory.store.members s.keys.bucketIndex).get? name =
                if name = toString b then some b
                else (T.memory.store.members s.keys.bucketIndex).get? name := by
            show ((Exchange.after _).store.members _).get? name = _
            rw [ha]
            exact (T.memory.store.members_setScore_get? _ _ _ _ _).trans (by simp)
          have hl (b' : Int) : (T.extend ⟨.store (.setScore s.keys.bucketIndex (toString b) b),
              T.memory, refused⟩).hasListed s.keys b' = (b = b' || T.hasListed s.keys b') := by
            rw [Trail.hasListed_extend, hok]
            by_cases e : b = b'
            · subst e
              simp [Call.lists]
            · simp [Call.lists, e]
          refine ⟨fun name v hv => ?_, fun b' hb => ?_⟩
          · rw [hget] at hv
            split at hv
            · rename_i e
              cases hv
              exact ⟨b, e, rfl, by rw [hl]; simp⟩
            · obtain ⟨b', h1, h2, h3⟩ := h.members name v hv
              exact ⟨b', h1, h2, by rw [hl, h3]; simp⟩
          · refine (hget _).trans ?_
            rw [hl] at hb
            by_cases e : b' = b
            · rw [if_pos (congrArg toString e), e]
            · rw [if_neg fun e' => e (Text.toString_inj.1 e')]
              exact h.listed b' (by simpa [Ne.symm e] using hb)
        · exact hold (fun b => .inl (hl b)) fun name => by rw [ha]; exact hs _ name

/-- The known buckets are the default one and those that were listed. -/
theorem Indexed.mem_bucketsOf_iff (h : s.Indexed T) {b : Int} (h0 : 0 < b)
    (hf : Signed64.Fits b) :
    b ∈ s.bucketsOf (T.memory.store.rangeByScore s.keys.bucketIndex 1 none) ↔
      b = s.defaultRange ∨ T.hasListed s.keys b = true := by
  rw [mem_bucketsOf]
  refine or_congr_right ⟨?_, fun hl => ⟨h0, toString b, ?_, Text.readSigned64?_toString hf⟩⟩
  · rintro ⟨-, name, hn, hb⟩
    obtain ⟨x, hx, hlow, -⟩ := (Store.mem_rangeByScore _ _ _ _).1 hn
    obtain ⟨b', rfl, -, hl⟩ := h.members name x hx
    -- a name of the index names the bucket that was listed under it
    unfold Text.readSigned64? Text.readInt? at hb
    rw [Text.signed?_toString, Option.filter_eq_some_iff, Option.some.injEq] at hb
    exact hb.1 ▸ hl
  · exact (Store.mem_rangeByScore _ _ _ _).2 ⟨b, h.listed b hl, h0, fun _ e => nomatch e⟩

/-! ## The buckets of a user -/

/-- A bucket other than the default one in which a user can have accrued time: it was to be listed,
or it is due to be stored and listed next. -/
structure Entitled (s : Service) (user : String) (due : Option Int) (T : Trail) (b : Int) :
    Prop where
  pos : 0 < b
  fits : Signed64.Fits b
  tried : T.hasTried s.keys user b = true ∨ due = some b

/-- A bucket in which a user can have accrued time. -/
def Usable (s : Service) (user : String) (due : Option Int) (T : Trail) (b : Int) : Prop :=
  b = s.defaultRange ∨ s.Entitled user due T b

/-- The stored alert range of a user, and every bucket in which the user has accrued time, was to be
listed, or is due. -/
structure Filed (s : Service) (user : String) (due : Option Int) (T : Trail) : Prop where
  named : ∀ e, s.rangeText? T.memory user = some e →
    ∃ r : Int, e = ⟨toString r, none⟩ ∧ s.Entitled user due T r
  scored : ∀ b, 0 < T.memory.store.getScore (s.keys.accrualSet b) user → s.Usable user due T b

section Filed

variable {due : Option Int} {b r : Int} {x : Exchange} {α : Type}

theorem Entitled.extend (h : s.Entitled user due T b) : s.Entitled user due (T.extend x) b :=
  ⟨h.pos, h.fits, h.tried.imp_left Trail.hasTried_extend⟩

theorem Entitled.settle (h : s.Entitled user (some r) T b)
    (hx : (T.extend x).hasTried s.keys user r = true) : s.Entitled user none (T.extend x) b := by
  refine ⟨h.pos, h.fits, .inl ?_⟩
  rcases h.tried with ht | ht
  · exact Trail.hasTried_extend ht
  · exact Option.some.inj ht ▸ hx

/-- A call that does not touch the stored range, and gives no bucket accrued time that cannot have
some. -/
theorem Filed.extend (h : s.Filed user due T)
    (ht : s.rangeText? x.after user = s.rangeText? T.memory user)
    (hs : ∀ b, 0 < x.after.store.getScore (s.keys.accrualSet b) user →
      0 < T.memory.store.getScore (s.keys.accrualSet b) user ∨ s.Usable user due T b) :
    s.Filed user due (T.extend x) := by
  refine ⟨fun e he => ?_, fun b hb => ?_⟩
  · obtain ⟨r, hr, hd⟩ := h.named e (ht.symm.trans he)
    exact ⟨r, hr, hd.extend⟩
  · exact ((hs b hb).elim (h.scored b) id).imp_right Entitled.extend

theorem Filed.extend_of_view (h : s.Filed user due T)
    (hv : x.after.view s.keys user = T.memory.view s.keys user) :
    s.Filed user due (T.extend x) := by
  refine h.extend (congrArg View.range hv) fun b hb => .inl ?_
  rwa [Memory.getScore_of_view, hv] at hb

/-- A score may be written in a bucket in which the user can have accrued time. -/
theorem Filed.putScore (h : s.Filed user due T) {n : Int}
    (hx : x.after = T.memory.putScore (s.keys.accrualSet b) user n)
    (hb : n ≤ 0 ∨ s.Usable user due T b) : s.Filed user due (T.extend x) := by
  refine h.extend (by rw [hx]; rfl) fun b' hb' => ?_
  have hs := T.memory.store.getScore_setScore (s.keys.accrualSet b) user (s.keys.accrualSet b') user
    n
  rw [hx] at hb'
  rw [show (T.memory.putScore _ user n).store.getScore _ user = _ from hs] at hb'
  split at hb'
  · rename_i he
    rw [Keys.accrualSet_inj.1 he.1]
    exact .inr (hb.resolve_left (Int.not_le.2 hb'))
  · exact .inl hb'

theorem Filed.dropMember (h : s.Filed user due T)
    (hx : x.after = T.memory.dropMember (s.keys.accrualSet b) user) :
    s.Filed user due (T.extend x) := by
  refine h.extend (by rw [hx]; exact s.rangeText?_dropMember _ _ _ _) fun b' hb' => .inl ?_
  have hs := T.memory.store.getScore_removeMember (s.keys.accrualSet b) user
    (s.keys.accrualSet b') user
  rw [hx] at hb'
  rw [show (T.memory.dropMember _ user).store.getScore _ user = _ from hs] at hb'
  split at hb'
  · exact absurd hb' (Int.lt_irrefl 0)
  · exact hb'

/-- The call after which what was due was tried. -/
theorem Filed.settle (h : s.Filed user (some r) T)
    (hv : x.after.view s.keys user = T.memory.view s.keys user)
    (hx : (T.extend x).hasTried s.keys user r = true) : s.Filed user none (T.extend x) := by
  refine ⟨fun e he => ?_, fun b hb => ?_⟩
  · obtain ⟨r', hr, hd⟩ := h.named e ((congrArg View.range hv).symm.trans he)
    exact ⟨r', hr, hd.settle hx⟩
  · have hb' : 0 < x.after.store.getScore (s.keys.accrualSet b) user := hb
    rw [Memory.getScore_of_view, hv] at hb'
    exact (h.scored b hb').imp_right fun hd => hd.settle hx

/-- Listing a bucket that is due and stored: even if the call is refused, it was tried then. -/
theorem keeps_registerBucket (h : s.Filed user (some r) T) (h0 : 0 < r) (hf : Signed64.Fits r) :
    (s.registerBucket r).Keeps (Trail.refusing fun _ => True) (fun _ T' =>
      s.Filed user none T' ∧ s.Entitled user none T' r) T := by
  refine ⟨True.intro, ?_⟩
  rintro o T' ⟨refused, -, rfl, rfl⟩
  have hl : (T.extend ⟨.store (.setScore s.keys.bucketIndex (toString r) r), T.memory,
      refused⟩).hasTried s.keys user r = true := Trail.hasTried_of_lists (by simp [Call.lists])
  have hd : s.Entitled user (some r) T r := ⟨h0, hf, .inr rfl⟩
  refine ⟨h.settle ?_ hl, hd.settle hl⟩
  rcases Exchange.cases_refusal (.store (.setScore s.keys.bucketIndex (toString r) r)) T.memory
    refused with ⟨e, -, ha⟩ | ⟨-, ha⟩
  · rw [ha]
  · rw [ha]
    exact Memory.view_putScore_other (.inl Keys.bucket?_bucketIndex) r T.memory

/-- Storing and listing a bucket that is due: whichever call is refused, it was tried then. -/
theorem keeps_enlist (h : s.Filed user (some r) T) (h0 : 0 < r) (hf : Signed64.Fits r) :
    (s.enlist user r).Keeps (Trail.refusing fun _ => True) (fun o T' =>
      s.Filed user none T' ∧ ∀ a, o = .ok a → s.Entitled user none T' r) T := by
  refine Trail.keeps_bind_of fun refused _ => ?_
  rcases Exchange.cases_refusal (.store (.setString (s.keys.alertRange user) (toString r) none))
    T.memory refused with ⟨e, he, ha⟩ | ⟨he, ha⟩
  · -- the range is not stored, and the bucket is not listed
    have hn : (T.extend ⟨.store (.setString (s.keys.alertRange user) (toString r) none), T.memory,
        refused⟩).hasTried s.keys user r = true :=
      Trail.hasTried_of_names (by simp [Call.names]) (by rw [he]; rfl)
    rw [he]
    exact ⟨h.settle (by rw [ha]) hn, fun _ e => nomatch e⟩
  · -- from now on the bucket is that of the user
    have hv : (Exchange.after ⟨.store (.setString (s.keys.alertRange user) (toString r) none),
        T.memory, refused⟩).view s.keys user =
          { T.memory.view s.keys user with range := some ⟨toString r, none⟩ } := by
      rw [ha]
      exact Memory.view_putRange (toString r) none T.memory
    rw [he]
    refine (keeps_registerBucket ⟨fun e he => ?_, fun b hb => ?_⟩ h0 hf).mono fun o T' hT =>
      ⟨hT.1, fun _ _ => hT.2⟩
    · have he' := (congrArg View.range hv).symm.trans he
      cases he'
      exact ⟨r, rfl, h0, hf, .inr rfl⟩
    · have hb' : 0 < (Exchange.after
          ⟨.store (.setString (s.keys.alertRange user) (toString r) none), T.memory,
            refused⟩).store.getScore (s.keys.accrualSet b) user := hb
      rw [ha] at hb'
      exact (h.scored b hb').imp_right Entitled.extend

/-- Another bucket may become due at any time. -/
theorem Filed.withDue (h : s.Filed user none T) (r : Int) : s.Filed user (some r) T := by
  have hd {b : Int} (hb : s.Entitled user none T b) : s.Entitled user (some r) T b :=
    ⟨hb.pos, hb.fits, .inl (hb.tried.resolve_right fun e => nomatch e)⟩
  refine ⟨fun e he => ?_, fun b hb => (h.scored b hb).imp_right hd⟩
  obtain ⟨r', hr, hb⟩ := h.named e he
  exact ⟨r', hr, hd hb⟩

theorem keeps_loadRange (h : s.Filed user none T) (hr : s.RangesFit T.memory) :
    (s.loadRange user).Keeps (Trail.refusing fun _ => True) (fun o T' =>
      s.Filed user none T' ∧ ∀ b, o = .ok b → s.Usable user none T' b) T := by
  rw [loadRange_eq]
  refine ⟨True.intro, ?_⟩
  rintro o T' ⟨refused, -, rfl, rfl⟩
  rcases Exchange.cases_refusal (.profile user) T.memory refused with ⟨e, he, ha⟩ | ⟨he, ha⟩
  · -- the default bucket needs not be listed
    rw [he]
    refine ⟨h.extend_of_view (by rw [ha]), ?_⟩
    rintro b ⟨⟩
    exact .inl rfl
  · have h1 : s.Filed user none (T.extend ⟨.profile user, T.memory, refused⟩) :=
      h.extend_of_view (by rw [ha]; rfl)
    obtain ⟨h0, hf⟩ := hr.chosenRange user
    rw [he]
    refine keeps_bind.2 ((keeps_enlist (h1.withDue _) h0 hf).mono fun o T' hT => ?_)
    cases o with
    | ok a =>
        refine ⟨hT.1, ?_⟩
        rintro b ⟨⟩
        exact .inr (hT.2 a rfl)
    | failed e => exact ⟨hT.1, fun _ e => nomatch e⟩
    | crashed c => exact ⟨hT.1, fun _ e => nomatch e⟩

/-- Asking for the alert range comes back with a bucket in which the user can have accrued time. -/
theorem keeps_resolve_filed (h : s.Filed user none T) (hr : s.RangesFit T.memory) :
    (s.resolve user).Keeps (Trail.refusing fun _ => True) (fun o T' =>
      s.Filed user none T' ∧ ∀ b, o = .ok b → s.Usable user none T' b) T := by
  unfold resolve
  refine Trail.keeps_bind_of fun refused _ => ?_
  rcases Exchange.cases_refusal (.store (.getString (s.keys.alertRange user))) T.memory refused with
    ⟨e, he, ha⟩ | ⟨he, ha⟩
  · rw [he]
    exact ⟨h.extend_of_view (by rw [ha]), fun _ e => nomatch e⟩
  · have h1 := h.extend_of_view (x := ⟨.store (.getString (s.keys.alertRange user)), T.memory,
      refused⟩) (by rw [ha]; rfl)
    have hs : Memory.serve (.store (.getString (s.keys.alertRange user))) T.memory =
        (.ok (T.memory.store.getString T.memory.clock.now (s.keys.alertRange user)), T.memory) :=
      rfl
    simp only [he, hs, onward]
    cases hv : s.rangeText? T.memory user with
    | some e =>
        obtain ⟨r, rfl, hd⟩ := h.named e hv
        have hc := cached?_of_rangeText? hv hd.pos hd.fits
        unfold cached? at hc
        rw [hc]
        refine ⟨h1, ?_⟩
        rintro b ⟨⟩
        exact .inr hd.extend
    | none =>
        have hc := cached?_of_rangeText?_none hv
        unfold cached? at hc
        rw [hc]
        refine keeps_loadRange h1 (hr.of_profiles ?_)
        exact congrArg Memory.profiles ha

/-- The calls of an event on a bucket in which the user can have accrued time. -/
theorem EventCall.filed (hc : s.EventCall user b c) (h : s.Filed user none T)
    (hb : s.Usable user none T b) (refused : Option Failure) :
    s.Filed user none (T.extend ⟨c, T.memory, refused⟩) := by
  rcases Exchange.cases_refusal c T.memory refused with ⟨e, -, ha⟩ | ⟨-, ha⟩
  · exact h.extend_of_view (by rw [ha])
  · cases hc with
    | now => exact h.extend_of_view (by rw [ha]; rfl)
    | count c n => exact h.extend_of_view (by rw [ha]; rfl)
    | getString key => exact h.extend_of_view (by rw [ha]; rfl)
    | getScore => exact h.extend_of_view (by rw [ha]; rfl)
    | add day n =>
        refine h.extend (by rw [ha]; rfl) fun b' hb' => .inl ?_
        rw [ha] at hb'
        exact hb'
    | mark text ttl =>
        obtain ⟨hsets, htext⟩ := T.memory.store.setString_facts T.memory.clock.now
          (s.keys.sessionMarker user) text ttl (Keys.sessionMarker_ne_alertRange user user).symm
        refine h.extend (by rw [ha]; exact htext) fun b' hb' => .inl ?_
        rw [ha] at hb'
        have hs : (T.memory.store.setString T.memory.clock.now (s.keys.sessionMarker user) text
            ttl).2.getScore (s.keys.accrualSet b') user =
              T.memory.store.getScore (s.keys.accrualSet b') user := by
          unfold Store.getScore Store.members
          rw [hsets]
        exact hs ▸ hb'
    | reset => exact h.putScore (x := ⟨_, T.memory, refused⟩) ha (.inl (Int.le_refl 0))
    | extend gap hpos =>
        rcases T.memory.serve_incrScore (s.keys.accrualSet b) user gap with hs | hs
        · rw [hs] at ha
          exact h.putScore (x := ⟨_, T.memory, refused⟩) ha (.inr hb)
        · rw [hs] at ha
          exact h.extend_of_view (by rw [ha])

/-- What is moved to another bucket stands there before the bucket is stored, which is due then. -/
theorem keeps_moveAccrual_filed (h : s.Filed user none T) (previous : Int) (h0 : 0 < r)
    (hf : Signed64.Fits r) :
    (s.moveAccrual user previous r).Keeps (Trail.refusing fun _ => True)
      (fun o T' => s.Filed user (if o.isOk then some r else none) T') T := by
  have hfail {c : Call} {T : Trail} (h : s.Filed user none T) (refused : Option Failure)
      (o : Outcome Unit) (ho : o.isOk = false)
      (_ : (⟨c, T.memory, refused⟩ : Exchange).reply.isOk = false)
      (ha : (⟨c, T.memory, refused⟩ : Exchange).after = T.memory) :
      s.Filed user (if o.isOk then some r else none) (T.extend ⟨c, T.memory, refused⟩) := by
    rw [ho]
    exact h.extend_of_view (by rw [ha])
  refine Trail.keeps_bind_of_cases (hfail h) fun refused accrued _ ha => ?_
  have h1 : s.Filed user none (T.extend ⟨.store (.getScore (s.keys.accrualSet previous) user),
      T.memory, refused⟩) := h.extend_of_view (by rw [ha]; rfl)
  refine Trail.keeps_bind_of_cases (hfail h1) fun refused' _ _ ha' => ?_
  have h2 := h1.dropMember ha'
  refine Trail.keeps_bind_of_cases (hfail h2) fun refused'' sum hr ha'' => ?_
  refine (h2.withDue r).putScore (n := sum) ?_ (.inr (.inr ⟨h0, hf, .inr rfl⟩))
  rcases Memory.serve_incrScore (s.keys.accrualSet r) user accrued with hs | hs
  · rw [hs] at hr ha''
    cases hr
    exact ha''
  · rw [hs] at hr
    cases hr

theorem keeps_changeFrom (h : s.Filed user none T) (previous : Int) (h0 : 0 < r)
    (hf : Signed64.Fits r) :
    (s.changeFrom user previous r).Keeps (Trail.refusing fun _ => True)
      (fun _ T' => s.Filed user none T') T := by
  unfold changeFrom
  dsimp only
  split
  · exact (keeps_enlist (h.withDue r) h0 hf).mono fun _ _ hT => hT.1
  · refine keeps_bind.2 ((keeps_moveAccrual_filed h previous h0 hf).mono fun o T' hT => ?_)
    cases o with
    | ok a => exact (keeps_enlist hT h0 hf).mono fun _ _ hT => hT.1
    | failed e => exact hT
    | crashed c => exact hT

/-- Events leave the user filed, from the alert range on. -/
theorem keeps_event_filed {p : Operation α} (h : s.Filed user none T)
    (hb : s.Usable user none T b) (hp : p.Only (s.EventCall user b)) :
    p.Keeps (Trail.refusing fun _ => True) (fun _ T' => s.Filed user none T') T := by
  have hkeeps := Only.keeps (K := Trail.refusing fun _ => True)
    (I := fun T' => s.Filed user none T' ∧ s.Usable user none T' b) (fun c T' hc hT => ?_) hp
    ⟨h, hb⟩
  · exact hkeeps.mono fun _ _ hT => hT.1
  · refine ⟨True.intro, ?_⟩
    rintro o T'' ⟨refused, -, rfl, rfl⟩
    exact ⟨hc.filed hT.1 hT.2 refused, hT.2.imp_right Entitled.extend⟩

/-- Whatever calls of a request are refused, the user stays filed. -/
theorem keeps_perform_filed (h : s.Filed user none T) (hr : s.RangesFit T.memory) {q : Request}
    (hin : q.InRange) : (s.perform q).Keeps (Trail.refusing fun _ => True)
      (fun _ T' => s.Filed user none T') T := by
  have hafter {α : Type} {p : Int → Operation α} (hp : ∀ b, (p b).Only (s.EventCall user b))
      {T : Trail} (h : s.Filed user none T) (hr : s.RangesFit T.memory) :
      (s.resolve user >>= p).Keeps (Trail.refusing fun _ => True)
        (fun _ T' => s.Filed user none T') T := by
    refine keeps_bind.2 ((keeps_resolve_filed h hr).mono fun o T' hT => ?_)
    cases o with
    | ok b => exact keeps_event_filed hT.1 (hT.2 b rfl) (hp b)
    | failed e => exact hT.1
    | crashed c => exact hT.1
  by_cases hu : q.user? = some user
  · cases q with
    | activity u =>
        obtain rfl := Option.some.inj hu
        refine Keeps.map Report.accrual ?_
        rw [onActivity_eq]
        refine Trail.keeps_bind_of_cases (fun refused o _ _ ha => h.extend_of_view (by rw [ha]))
          fun refused t _ ha => ?_
        exact hafter (fun b => only_activityIn b t) (h.extend_of_view (by rw [ha]; rfl))
          (hr.of_profiles (congrArg Memory.profiles ha))
    | heartbeat u =>
        obtain rfl := Option.some.inj hu
        refine Keeps.map Report.accrual ?_
        rw [onHeartbeat_eq]
        exact hafter only_heartbeatIn h hr
    | changeRange u range =>
        obtain rfl := Option.some.inj hu
        refine Keeps.map (fun _ => Report.changed) ?_
        rw [changeRange_eq]
        split
        · exact h
        · rename_i hpos
          refine keeps_bind.2 ((keeps_resolve_filed h hr).mono fun o T' hT => ?_)
          cases o with
          | ok b => exact keeps_changeFrom hT.1 b (Int.not_le.1 hpos) hin
          | failed e => exact hT.1
          | crashed c => exact hT.1
    | resolve u =>
        obtain rfl := Option.some.inj hu
        exact Keeps.map Report.range ((keeps_resolve_filed h hr).mono fun o T' hT => hT.1)
    | liveAccrual u =>
        obtain rfl := Option.some.inj hu
        have hp (b : Int) : (getScore (s.keys.accrualSet b) u).Only (s.EventCall u b) :=
          only_ask .getScore
        exact Keeps.map Report.seconds (hafter hp h hr)
    | knownBuckets => cases hu
    | scan job => cases hu
  · -- the calls of others leave alone what is kept of the user
    refine Only.keeps (I := fun T' => s.Filed user none T') (fun c T' hc hT => ?_)
      (s.only_callFor q) h
    refine ⟨True.intro, ?_⟩
    rintro o T'' ⟨refused, -, rfl, rfl⟩
    exact hT.extend_of_view (Scene.view_after_other hu hc T'.memory refused)

theorem keeps_perform_indexed (h : s.Indexed T) (q : Request) :
    (s.perform q).Keeps (Trail.refusing fun _ => True) (fun _ T' => s.Indexed T') T := by
  refine Only.keeps (I := fun T' => s.Indexed T') (fun c T' hc hT => ?_) (s.only_callFor q) h
  refine ⟨True.intro, ?_⟩
  rintro o T'' ⟨refused, -, rfl, rfl⟩
  exact hT.extend hc refused

end Filed

/-! ## Requests one after another -/

/-- The index and the user are in order. -/
structure Listing (s : Service) (user : String) (T : Trail) : Prop where
  index : s.Indexed T
  filed : s.Filed user none T
  ranges : s.RangesFit T.memory

theorem listing_of_empty (hstore : m.store = {}) (hr : s.RangesFit m) :
    s.Listing user ⟨m, []⟩ := by
  refine ⟨⟨fun name v hv => ?_, fun b hb => ?_⟩, ⟨fun e he => ?_, fun b hb => ?_⟩, hr⟩
  · have hv' : (m.store.members s.keys.bucketIndex).get? name = some v := hv
    rw [hstore] at hv'
    cases hv'
  · cases hb
  · have he' : m.store.strings.get? (s.keys.alertRange user) = some e := he
    rw [hstore] at he'
    cases he'
  · have hb' : 0 < m.store.getScore (s.keys.accrualSet b) user := hb
    rw [hstore] at hb'
    exact absurd hb' (Int.lt_irrefl 0)

/-- Only the presence store and the calls matter. -/
theorem Listing.of_store (h : s.Listing user T) (hm : m.store = T.memory.store)
    (hr : s.RangesFit m) : s.Listing user ⟨m, T.calls⟩ := by
  refine ⟨⟨fun name v hv => ?_, fun b hb => ?_⟩, ⟨fun e he => ?_, fun b hb => ?_⟩, hr⟩
  · exact h.index.members name v (hm ▸ hv)
  · unfold listed?
    dsimp only
    rw [hm]
    exact h.index.listed b hb
  · obtain ⟨r, hr, hd⟩ := h.filed.named e (by unfold rangeText? at *; rwa [← hm])
    exact ⟨r, hr, hd.pos, hd.fits, hd.tried⟩
  · exact (h.filed.scored b (hm ▸ hb)).imp_right fun hd => ⟨hd.pos, hd.fits, hd.tried⟩

theorem Listing.happen (h : s.Listing user T) (f : Refusals) {a : Happening} (hin : a.InRange) :
    s.Listing user (T.happen s f a).2 := by
  have hr := Trail.ranges_happen h.ranges f hin
  have hf : f.Within fun _ => True := fun _ _ _ => True.intro
  cases a with
  | request q =>
      exact ⟨Trail.run_of_keeps hf (keeps_perform_indexed h.index q),
        Trail.run_of_keeps hf (keeps_perform_filed h.filed h.ranges hin), hr⟩
  | profile u r => exact h.of_store rfl hr
  | clock t => exact h.of_store rfl hr

theorem listing_proceed (f : Refusals) (hs : List Happening) (h : s.Listing user T)
    (hin : ∀ a ∈ hs, a.InRange) : s.Listing user (T.proceed s f hs).2 := by
  induction hs generalizing T with
  | nil => exact h
  | cons a rest ih =>
      exact ih (h.happen f (hin a List.mem_cons_self)) fun k hk => hin k (List.mem_cons_of_mem _ hk)

/-- Whatever happens from empty stores on, one thing after another, and whatever calls are refused:
a bucket in which a user has accrued time is found by the scans exactly if it is the default one or
has not lapsed, that is, if it was listed at some time, or no call that was to store it as the alert
range of the user, or to list it, was refused. -/
theorem known_iff_not_lapsed (s : Service) {m₀ : Memory} (hstore : m₀.store = {})
    (hranges : s.RangesFit m₀) (f : Refusals) (hs : List Happening) (hin : ∀ a ∈ hs, a.InRange)
    (user : String) (b : Int) :
    let T := ((⟨m₀, []⟩ : Trail).proceed s f hs).2
    0 < T.memory.store.getScore (s.keys.accrualSet b) user →
      ∃ bs, (T.memory.run s.knownBuckets).1 = .ok bs ∧
        (b ∈ bs ↔ b = s.defaultRange ∨ T.hasLapsed s.keys user b = false) := by
  intro T hb
  have h : s.Listing user T := listing_proceed f hs (listing_of_empty hstore hranges) hin
  refine ⟨_, congrArg (·.1) s.run_knownBuckets, ?_⟩
  rcases h.filed.scored b hb with rfl | hd
  · rw [h.index.mem_bucketsOf_iff hranges.default_pos hranges.default_fits]
    exact iff_of_true (.inl rfl) (.inl rfl)
  · rw [h.index.mem_bucketsOf_iff hd.pos hd.fits,
      Trail.hasListed_iff (hd.tried.resolve_right fun e => nomatch e)]

/-- Listing a bucket fails among the first calls. -/
def indexDown (n : Nat) : Refusals := fun k c =>
  match c with
  | .store (.setScore set _ _) =>
    if k < n ∧ set = standard.keys.bucketIndex then some (.reported "store down") else none
  | _ => none

/-- Half a minute online of a user who has chosen seven minutes; the first activity fails, as the
bucket cannot be listed. -/
def listingFails : List Happening :=
  [.profile "ada" 7, .request (.activity "ada"), .request (.activity "ada"),
    .clock (Clock.afterNoon 30), .request (.activity "ada")]

/-- The bucket is found once the user has asked for the same range again. -/
theorem known_iff_not_lapsed_askedAgain :
    let again := listingFails ++ [.request (.changeRange "ada" 7)]
    let T := ((⟨Memory.fresh Clock.noon, []⟩ : Trail).proceed standard (indexDown 5)
      listingFails).2
    let T' := ((⟨Memory.fresh Clock.noon, []⟩ : Trail).proceed standard (indexDown 5) again).2
    (∃ bs, (T.memory.run standard.knownBuckets).1 = .ok bs ∧ 7 ∉ bs) ∧
      ∃ bs, (T'.memory.run standard.knownBuckets).1 = .ok bs ∧ 7 ∈ bs := by
  intro again T T'
  have hranges : standard.RangesFit (Memory.fresh Clock.noon) := .fresh (by decide) (by decide) _
  obtain ⟨bs, hbs, hiff⟩ := known_iff_not_lapsed standard rfl hranges (indexDown 5) listingFails
    (by decide) "ada" 7 (by decide +kernel)
  obtain ⟨bs', hbs', hiff'⟩ := known_iff_not_lapsed standard rfl hranges (indexDown 5) again
    (by decide) "ada" 7 (by decide +kernel)
  refine ⟨⟨bs, hbs, fun h => absurd (hiff.1 h) (by decide +kernel)⟩, bs', hbs',
    hiff'.2 (.inr (by decide +kernel))⟩

/-- After a call that was to list a bucket has failed, the events of a user succeed on this bucket,
and no scan finds it. -/
theorem unlisted_after_listingFails :
    ¬ ∀ (s : Service) (m₀ : Memory), m₀.store = {} → m₀.ledger = {} → s.RangesFit m₀ →
      ∀ (f : Refusals) (hs : List Happening), (∀ a ∈ hs, a.InRange) →
      ∀ (user : String) (e : Entry),
        e ∈ ((⟨m₀, []⟩ : Trail).proceed s f hs).1.getLast? → e.request.user? = some user →
        e.outcome.isOk = true →
      ∀ b : Int, 0 < b →
        let T := ((⟨m₀, []⟩ : Trail).proceed s f hs).2
        0 < T.memory.store.getScore (s.keys.accrualSet b) user →
          ∃ bs, (T.memory.run s.knownBuckets).1 = .ok bs ∧ b ∈ bs := by
  intro h
  obtain ⟨bs, hbs, hb⟩ := h standard (Memory.fresh Clock.noon) rfl rfl
    (.fresh (by decide) (by decide) _) (indexDown 5) listingFails (by decide) "ada"
    ⟨.activity "ada", .ok (.accrual (.accrued 30))⟩ (by decide +kernel) rfl rfl 7 (by decide)
    (by decide +kernel)
  -- only the default bucket is known
  have hknown : (((⟨Memory.fresh Clock.noon, []⟩ : Trail).proceed standard (indexDown 5)
      listingFails).2.memory.run standard.knownBuckets).1 = .ok [5] := by
    decide +kernel
  rw [hknown] at hbs
  cases hbs
  exact absurd hb (by decide)

end Service

end Presence
