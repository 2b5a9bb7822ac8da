import BalancerSync.Control.Election
import BalancerSync.Proofs.Cluster.LeaseServer
import Mathlib.Logic.Function.Basic

/-!
# Replicas side by side

Several replicas try to acquire the lease, each by a lookup and a write, and the cluster carries out
their requests one at a time in any order.  What a replica is told at the end of an attempt is true
at that moment, with one exception.  A renewal names neither the holder nor the version of the lease
that the lookup found.  So if another replica takes the lease over between the lookup and the
renewal, the renewal is carried out all the same, on the lease of the other.

## Main Definitions

* `Fleet` — replicas with their identities, and the cluster that they share
* `Fleet.State`, `Fleet.Move`, `Fleet.run` — their attempts, one request at a time
* `Fleet.Overtaken` — the lease has been taken by another since a replica looked at it
* `Fleet.Stage` — how far an attempt has come, and what it knows about the lease

## Main Results

* `Fleet.sound_run` — every attempt is at some stage, in any order of the requests
* `Fleet.holds_iff_of_leads` — whether a replica that is told that it leads holds the lease
* `Fleet.leads_without_lease` — one that is told so and does not hold it
-/

namespace BalancerSync.Control

open Cluster (Lease LeaseServer Request Time Stored)

/-! ### Attempts -/

section

variable {«namespace» identity : String} {now : Time}

/-- What an attempt does after its lookup. -/
def afterLookup («namespace» identity : String) (now : Time) :
    Except Error Lease → Cluster.Operation Bool
  | .ok lease =>
    if lease.holder = some identity then renew «namespace» now
    else if lease.isExpired now then takeOver «namespace» identity now lease
    else .done (.ok false)
  | .error (.kube f) =>
    if f.code? = some 404 then createLease «namespace» identity now else .done (.error (.kube f))
  | .error e => .done (.error e)

/-- An attempt begins with a lookup, and all that comes after it depends on the answer. -/
theorem acquire_eq («namespace» identity : String) (now : Time) :
    acquire «namespace» identity now =
      .ask (.getLease «namespace») (afterLookup «namespace» identity now) := by
  rw [acquire, findLease, unlessRefused]
  change Program.ask _ _ = _
  congr 1
  funext reply
  cases reply with
  | ok lease => rfl
  | error e =>
    cases e with
    | kube f =>
      by_cases h : f.code? = some 404
      · simp [afterLookup, h, Program.attempt, Program.bind]
      · simp [afterLookup, h, Program.attempt, Program.bind, Program.fail]
    | _ => rfl

/-- A write ends the attempt, and not well unless it succeeds. -/
def Final {α : Type} (next : Except Error α → Cluster.Operation Bool) : Prop :=
  ∀ reply, (∃ outcome, next reply = .done outcome) ∧
    (next reply = .done (.ok true) → ∃ a, reply = .ok a)

/-- Renewing and creating the lease are a lone write, which tells that it was carried out by the
mere fact that it did not fail. -/
theorem exists_final_write (q : Request) : ∃ next, Final next ∧
    (do let _ ← Cluster.ask q; return true) = .ask q next := by
  refine ⟨_, fun reply => ?_, rfl⟩
  cases reply with
  | ok _ => exact ⟨⟨_, rfl⟩, fun _ => ⟨_, rfl⟩⟩
  | error e => exact ⟨⟨_, rfl⟩, fun h => by cases h⟩

/-- Taking the lease over ends with a write too.  If another replica was faster, the attempt ends
without an error, but the replica is told that it does not lead. -/
theorem exists_final_takeOver («namespace» identity : String) (now : Time) (lease : Lease) :
    ∃ next, Final next ∧ takeOver «namespace» identity now lease =
      .ask (.patchLease «namespace» (.takeOver lease.resourceVersion identity now)) next := by
  refine ⟨_, fun reply => ?_, rfl⟩
  cases reply with
  | ok _ => exact ⟨⟨_, rfl⟩, fun _ => ⟨_, rfl⟩⟩
  | error e =>
    cases e with
    | kube f =>
      by_cases h : f.code? = some 409
      · simp [Program.bind, Program.attempt, h]
      · simp [Program.bind, Program.attempt, h, Program.fail]
    | _ => exact ⟨⟨_, rfl⟩, fun h => by cases h⟩

/-- The write that an attempt makes after its lookup. -/
inductive FollowUp («namespace» identity : String) (now : Time) : Except Error Lease → Request → Prop
    where
  | renewal {lease : Lease} : lease.holder = some identity →
    FollowUp «namespace» identity now (.ok lease) (.patchLease «namespace» (.renew now))
  | takeover {lease : Lease} : lease.holder ≠ some identity → lease.isExpired now = true →
    FollowUp «namespace» identity now (.ok lease)
      (.patchLease «namespace» (.takeOver lease.resourceVersion identity now))
  | creation {f : Cluster.Failure} : f.code? = some 404 →
    FollowUp «namespace» identity now (.error (.kube f)) (.createLease «namespace» identity now)

/-- After its lookup an attempt ends without being told that it leads, or it makes its write. -/
theorem afterLookup_cases («namespace» identity : String) (now : Time)
    (reply : Except Error Lease) :
    (∃ outcome, afterLookup «namespace» identity now reply = .done outcome ∧ outcome ≠ .ok true) ∨
      ∃ q next, FollowUp «namespace» identity now reply q ∧ Final next ∧
        afterLookup «namespace» identity now reply = .ask q next := by
  cases reply with
  | ok lease =>
    by_cases hholder : lease.holder = some identity
    · obtain ⟨next, hfinal, heq⟩ := exists_final_write (.patchLease «namespace» (.renew now))
      refine .inr ⟨_, next, .renewal hholder, hfinal, ?_⟩
      rw [afterLookup, if_pos hholder]
      exact heq
    · by_cases hexpired : lease.isExpired now = true
      · obtain ⟨next, hfinal, heq⟩ := exists_final_takeOver «namespace» identity now lease
        exact .inr ⟨_, next, .takeover hholder hexpired, hfinal,
          by rw [afterLookup, if_neg hholder, if_pos hexpired, heq]⟩
      · exact .inl ⟨_, by rw [afterLookup, if_neg hholder, if_neg hexpired], by simp⟩
  | error e =>
    cases e with
    | kube f =>
      by_cases hmissing : f.code? = some 404
      · obtain ⟨next, hfinal, heq⟩ := exists_final_write (.createLease «namespace» identity now)
        refine .inr ⟨_, next, .creation hmissing, hfinal, ?_⟩
        rw [afterLookup, if_pos hmissing]
        exact heq
      · exact .inl ⟨_, by rw [afterLookup, if_neg hmissing], by simp⟩
    | _ => exact .inl ⟨_, rfl, by simp⟩

/-- Nobody is told that it leads without a write. -/
theorem afterLookup_ne («namespace» identity : String) (now : Time) (reply : Except Error Lease) :
    afterLookup «namespace» identity now reply ≠ .done (.ok true) := by
  rcases afterLookup_cases «namespace» identity now reply with
    ⟨outcome, heq, hne⟩ | ⟨q, next, -, -, heq⟩
  · rw [heq]
    rintro ⟨⟩
    exact hne rfl
  · rw [heq]
    exact nofun

end

/-! ### Fleets -/

/-- Replicas with their identities, and the cluster in which they share a lease. -/
structure Fleet (ι σ : Type) where
  server : LeaseServer σ
  «namespace» : String
  identity : ι → String

namespace Fleet

/-- A request of a replica, with the cluster before and after it. -/
structure Turn (ι σ : Type) where
  replica : ι
  request : Request
  before : σ
  after : σ

/-- The cluster and the replicas at some moment. -/
structure State (ι σ : Type) where
  cluster : σ
  /-- What is left of each replica's attempt; between attempts, how the last one ended. -/
  attempts : ι → Cluster.Operation Bool
  /-- The turns so far, the latest one first. -/
  turns : List (Turn ι σ)

/-- What can happen next: a replica begins an attempt with its clock at some time, or its next
request is carried out. -/
inductive Move (ι : Type) where
  | attempt (i : ι) (now : Time)
  | turn (i : ι)

section

variable {ι σ : Type} {i j : ι} {s : σ} {x : State ι σ} {t : Turn ι σ} {turns : List (Turn ι σ)}
  {p : Cluster.Operation Bool} {now : Time} {text : Time → String}

/-- Whether the last attempt of a replica has ended with it being told that it leads. -/
def State.leads (x : State ι σ) (i : ι) : Bool :=
  match x.attempts i with
  | .done (.ok leads) => leads
  | _ => false

/-- Whoever is told that it leads is in the midst of no attempt. -/
theorem State.attempts_of_leads (h : x.leads i = true) : x.attempts i = .done (.ok true) := by
  rw [State.leads] at h
  split at h
  · rename_i leads hattempt
    rw [hattempt, h]
  · cases h

/-- A request to renew the lease. -/
def Turn.IsRenewal (t : Turn ι σ) : Prop :=
  ∃ «namespace» now, t.request = .patchLease «namespace» (.renew now)

variable (fleet : Fleet ι σ)

/-- A replica holds the lease. -/
def Holds (i : ι) (s : σ) : Prop := fleet.server.holder s = some (fleet.identity i)

/-- A turn after which the replica holds the lease, which it did not before. -/
def Takes (t : Turn ι σ) : Prop := ¬ fleet.Holds t.replica t.before ∧ fleet.Holds t.replica t.after

variable [DecidableEq ι]

/-- Since the last turn of a replica another one has taken the lease. -/
def Overtaken (i : ι) (turns : List (Turn ι σ)) : Prop :=
  ∃ t ∈ turns.takeWhile (fun t => t.replica ≠ i), fleet.Takes t

/-- The next request of a replica is carried out. -/
def answer (x : State ι σ) (i : ι) (q : Request)
    (next : Except Error (Cluster.effect.Reply q) → Cluster.Operation Bool) : State ι σ where
  cluster := (fleet.server.handle q x.cluster).2
  attempts := Function.update x.attempts i (next (fleet.server.handle q x.cluster).1)
  turns := ⟨i, q, x.cluster, (fleet.server.handle q x.cluster).2⟩ :: x.turns

/-- A replica does not begin an attempt before the last one has ended, and makes requests only
during an attempt. -/
def step (x : State ι σ) : Move ι → State ι σ
  | .attempt i now =>
    match x.attempts i with
    | .done _ => { x with
        attempts := Function.update x.attempts i
          (acquire fleet.namespace (fleet.identity i) now) }
    | .ask _ _ => x
  | .turn i =>
    match x.attempts i with
    | .done _ => x
    | .ask q next => fleet.answer x i q next

/-- The state after some moves; at first no replica leads. -/
def run (s : σ) (moves : List (Move ι)) : State ι σ :=
  moves.foldl fleet.step ⟨s, fun _ => .done (.ok false), []⟩

variable {fleet} in
/-- A replica that begins an attempt has not been told anything yet; the others have been told what
they were told before. -/
theorem leads_of_attempt (h : State.leads { x with
    attempts := Function.update x.attempts i (acquire fleet.namespace (fleet.identity i) now) } j =
      true) : j ≠ i ∧ x.leads j = true := by
  have hattempt := State.attempts_of_leads h
  by_cases hj : j = i
  · simp only [hj, Function.update_self, acquire_eq] at hattempt
    cases hattempt
  · simp only [Function.update_of_ne hj] at hattempt
    exact ⟨hj, by rw [State.leads, hattempt]⟩

/-! ### Stages -/

/-- How far an attempt has come.  A replica that has looked at the lease and goes on to renew it
holds it as long as nobody else has taken it. -/
inductive Stage (i : ι) (turns : List (Turn ι σ)) (s : σ) : Cluster.Operation Bool → Prop where
  | ended (outcome : Except Error Bool) : Stage i turns s (.done outcome)
  | begun (now : Time) : Stage i turns s
      (.ask (.getLease fleet.namespace) (afterLookup fleet.namespace (fleet.identity i) now))
  | renewing {now : Time} {next : Except Error Unit → Cluster.Operation Bool} : Final next →
    (fleet.Holds i s ↔ ¬ fleet.Overtaken i turns) →
    Stage i turns s (.ask (.patchLease fleet.namespace (.renew now)) next)
  | takingOver {now : Time} {read : Option String}
    {next : Except Error Unit → Cluster.Operation Bool} : Final next →
    Stage i turns s
      (.ask (.patchLease fleet.namespace (.takeOver read (fleet.identity i) now)) next)
  | creating {now : Time} {next : Except Error Unit → Cluster.Operation Bool} : Final next →
    Stage i turns s (.ask (.createLease fleet.namespace (fleet.identity i) now) next)

variable {fleet}

/-- Nobody can have overtaken a replica in its own turn. -/
theorem not_overtaken_of_cons_self (hreplica : t.replica = i) :
    ¬ fleet.Overtaken i (t :: turns) := by
  rintro ⟨u, hu, -⟩
  simp [hreplica] at hu

/-- A turn of another replica may be the one that takes the lease. -/
theorem overtaken_cons_of_ne (hreplica : t.replica ≠ i) :
    fleet.Overtaken i (t :: turns) ↔ fleet.Takes t ∨ fleet.Overtaken i turns := by
  simp [Overtaken, hreplica]

theorem Stage.of_final {α : Type} {next : Except Error α → Cluster.Operation Bool}
    (h : Final next) (reply : Except Error α) : fleet.Stage i turns s (next reply) := by
  obtain ⟨⟨outcome, hended⟩, -⟩ := h reply
  rw [hended]
  exact .ended outcome

/-- A replica whose lookup has found its own name renews the lease, and knows that it holds it. -/
theorem stage_afterLookup {now : Time} {reply : Except Error Lease}
    (hfound : ∀ lease, reply = .ok lease → fleet.server.lease s = some lease)
    (hreplica : t.replica = i) :
    fleet.Stage i (t :: turns) s
      (afterLookup fleet.namespace (fleet.identity i) now reply) := by
  rcases afterLookup_cases fleet.namespace (fleet.identity i) now reply with
    ⟨outcome, heq, -⟩ | ⟨q, next, hfollows, hfinal, heq⟩
  · rw [heq]
    exact .ended outcome
  · rw [heq]
    cases hfollows with
    | @renewal lease hholder =>
      refine .renewing hfinal (iff_of_true ?_ (not_overtaken_of_cons_self hreplica))
      rw [Holds, LeaseServer.holder, hfound lease rfl]
      exact hholder
    | takeover => exact .takingOver hfinal
    | creation => exact .creating hfinal

/-! ### One turn -/

/-- After a turn the lease is with the holder that it had before, or with the replica whose turn it
was. -/
theorem Stage.holder_after (hserver : fleet.server.Lawful text fleet.namespace) {q : Request}
    {next : Except Error (Cluster.effect.Reply q) → Cluster.Operation Bool}
    (h : fleet.Stage j turns s (.ask q next)) :
    fleet.server.holder (fleet.server.handle q s).2 = fleet.server.holder s ∨
      fleet.Holds j (fleet.server.handle q s).2 := by
  cases h with
  | begun now => exact .inl (hserver.holder_looked s)
  | renewing => exact .inl (hserver.holder_renewed _ s)
  | takingOver =>
    refine (hserver.holder_takenOver _ _ _ s).imp (fun hrefuses => ?_) fun hholder => hholder
    exact LeaseServer.holder_of_manifest_eq hrefuses.unwritten
  | creating =>
    refine (hserver.holder_created _ _ s).imp (fun hrefuses => ?_) fun hholder => hholder
    exact LeaseServer.holder_of_manifest_eq hrefuses.unwritten

/-- An attempt goes on with a write after its lookup, and ends after its write. -/
theorem Stage.next (hserver : fleet.server.Lawful text fleet.namespace) {q : Request}
    {next : Except Error (Cluster.effect.Reply q) → Cluster.Operation Bool}
    (h : fleet.Stage i turns s (.ask q next)) (hreplica : t.replica = i) :
    fleet.Stage i (t :: turns) (fleet.server.handle q s).2 (next (fleet.server.handle q s).1) := by
  cases h with
  | begun now =>
    refine stage_afterLookup (fun lease hlease => ?_) hreplica
    rw [LeaseServer.lease, hserver.looked]
    exact hserver.found hlease
  | renewing hfinal _ | takingOver hfinal | creating hfinal => exact .of_final hfinal _

/-- What an attempt knows, it still knows after a turn of another replica. -/
theorem Stage.other (hidentity : fleet.identity.Injective) (h : fleet.Stage i turns t.before p)
    (hreplica : t.replica ≠ i)
    (ht : fleet.server.holder t.after = fleet.server.holder t.before ∨
      fleet.Holds t.replica t.after) : fleet.Stage i (t :: turns) t.after p := by
  cases h with
  | ended outcome => exact .ended outcome
  | begun now => exact .begun now
  | takingOver hfinal => exact .takingOver hfinal
  | creating hfinal => exact .creating hfinal
  | renewing hfinal hknown =>
    refine .renewing hfinal ?_
    have hother : ∀ v, fleet.Holds t.replica v → ¬ fleet.Holds i v := fun v hv hi =>
      hreplica (hidentity (Option.some.inj (hv.symm.trans hi)))
    rw [overtaken_cons_of_ne hreplica]
    by_cases hafter : fleet.Holds t.replica t.after
    · refine iff_of_false (hother _ hafter) (not_not_intro ?_)
      by_cases hbefore : fleet.Holds t.replica t.before
      · -- The lease was the other's already, so it had been taken by then.
        exact .inr (not_not.1 (mt hknown.2 (hother _ hbefore)))
      · exact .inl ⟨hbefore, hafter⟩
    · have hsame := ht.resolve_right hafter
      have hnot : ¬ fleet.Takes t := fun htakes => hafter htakes.2
      have hholds : fleet.Holds i t.after ↔ fleet.Holds i t.before := by rw [Holds, hsame, Holds]
      simpa [hnot, hholds] using hknown

/-- A replica that is told that it leads holds the lease, unless it has renewed it after another one
had taken it. -/
def Truthful (fleet : Fleet ι σ) (t : Turn ι σ) (earlier : List (Turn ι σ)) : Prop :=
  fleet.Holds t.replica t.after ↔ ¬ (t.IsRenewal ∧ fleet.Overtaken t.replica earlier)

/-- An attempt that ends well has ended truthfully. -/
theorem Stage.truthful (hserver : fleet.server.Lawful text fleet.namespace) {q : Request}
    {next : Except Error (Cluster.effect.Reply q) → Cluster.Operation Bool}
    (h : fleet.Stage i turns s (.ask q next))
    (hleads : next (fleet.server.handle q s).1 = .done (.ok true)) :
    fleet.Truthful ⟨i, q, s, (fleet.server.handle q s).2⟩ turns := by
  have hwritten : ∀ (q : Request) (a : Cluster.effect.Reply q),
      (fleet.server.handle q s).1 = .ok a → ¬ fleet.server.Refuses q s := by
    rintro q a hok ⟨⟨e, he⟩, -⟩
    cases hok.symm.trans he
  cases h with
  | begun now => exact absurd hleads (afterLookup_ne _ _ _ _)
  | @renewing now next hfinal hknown =>
    have hsame := hserver.holder_renewed now s
    have hrenewal : Turn.IsRenewal (⟨i, .patchLease fleet.namespace (.renew now), s,
      (fleet.server.handle (.patchLease fleet.namespace (.renew now)) s).2⟩ : Turn ι σ) :=
      ⟨_, _, rfl⟩
    simp only [Truthful, hrenewal, true_and]
    rw [Holds, hsame]
    exact hknown
  | @takingOver now read next hfinal =>
    obtain ⟨a, hok⟩ := (hfinal _).2 hleads
    refine iff_of_true ?_ ?_
    · exact (hserver.holder_takenOver read _ now s).resolve_left (hwritten _ a hok)
    · rintro ⟨⟨_, _, h⟩, -⟩
      cases h
  | @creating now next hfinal =>
    obtain ⟨a, hok⟩ := (hfinal _).2 hleads
    refine iff_of_true ?_ ?_
    · exact (hserver.holder_created _ now s).resolve_left (hwritten _ a hok)
    · rintro ⟨⟨_, _, h⟩, -⟩
      cases h

/-! ### Runs -/

/-- What holds in every state: each attempt is at some stage, and the latest attempt that has ended
well has ended truthfully. -/
structure Sound (fleet : Fleet ι σ) (x : State ι σ) : Prop where
  stages (i : ι) : fleet.Stage i x.turns x.cluster (x.attempts i)
  truthful {t : Turn ι σ} {earlier : List (Turn ι σ)} : x.turns = t :: earlier →
    x.leads t.replica = true → fleet.Truthful t earlier

/-- Beginning an attempt. -/
theorem Sound.attempt (hx : fleet.Sound x) (i : ι) (now : Time) :
    fleet.Sound { x with
      attempts := Function.update x.attempts i
        (acquire fleet.namespace (fleet.identity i) now) } := by
  refine ⟨fun k => ?_, fun hturns hleads => hx.truthful hturns (leads_of_attempt hleads).2⟩
  by_cases hk : k = i
  · subst hk
    simp only [Function.update_self, acquire_eq]
    exact .begun now
  · simp only [Function.update_of_ne hk]
    exact hx.stages k

/-- Carrying out a request. -/
theorem Sound.answer (hserver : fleet.server.Lawful text fleet.namespace)
    (hidentity : fleet.identity.Injective) (hx : fleet.Sound x) {q : Request}
    {next : Except Error (Cluster.effect.Reply q) → Cluster.Operation Bool}
    (hi : x.attempts i = .ask q next) : fleet.Sound (fleet.answer x i q next) := by
  have hstage := hi ▸ hx.stages i
  refine ⟨fun k => ?_, fun {t earlier} hturns hleads => ?_⟩
  · by_cases hk : k = i
    · subst hk
      simp only [Fleet.answer, Function.update_self]
      exact hstage.next hserver rfl
    · simp only [Fleet.answer, Function.update_of_ne hk]
      exact (hx.stages k).other hidentity (Ne.symm hk) (hstage.holder_after hserver)
  · obtain ⟨rfl, rfl⟩ := List.cons.inj hturns
    have hattempt := State.attempts_of_leads hleads
    simp only [Fleet.answer, Function.update_self] at hattempt
    exact hstage.truthful hserver hattempt

/-- Both kinds of moves keep the fleet sound.  A move that is not possible changes nothing. -/
theorem Sound.step (hserver : fleet.server.Lawful text fleet.namespace)
    (hidentity : fleet.identity.Injective) (hx : fleet.Sound x) (move : Move ι) :
    fleet.Sound (fleet.step x move) := by
  cases move with
  | attempt i now =>
    rw [Fleet.step]
    split
    · exact hx.attempt i now
    · exact hx
  | turn i =>
    rw [Fleet.step]
    split
    · exact hx
    · rename_i hattempt
      exact hx.answer hserver hidentity hattempt

/-- In whatever order the replicas begin their attempts and the cluster carries out their
requests. -/
theorem sound_run (hserver : fleet.server.Lawful text fleet.namespace)
    (hidentity : fleet.identity.Injective) (s : σ) (moves : List (Move ι)) :
    fleet.Sound (fleet.run s moves) := by
  have hstart : fleet.Sound ⟨s, fun _ => .done (.ok false), []⟩ := ⟨fun _ => .ended _, nofun⟩
  exact List.foldlRecOn moves fleet.step hstart fun x hx move _ => hx.step hserver hidentity move

/-- A replica that is told that it leads holds the lease at that moment, unless it was a renewal and
another replica had taken the lease since the lookup; then it does not hold it. -/
theorem holds_iff_of_leads (hserver : fleet.server.Lawful text fleet.namespace)
    (hidentity : fleet.identity.Injective) (s : σ) (moves : List (Move ι))
    (hturns : (fleet.run s moves).turns = t :: turns)
    (hleads : (fleet.run s moves).leads t.replica = true) :
    fleet.Holds t.replica t.after ↔ ¬ (t.IsRenewal ∧ fleet.Overtaken t.replica turns) :=
  (sound_run hserver hidentity s moves).truthful hturns hleads

end

/-! ### Two replicas -/

namespace Sample

/-- Moments in the first hour, in whole seconds. -/
def written (t : Time) : String :=
  let pair (n : Nat) : String := (if n < 10 then "0" else "") ++ toString n
  let seconds := (t.nanos / 1000000000).toNat
  "1970-01-01T00:" ++ pair (seconds / 60) ++ ":" ++ pair (seconds % 60) ++ "Z"

def seconds (n : Int) : Time := ⟨n * 1000000000⟩

def fleet : Fleet (Fin 2) Stored :=
  ⟨Stored.server written, "kube-system", fun i => if i = 0 then "first" else "second"⟩

theorem injective_identity : fleet.identity.Injective := by
  change ∀ i j : Fin 2, fleet.identity i = fleet.identity j → i = j
  decide

/-- There is no lease yet. -/
def vacant : Stored := ⟨none, 0⟩

/-- The first replica creates the lease. -/
def beginning : List (Move (Fin 2)) := [.attempt 0 (seconds 0), .turn 0, .turn 0]

/-- It looks at its lease when the time is past.  The second replica looks at it as well and takes
it over, and then the first one renews it. -/
def crossing : List (Move (Fin 2)) :=
  beginning ++ [.attempt 0 (seconds 20), .turn 0, .attempt 1 (seconds 20), .turn 1, .turn 1, .turn 0]

/-- Both replicas look at a lease whose time is past before either of them writes, and the first one
takes it over. -/
def rush : List (Move (Fin 2)) :=
  [.attempt 0 (seconds 20), .attempt 1 (seconds 25), .turn 0, .turn 1, .turn 0]

end Sample

/-- The first replica creates the lease, and holds it when it is told that it leads. -/
theorem holds_iff_of_leads_sample :
    Sample.fleet.server.Lawful Sample.written Sample.fleet.namespace ∧
    Sample.fleet.identity.Injective ∧
    ∃ t turns, (Sample.fleet.run Sample.vacant Sample.beginning).turns = t :: turns ∧
      (Sample.fleet.run Sample.vacant Sample.beginning).leads t.replica = true ∧
      (Sample.fleet.Holds t.replica t.after ↔
        ¬ (t.IsRenewal ∧ Sample.fleet.Overtaken t.replica turns)) := by
  have hserver : Sample.fleet.server.Lawful Sample.written Sample.fleet.namespace :=
    Cluster.lawful_stored _ _
  have hleads : (Sample.fleet.run Sample.vacant Sample.beginning).leads 0 = true := by
    decide +kernel
  have hreplica : (Sample.fleet.run Sample.vacant Sample.beginning).turns.head?.map (·.replica) =
      some 0 := by decide +kernel
  cases hturns : (Sample.fleet.run Sample.vacant Sample.beginning).turns with
  | nil =>
    rw [hturns] at hreplica
    cases hreplica
  | cons t turns =>
    rw [hturns] at hreplica
    have ht : t.replica = 0 := Option.some.inj hreplica
    have hleads : (Sample.fleet.run Sample.vacant Sample.beginning).leads t.replica = true := by
      rw [ht, hleads]
    exact ⟨hserver, Sample.injective_identity, t, turns, rfl, hleads,
      holds_iff_of_leads hserver Sample.injective_identity _ _ hturns hleads⟩

/-- A replica can be told that it leads while another one holds the lease. -/
theorem leads_without_lease :
    Sample.fleet.server.Lawful Sample.written Sample.fleet.namespace ∧
    Sample.fleet.identity.Injective ∧
    (Sample.fleet.run Sample.vacant Sample.crossing).leads 0 = true ∧
    (Sample.fleet.run Sample.vacant Sample.crossing).turns.head?.map (·.replica) = some 0 ∧
    Sample.fleet.server.holder (Sample.fleet.run Sample.vacant Sample.crossing).cluster =
      some "second" ∧
    (Sample.fleet.run Sample.vacant Sample.crossing).turns.map (fun t =>
      (Sample.fleet.server.lease t.after).bind (·.resourceVersion)) =
        [some "3", some "2", some "1", some "1", some "1", none] := by
  refine ⟨Cluster.lawful_stored _ _, Sample.injective_identity, ?_, ?_, ?_, ?_⟩
  · decide +kernel
  · decide +kernel
  · decide +kernel
  · decide +kernel

end Fleet

end BalancerSync.Control
