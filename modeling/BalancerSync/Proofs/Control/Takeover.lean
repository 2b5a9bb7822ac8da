import BalancerSync.Proofs.Cluster.LeaseVersions
import BalancerSync.Proofs.Control.Replicas

/-!
# Taking the lease over

An attempt reads the lease and writes it, and between the two anything can happen: other replicas
read, renew, take over and create.  A replica that is told that it leads has held the lease when it
read it, or has created it where there was none, or has taken over just what it had read.  The last
is a compare-and-swap, and it rests on the version that a takeover names: as long as the lease has
that version, nobody has written.

What an attempt does is decided by the answer to its lookup and by its clock.  The clock is not a
part of a replica's state, so it is kept beside the state here, `Timed`.  Where a write stands among
the turns of the others is decided by the versions, and that takes a view of all turns, `Path`.

## Main Definitions

* `Fleet.clock` — the clock that the latest attempt of a replica goes by
* `Fleet.Path` — turns that lead from one state of the cluster to another
* `Fleet.Course` — how far an attempt has come
* `Fleet.Grounds` — what a replica is told that it leads for
* `Fleet.TakesOver` — a takeover that is carried out

## Main Results

* `Fleet.Path.unwritten_or_retired` — what became of a version meanwhile
* `Fleet.led_run` — what has come before a replica is told that it leads
* `Fleet.takeover_of_leads` — a takeover is a compare-and-swap
-/

namespace BalancerSync.Control

open Cluster (Lease LeaseRequest LeaseServer Request Time Stored)

theorem FollowUp.leaseRequest {«namespace» identity : String} {now : Time}
    {reply : Except Error Lease} {q : Request} (h : FollowUp «namespace» identity now reply q) :
    LeaseRequest «namespace» q := by
  cases h with
  | renewal | takeover => exact .patch _
  | creation => exact .creation _ _

namespace Fleet

section

variable {ι σ : Type} {i : ι} {a b s : σ} {t u : Turn ι σ} {turns between rest : List (Turn ι σ)}
  {p : Cluster.Operation Bool} {now : Time} {text : Time → String} {issued : σ → Set String}
  {version : String}

variable (fleet : Fleet ι σ)

/-! ### Turns in a row -/

/-- Turns that lead from one state of the cluster to another, the latest one first. -/
inductive Path (a : σ) : List (Turn ι σ) → σ → Prop where
  | nil : Path a [] a
  | cons {t : Turn ι σ} {turns : List (Turn ι σ)} : Path a turns t.before →
    LeaseRequest fleet.namespace t.request →
    t.after = (fleet.server.handle t.request t.before).2 → Path a (t :: turns) t.after

/-- A takeover that is carried out, whether or not that is answered. -/
def TakesOver (version : String) (t : Turn ι σ) : Prop :=
  (∃ holder now, t.request =
      .patchLease fleet.namespace (.takeOver (some version) holder now)) ∧
    ¬ fleet.server.Refuses t.request t.before

variable {fleet}

namespace Path

/-- A turn cuts the turns in two. -/
theorem split (h : fleet.Path a (between ++ t :: rest) b) :
    fleet.Path a rest t.before ∧ LeaseRequest fleet.namespace t.request ∧
      t.after = (fleet.server.handle t.request t.before).2 ∧ fleet.Path t.after between b := by
  induction between generalizing b with
  | nil =>
    cases h with
    | cons hrest hrequest hafter => exact ⟨hrest, hrequest, hafter, .nil⟩
  | cons u between ih =>
    cases h with
    | cons hrest hrequest hafter =>
      obtain ⟨hbefore, ht, htafter, hbetween⟩ := ih hrest
      exact ⟨hbefore, ht, htafter, .cons hbetween hrequest hafter⟩

section

variable (hserver : fleet.server.Lawful text fleet.namespace)
  (hversions : fleet.server.Versioned issued fleet.namespace)
include hserver hversions

/-- All versions on a path have been issued, if the one at its beginning was. -/
theorem numbered (h : fleet.Path a turns b) (ha : fleet.server.Numbered issued a) :
    fleet.server.Numbered issued b := by
  induction h with
  | nil => exact ha
  | cons _ hrequest hafter ih =>
    rw [hafter]
    exact hversions.numbered hserver hrequest ih

/-- As long as a version is not retired, nobody has written. -/
theorem unwritten_or_retired (h : fleet.Path a turns b) (hissued : version ∈ issued a) :
    (version ∈ issued b ∧ fleet.server.manifest b = fleet.server.manifest a ∧
        ∀ u ∈ turns, fleet.server.manifest u.after = fleet.server.manifest u.before) ∨
      fleet.server.Retired issued version b := by
  -- On the turns from the earliest on: a turn writes nothing, or it retires the version for good.
  induction h with
  | nil => exact .inl ⟨hissued, rfl, by simp⟩
  | @cons t turns _ hrequest hafter ih =>
    rcases ih with ⟨hknown, hsame, hunwritten⟩ | hretired
    · rw [hafter]
      rcases hversions.unwritten_or_retired hserver hrequest hknown with hkept | hretired
      · refine .inl ⟨hversions.kept _ _ hknown, hkept.trans hsame, ?_⟩
        refine List.forall_mem_cons.2 ⟨?_, hunwritten⟩
        rw [hafter, hkept]
      · exact .inr hretired
    · right
      rw [hafter]
      exact hversions.retired hserver hrequest hretired

/-- A version that was taken over is retired. -/
theorem retired_of_takesOver (h : fleet.Path a turns b) (ha : fleet.server.Numbered issued a)
    (hmem : u ∈ turns) (hu : fleet.TakesOver version u) : fleet.server.Retired issued version b := by
  induction h with
  | nil => cases hmem
  | @cons t turns hpath hrequest hafter ih =>
    rw [hafter]
    rcases List.mem_cons.1 hmem with rfl | hmem
    · obtain ⟨⟨holder, now, htakeover⟩, hdone⟩ := hu
      rw [htakeover] at hdone ⊢
      exact (hversions.retired_of_takeover hserver (hpath.numbered hserver hversions ha) hdone).2
    · exact hversions.retired hserver hrequest (ih hmem)

/-- No version is taken over twice. -/
theorem pairwise (h : fleet.Path a turns b) (ha : fleet.server.Numbered issued a) :
    turns.Pairwise fun later sooner =>
      ∀ version, fleet.TakesOver version sooner → ¬ fleet.TakesOver version later := by
  induction h with
  | nil => exact .nil
  | @cons t turns hpath hrequest hafter ih =>
    refine .cons (fun sooner hmem version hsooner hlater => ?_) ih
    have hretired := hpath.retired_of_takesOver hserver hversions ha hmem hsooner
    obtain ⟨⟨holder, now, htakeover⟩, hdone⟩ := hlater
    rw [htakeover] at hdone
    exact hretired.2
      (hversions.retired_of_takeover hserver (hpath.numbered hserver hversions ha) hdone).1

end

end Path

/-! ### Attempts -/

variable (fleet)

/-- What a lookup is answered. -/
def reply (t : Turn ι σ) : Except Error Lease :=
  (fleet.server.handle (.getLease fleet.namespace) t.before).1

/-- The latest lookup of a replica, with the turns of the others since. -/
structure Looked (i : ι) (turns between : List (Turn ι σ)) (look : Turn ι σ)
    (rest : List (Turn ι σ)) : Prop where
  split : turns = between ++ look :: rest
  replica : look.replica = i
  request : look.request = .getLease fleet.namespace
  others : ∀ u ∈ between, u.replica ≠ i

/-- How far an attempt has come whose clock is at `now`: its write follows from the answer to its
lookup. -/
inductive Course (i : ι) (now : Time) (turns : List (Turn ι σ)) : Cluster.Operation Bool → Prop where
  | ended (outcome : Except Error Bool) : Course i now turns (.done outcome)
  | begun : Course i now turns
      (.ask (.getLease fleet.namespace) (afterLookup fleet.namespace (fleet.identity i) now))
  | writing {between rest : List (Turn ι σ)} {look : Turn ι σ} {q : Request}
    {next : Except Error (Cluster.effect.Reply q) → Cluster.Operation Bool} :
    fleet.Looked i turns between look rest →
    FollowUp fleet.namespace (fleet.identity i) now (fleet.reply look) q → Final next →
    Course i now turns (.ask q next)

/-- What has come before the turn with which a replica is told that it leads: its lookup, and the
answer to the lookup that its write follows from. -/
def Led (now : Time) (t : Turn ι σ) (earlier : List (Turn ι σ)) : Prop :=
  ∃ between look rest, fleet.Looked t.replica earlier between look rest ∧
    FollowUp fleet.namespace (fleet.identity t.replica) now (fleet.reply look) t.request ∧
    ¬ fleet.server.Refuses t.request t.before

variable {fleet}

/-- A lookup is the latest one when it is made. -/
theorem looked_self (hreplica : t.replica = i) (hrequest : t.request = .getLease fleet.namespace) :
    fleet.Looked i (t :: turns) [] t turns :=
  ⟨rfl, hreplica, hrequest, by simp⟩

/-- It remains so while only other replicas have their turns. -/
theorem Looked.other {look : Turn ι σ} (h : fleet.Looked i turns between look rest)
    (hreplica : t.replica ≠ i) : fleet.Looked i (t :: turns) (t :: between) look rest :=
  ⟨by rw [h.split]; rfl, h.replica, h.request, List.forall_mem_cons.2 ⟨hreplica, h.others⟩⟩

/-- An attempt makes requests about the lease only. -/
theorem Course.leaseRequest {q : Request}
    {next : Except Error (Cluster.effect.Reply q) → Cluster.Operation Bool}
    (h : fleet.Course i now turns (.ask q next)) : LeaseRequest fleet.namespace q := by
  cases h with
  | begun => exact .look
  | writing _ hfollows _ => exact hfollows.leaseRequest

/-- An attempt goes on after its lookup, and ends after its write. -/
theorem Course.next {q : Request}
    {next : Except Error (Cluster.effect.Reply q) → Cluster.Operation Bool}
    (h : fleet.Course i now turns (.ask q next)) :
    fleet.Course i now (⟨i, q, s, (fleet.server.handle q s).2⟩ :: turns)
      (next (fleet.server.handle q s).1) := by
  cases h with
  | begun =>
    rcases afterLookup_cases fleet.namespace (fleet.identity i) now
      (fleet.server.handle (.getLease fleet.namespace) s).1 with
      ⟨outcome, heq, -⟩ | ⟨q, next, hfollows, hfinal, heq⟩
    · rw [heq]
      exact .ended outcome
    · rw [heq]
      exact .writing (looked_self rfl rfl) hfollows hfinal
  | writing _ _ hfinal =>
    obtain ⟨⟨outcome, hended⟩, -⟩ := hfinal (fleet.server.handle q s).1
    rw [hended]
    exact .ended outcome

/-- A turn of another replica changes nothing about an attempt. -/
theorem Course.other (h : fleet.Course i now turns p) (hreplica : t.replica ≠ i) :
    fleet.Course i now (t :: turns) p := by
  cases h with
  | ended outcome => exact .ended outcome
  | begun => exact .begun
  | writing hlooked hfollows hfinal =>
    exact .writing (hlooked.other hreplica) hfollows hfinal

/-- Whoever is told that it leads has written after its lookup. -/
theorem Course.led {q : Request}
    {next : Except Error (Cluster.effect.Reply q) → Cluster.Operation Bool}
    (h : fleet.Course i now turns (.ask q next))
    (hleads : next (fleet.server.handle q s).1 = .done (.ok true)) :
    fleet.Led now ⟨i, q, s, (fleet.server.handle q s).2⟩ turns := by
  cases h with
  | begun => exact absurd hleads (afterLookup_ne _ _ _ _)
  | writing hlooked hfollows hfinal =>
    obtain ⟨reply, hok⟩ := (hfinal _).2 hleads
    refine ⟨_, _, _, hlooked, hfollows, ?_⟩
    rintro ⟨⟨e, he⟩, -⟩
    cases hok.symm.trans he

/-! ### Compare-and-swap -/

/-- The time of a lease is past: it was renewed longer ago than it holds, or never. -/
def Lapsed (lease : Lease) (now : Time) : Prop :=
  ∀ spec renewed, lease.spec = some spec → spec.renewTime = some renewed →
    (renewed.addSeconds (spec.durationSeconds.getD Lease.defaultSeconds)).nanos < now.nanos

theorem lapsed_of_isExpired {lease : Lease} (h : lease.isExpired now = true) : Lapsed lease now := by
  intro spec renewed hspec hrenewed
  simpa [Lease.isExpired, hspec, hrenewed] using h

/-- What a replica is told that it leads for, after a turn that follows its lookup and the turns of
others between the two. -/
inductive Grounds (fleet : Fleet ι σ) (now : Time) (look : Turn ι σ) (between : List (Turn ι σ))
    (t : Turn ι σ) : Prop where
  /-- It has read that it holds the lease. -/
  | renewal {lease : Lease} : fleet.reply look = .ok lease →
    lease.holder = some (fleet.identity t.replica) →
    t.request = .patchLease fleet.namespace (.renew now) → Grounds fleet now look between t
  /-- There was no lease, and it has created one. -/
  | creation : fleet.server.manifest t.before = none →
    t.request = .createLease fleet.namespace (fleet.identity t.replica) now →
    fleet.Holds t.replica t.after → Grounds fleet now look between t
  /-- The lease was what it has read, and nobody had written in between. -/
  | takeover {lease : Lease} {version : String} : fleet.reply look = .ok lease →
    lease.holder ≠ some (fleet.identity t.replica) → Lapsed lease now →
    lease.resourceVersion = some version →
    t.request = .patchLease fleet.namespace
      (.takeOver (some version) (fleet.identity t.replica) now) →
    fleet.server.lease t.before = some lease →
    (∀ u ∈ between, fleet.server.manifest u.after = fleet.server.manifest u.before) →
    fleet.Holds t.replica t.after → Grounds fleet now look between t

/-- What a replica has read was true at its lookup; the version that it has written against carries
this over to its write.  As the server has accepted that version, nobody had written in between. -/
theorem Led.grounds (hserver : fleet.server.Lawful text fleet.namespace)
    (hversions : fleet.server.Versioned issued fleet.namespace)
    (ha : fleet.server.Numbered issued a) (hpath : fleet.Path a (t :: turns) b)
    (h : fleet.Led now t turns) : ∃ between look rest,
      fleet.Looked t.replica turns between look rest ∧ fleet.Grounds now look between t := by
  obtain ⟨between, look, rest, hlooked, hfollows, hdone⟩ := h
  refine ⟨between, look, rest, hlooked, ?_⟩
  obtain ⟨i, q, before, after⟩ := t
  cases hpath with
  | cons hearlier hrequest hafter =>
    simp only at hfollows hdone hafter hearlier
    rw [hlooked.split] at hearlier
    obtain ⟨hbefore, -, hlook, hbetween⟩ := hearlier.split
    generalize hreply : fleet.reply look = reply at hfollows
    cases hfollows with
    | renewal hholder => exact .renewal hreply hholder rfl
    | creation =>
      obtain ⟨hnone, -⟩ := (hserver.created before _ now).resolve_left hdone
      refine .creation hnone rfl ?_
      rw [hafter]
      exact (hserver.holder_created _ now before).resolve_left hdone
    | @takeover lease hholder hexpired =>
      -- The version that was read stands for the lease until the takeover.
      have hread : fleet.server.lease look.before = some lease := hserver.found hreply
      obtain ⟨version, hissued, hversion⟩ :=
        hbefore.numbered hserver hversions ha lease hread
      rw [hlooked.request] at hlook
      have hseen : fleet.server.manifest look.after = fleet.server.manifest look.before := by
        rw [hlook, hserver.looked]
      have hknown : version ∈ issued look.after := by
        rw [hlook]
        exact hversions.kept _ _ hissued
      rw [hversion] at hdone hafter
      have hnumbered := hearlier.numbered hserver hversions ha
      have hcurrent := (hversions.retired_of_takeover hserver hnumbered hdone).1
      obtain ⟨-, hsame, hunwritten⟩ :=
        (hbetween.unwritten_or_retired hserver hversions hknown).resolve_right fun hretired =>
          hretired.2 hcurrent
      refine .takeover hreply hholder (lapsed_of_isExpired hexpired) hversion (by rw [hversion]) ?_
        hunwritten ?_
      · rw [← hread, LeaseServer.lease, hsame, hseen, LeaseServer.lease]
      · rw [hafter]
        exact (hserver.holder_takenOver _ _ now before).resolve_left hdone

/-! ### Clocks -/

/-- A state with the clock that the latest attempt of each replica goes by. -/
structure Timed (ι σ : Type) where
  state : State ι σ
  clock : ι → Time

variable [DecidableEq ι]

variable (fleet)

/-- An attempt goes by the clock at its beginning. -/
def timedStep (x : Timed ι σ) (move : Move ι) : Timed ι σ where
  state := fleet.step x.state move
  clock :=
    match move with
    | .attempt i now =>
      match x.state.attempts i with
      | .done _ => Function.update x.clock i now
      | .ask _ _ => x.clock
    | .turn _ => x.clock

def timedRun (s : σ) (moves : List (Move ι)) : Timed ι σ :=
  moves.foldl fleet.timedStep ⟨⟨s, fun _ => .done (.ok false), []⟩, fun _ => ⟨0⟩⟩

/-- The clock that the latest attempt of a replica goes by. -/
def clock (s : σ) (moves : List (Move ι)) (i : ι) : Time := (fleet.timedRun s moves).clock i

variable {fleet}

/-- The clocks stand beside a run and do not interfere. -/
theorem state_timedRun (s : σ) (moves : List (Move ι)) :
    (fleet.timedRun s moves).state = fleet.run s moves :=
  (List.foldl_hom Timed.state fun _ _ => rfl).symm

/-! ### Runs -/

/-- What holds in every state: the turns lead to it, each attempt has taken its course, and whoever
is told that it leads has written after its lookup. -/
structure Guided (fleet : Fleet ι σ) (start : σ) (x : Timed ι σ) : Prop where
  path : fleet.Path start x.state.turns x.state.cluster
  courses (i : ι) : fleet.Course i (x.clock i) x.state.turns (x.state.attempts i)
  led {t : Turn ι σ} {earlier : List (Turn ι σ)} : x.state.turns = t :: earlier →
    x.state.leads t.replica = true → fleet.Led (x.clock t.replica) t earlier

/-- Beginning an attempt. -/
theorem Guided.attempt {x : Timed ι σ} (hx : fleet.Guided a x) (i : ι) (now : Time) :
    fleet.Guided a ⟨{ x.state with
      attempts := Function.update x.state.attempts i
        (acquire fleet.namespace (fleet.identity i) now) }, Function.update x.clock i now⟩ := by
  refine ⟨hx.path, fun k => ?_, fun hturns hleads => ?_⟩
  · by_cases hk : k = i
    · subst hk
      simp only [Function.update_self, acquire_eq]
      exact .begun
    · simp only [Function.update_of_ne hk]
      exact hx.courses k
  · obtain ⟨hother, hleads⟩ := leads_of_attempt hleads
    simp only [Function.update_of_ne hother]
    exact hx.led hturns hleads

/-- Carrying out a request. -/
theorem Guided.answer {x : Timed ι σ} (hx : fleet.Guided a x) {q : Request}
    {next : Except Error (Cluster.effect.Reply q) → Cluster.Operation Bool}
    (hi : x.state.attempts i = .ask q next) :
    fleet.Guided a ⟨fleet.answer x.state i q next, x.clock⟩ := by
  have hcourse := hi ▸ hx.courses i
  refine ⟨.cons hx.path hcourse.leaseRequest rfl, fun k => ?_, fun {t earlier} hturns hleads => ?_⟩
  · by_cases hk : k = i
    · subst hk
      simp only [Fleet.answer, Function.update_self]
      exact hcourse.next
    · simp only [Fleet.answer, Function.update_of_ne hk]
      exact (hx.courses k).other (Ne.symm hk)
  · obtain ⟨rfl, rfl⟩ := List.cons.inj hturns
    have hattempt := State.attempts_of_leads hleads
    simp only [Fleet.answer, Function.update_self] at hattempt
    exact hcourse.led hattempt

/-- Neither a new attempt nor a turn leads away from the course. -/
theorem Guided.step {x : Timed ι σ} (hx : fleet.Guided a x) (move : Move ι) :
    fleet.Guided a (fleet.timedStep x move) := by
  cases move with
  | attempt i now =>
    rw [timedStep, Fleet.step]
    cases hattempt : x.state.attempts i with
    | done outcome => exact hx.attempt i now
    | ask q next => exact hx
  | turn i =>
    rw [timedStep, Fleet.step]
    cases hattempt : x.state.attempts i with
    | done outcome => exact hx
    | ask q next => exact hx.answer hattempt

/-- In whatever order the replicas begin their attempts and the cluster carries out their
requests. -/
theorem guided_run (s : σ) (moves : List (Move ι)) : fleet.Guided s (fleet.timedRun s moves) := by
  have hstart : fleet.Guided s ⟨⟨s, fun _ => .done (.ok false), []⟩, fun _ => ⟨0⟩⟩ :=
    ⟨.nil, fun _ => .ended _, nofun⟩
  exact List.foldlRecOn moves fleet.timedStep hstart fun x hx move _ => hx.step move

/-- Whoever is told that it leads has read that it holds the lease, or has created it where there
was none, or has taken over exactly what it had read, which was past its time.  And no version of
the lease is taken over twice. -/
theorem takeover_of_leads (hserver : fleet.server.Lawful text fleet.namespace)
    (hversions : fleet.server.Versioned issued fleet.namespace)
    (hs : fleet.server.Numbered issued s) (moves : List (Move ι)) :
    (∀ t turns, (fleet.run s moves).turns = t :: turns →
      (fleet.run s moves).leads t.replica = true →
      ∃ between look rest, fleet.Looked t.replica turns between look rest ∧
        fleet.Grounds (fleet.clock s moves t.replica) look between t) ∧
    (fleet.run s moves).turns.Pairwise fun later sooner =>
      ∀ version, fleet.TakesOver version sooner → ¬ fleet.TakesOver version later := by
  have hguided : fleet.Guided s (fleet.timedRun s moves) := guided_run s moves
  obtain ⟨hpath, -, hled⟩ := hguided
  rw [state_timedRun] at hpath hled
  refine ⟨fun t turns hturns hleads => ?_, hpath.pairwise hserver hversions hs⟩
  have hgrounds := hled hturns hleads
  rw [hturns] at hpath
  exact hgrounds.grounds hserver hversions hs hpath

end

namespace Sample

/-- A lease whose holder is gone. -/
def abandoned : Stored :=
  ⟨some (Cluster.stamp "1" (Cluster.newLease written "kube-system" "former" (seconds 0))), 1⟩

theorem numbered_abandoned : fleet.server.Numbered Stored.issued abandoned := by
  rintro _ ⟨⟩
  exact ⟨"1", ⟨1, Nat.le_refl 1, rfl⟩, Cluster.resourceVersion_stamp "1" _⟩

end Sample

/-- The holder of a lease is gone.  Both replicas read it, and the first one to write takes it
over. -/
theorem takeover_of_leads_sample :
    Sample.fleet.server.Lawful Sample.written Sample.fleet.namespace ∧
    Sample.fleet.server.Versioned Stored.issued Sample.fleet.namespace ∧
    Sample.fleet.server.Numbered Stored.issued Sample.abandoned ∧
    ∃ t turns, (Sample.fleet.run Sample.abandoned Sample.rush).turns = t :: turns ∧
      (Sample.fleet.run Sample.abandoned Sample.rush).leads t.replica = true ∧
      ∃ between look rest, Sample.fleet.Looked t.replica turns between look rest ∧
        Sample.fleet.Grounds (Sample.seconds 20) look between t := by
  have hserver : Sample.fleet.server.Lawful Sample.written Sample.fleet.namespace :=
    Cluster.lawful_stored _ _
  have hversions : Sample.fleet.server.Versioned Stored.issued Sample.fleet.namespace :=
    Cluster.versioned_stored _ _
  have hleads : (Sample.fleet.run Sample.abandoned Sample.rush).leads 0 = true := by
    decide +kernel
  have hreplica : (Sample.fleet.run Sample.abandoned Sample.rush).turns.head?.map (·.replica) =
      some 0 := by decide +kernel
  have hclock : Sample.fleet.clock Sample.abandoned Sample.rush 0 = Sample.seconds 20 := by
    decide +kernel
  obtain ⟨hgrounds, -⟩ :=
    takeover_of_leads hserver hversions Sample.numbered_abandoned Sample.rush
  cases hturns : (Sample.fleet.run Sample.abandoned Sample.rush).turns with
  | nil =>
    rw [hturns] at hreplica
    cases hreplica
  | cons t turns =>
    rw [hturns] at hreplica
    have ht : t.replica = 0 := Option.some.inj hreplica
    have hleads : (Sample.fleet.run Sample.abandoned Sample.rush).leads t.replica = true := by
      rw [ht, hleads]
    have hgrounds := hgrounds t turns hturns hleads
    rw [ht, hclock] at hgrounds
    exact ⟨hserver, hversions, Sample.numbered_abandoned, t, turns, rfl, hleads,
      by rw [ht]; exact hgrounds⟩

/-- The second replica comes too late. -/
example : (Sample.fleet.run Sample.abandoned (Sample.rush ++ [.turn 1])).leads 1 = false := by
  decide +kernel

end Fleet

end BalancerSync.Control
