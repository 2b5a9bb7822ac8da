import BalancerSync.Proofs.Cloud.Preservation
import BalancerSync.Proofs.Engine.Steps

/-!
# What the steps ask for

A pass is made for one load balancer, and every change it asks for names that one.  Which changes
these are is said once, in `StepCall`, with what is known about their arguments; what a pass leaves
alone follows by going through its constructors.  Looking for the load balancer and reading the
wishes change nothing.

All steps but one are patient: they wait for each change before they ask for the next.  The one that
attaches a network is looked at on its own, for it may ask twice.

## Main Definitions

* `Wanted` — wishes for a listen port that reading can lead to
* `StepCall`, `PassCall` — the calls of a pass
* `Revised` — what they can make of a load balancer
* `Patient` — an operation that waits for each change

## Main Results

* `asks_find` — a search changes nothing
* `patient_of_mem_earlySteps`, `patient_of_mem_lateSteps` — the steps are patient, but for one
* `asks_passCalls` — a pass makes no other calls than these
* `asks_converge` — a pass changes no load balancer but its own
* `asks_ensure`, `asks_update`, `asks_ensureDeleted`, `asks_status` — what whole operations ask for
-/

namespace BalancerSync.Engine

open Cloud (Call LoadBalancer BackendService Inventory)
open Cloud.World (Names)
open Cluster (Service ServicePort Node)
open Desired (Balancer PortOptions PortReader)
open Program (Asks)

variable {engine : Engine} {lb own : LoadBalancer} {service : Service} {wishes : Balancer}
  {nodes : List Node} {id : Int} {o : Option Int} {c : Call} {cs : List Call}
  {P : Call → Prop}

/-! ### Single calls -/

/-- A request whose call, if it makes one, has a property. -/
def Calls (P : Call → Prop) (q : Cloud.effect.Request) : Prop := ∀ c, q.call? = some c → P c

theorem asks_call (h : P c) : (Cloud.call c).Asks (Calls P) := by
  refine Asks.request fun d hd => ?_
  obtain rfl := Option.some.inj hd
  exact h

/-- Waiting for an action makes no call: polling it is a request of its own kind, so it meets every
condition on calls. -/
theorem asks_awaitAction (a : Cloud.Action) : (Cloud.awaitAction a).Asks (Calls P) :=
  Asks.request fun d hd => by cases hd

theorem asks_pause (d : Duration) : (Cloud.pause d).Asks (Calls P) :=
  Asks.request fun d hd => by cases hd

/-- A change with the wait that follows it makes one call only.  Whether the reply has an action to
wait for does not matter. -/
theorem asks_callAndAwait (h : P c) : (Cloud.callAndAwait c).Asks (Calls P) := by
  refine (asks_call h).bind fun reply => ?_
  rw [Cloud.awaitReply]
  split
  · exact asks_awaitAction _
  · exact Asks.done _

/-! ### Searches -/

/-- A search looks for a label and for a name. -/
theorem asks_find_of {name : String} (service : Service) (hlabel : ∀ label, P (.listByLabel label))
    (hname : P (.getByName name)) : (find service name).Asks (Calls P) := by
  have huid : (byUid service).Asks (Calls P) :=
    Asks.within ((Asks.ofExcept _).bind fun _ => (asks_call (hlabel _)).bind fun _ =>
      Asks.ofExcept _) _
  refine huid.ifFound.bind fun found => ?_
  cases found with
  | some lb => exact Asks.done _
  | none => exact Asks.within ((asks_call hname).bind fun _ => Asks.ofExcept _) _

/-- A search changes nothing. -/
theorem asks_find (service : Service) (name : String) :
    (find service name).Asks (Calls fun c => c.isMutation = false) :=
  asks_find_of service (fun _ => rfl) rfl

/-- A lookup is about no load balancer in particular, also one that fetches by an identifier: only
changes have a subject. -/
theorem subject?_of_lookup (h : c.isMutation = false) : c.subject? = none := by
  cases c with
  | getById | getByName | listByLabel | getCertificate | getNetworkById | getNetworkByName
  | getAction => rfl
  | _ => cases h

/-- A lookup makes nothing of any load balancer. -/
theorem revise?_of_lookup (h : c.isMutation = false) : c.revise? lb = none := by
  simp [Call.revise?, subject?_of_lookup h]

/-- A search names no load balancer. -/
theorem names_find (service : Service) (name : String) :
    (find service name).ifFound.Asks (Names none) :=
  (asks_find service name).ifFound.mono fun _ hq c hc => .inl (subject?_of_lookup (hq c hc))

/-! ### The calls of a pass -/

/-- The port that a listen port stands for: of several with its number only the first counts. -/
def firstPort? (service : Service) (n : Nat) : Option ServicePort :=
  service.ports.find? fun port => port.port == n

/-- Wishes for a listen port that reading its port can lead to. -/
def Wanted (service : Service) (n : Nat) (options : PortOptions) : Prop :=
  ∃ port, firstPort? service n = some port ∧ (PortOptions.extract service port n).Yields options

/-- The calls that the steps for a load balancer make for a Service with these wishes, except to
attach a network. -/
inductive StepCall (service : Service) (wishes : Balancer) (lb : LoadBalancer) : Call → Prop where
  | identity {id : String} {name : Option String} : uid service = .ok id →
    Setting.name.text service = .ok name →
    StepCall service wishes lb (.update lb.id (infoChange lb id name))
  | algorithm {a : Cloud.Algorithm} : wishes.algorithm = some a →
    StepCall service wishes lb (.changeAlgorithm lb.id a)
  | type {t : String} : wishes.type = some t → StepCall service wishes lb (.changeType lb.id t)
  | detachment (network : Int) : StepCall service wishes lb (.detachFromNetwork lb.id network)
  | publicInterface {on : Bool} : wishes.publicInterface = some on →
    StepCall service wishes lb (switchPublicInterface lb.id on)
  | removal (server : Int) : StepCall service wishes lb (.removeTarget lb.id server)
  | addition (server : Int) (usePrivateIp : Bool) :
    StepCall service wishes lb (.addTarget lb.id server usePrivateIp)
  | certificate (name : String) : StepCall service wishes lb (.getCertificate name)
  | newService {n : Nat} {options : PortOptions} : lb.service? n = none →
    Wanted service n options → StepCall service wishes lb (.addService lb.id (options.newService n))
  | serviceChange {n : Nat} {options : PortOptions} : Wanted service n options →
    StepCall service wishes lb (.updateService lb.id n options.change)
  | deletion (n : Nat) : StepCall service wishes lb (.deleteService lb.id n)
  | reload : StepCall service wishes lb (.getById lb.id)

/-- The calls that a pass over a load balancer can make for a Service with these wishes. -/
inductive PassCall (service : Service) (wishes : Balancer) (lb : LoadBalancer) : Call → Prop where
  | step {c : Call} : StepCall service wishes lb c → PassCall service wishes lb c
  | attachment (network : Int) (ip : Option Net.IPv4) :
    PassCall service wishes lb (.attachToNetwork lb.id network ip)

/-- A pass names no load balancer but its own. -/
theorem PassCall.subject?_eq (h : PassCall service wishes lb c) :
    c.subject? = none ∨ c.subject? = some lb.id := by
  cases h with
  | attachment => exact .inr rfl
  | step h =>
    cases h with
    | @publicInterface on => cases on <;> exact .inr rfl
    | certificate | reload => exact .inl rfl
    | _ => exact .inr rfl

/-! ### What a call of a pass can do -/

/-- Where the backend services come from that a call of a pass leaves on a load balancer: they were
there, or were added on a port that nothing was on when the pass began, or were given the wishes for
their port. -/
def Maintains (service : Service) (own mid : LoadBalancer) (services : List BackendService) :
    Prop :=
  ∀ t ∈ services, t ∈ mid.services ∨
    (∃ n options, own.service? n = none ∧ Wanted service n options ∧
      t = (options.newService n).create) ∨
    ∃ s ∈ mid.services, ∃ options, Wanted service s.listenPort options ∧ t = options.change.apply s

/-- What a call of a pass can make of a load balancer that was `own` when the pass began and is
`mid` by now. -/
inductive Revised (service : Service) (wishes : Balancer) (own mid : LoadBalancer) :
    LoadBalancer → Prop where
  | identity {id : String} {name : Option String} : uid service = .ok id →
    Setting.name.text service = .ok name →
    Revised service wishes own mid (Inventory.withChange (infoChange own id name) mid)
  | algorithm {a : Cloud.Algorithm} : wishes.algorithm = some a →
    Revised service wishes own mid { mid with algorithm := a }
  | type {t : String} : wishes.type = some t → Revised service wishes own mid { mid with type := t }
  | attachments (attachments : List Cloud.Attachment) :
    Revised service wishes own mid { mid with attachments := attachments }
  | publicInterface {on : Bool} : wishes.publicInterface = some on →
    Revised service wishes own mid (Inventory.withPublicInterface on mid)
  | targets (targets : List Cloud.Target) :
    Revised service wishes own mid { mid with targets := targets }
  | services {services : List BackendService} : Maintains service own mid services →
    Revised service wishes own mid { mid with services := services }

/-- A call of a pass can make nothing else of it. -/
theorem PassCall.revised {mid new : LoadBalancer} (hc : PassCall service wishes own c)
    (h : c.revise? mid = some new) : Revised service wishes own mid new := by
  have h := Cloud.alter?_of_revise? h
  cases hc with
  | attachment network ip =>
    obtain rfl := Option.some.inj h
    exact .attachments _
  | step hc =>
    cases hc with
    | identity hid hname =>
      obtain rfl := Option.some.inj h
      exact .identity hid hname
    | algorithm ha =>
      obtain rfl := Option.some.inj h
      exact .algorithm ha
    | type ht =>
      obtain rfl := Option.some.inj h
      exact .type ht
    | detachment network =>
      obtain rfl := Option.some.inj h
      exact .attachments _
    | @publicInterface on hon =>
      cases on with
      | true | false =>
        obtain rfl := Option.some.inj h
        exact .publicInterface hon
    | removal server =>
      obtain rfl := Option.some.inj h
      exact .targets _
    | addition server usePrivateIp =>
      obtain ⟨-, rfl⟩ := Cloud.withTarget_eq_ok.1 (Cloud.toOption_eq_some.1 h)
      exact .targets _
    | certificate | reload => cases h
    | newService hfree hwanted =>
      obtain ⟨-, rfl⟩ := Cloud.withService_eq_ok.1 (Cloud.toOption_eq_some.1 h)
      refine .services fun t ht => ?_
      rcases List.mem_append.1 ht with ht | ht
      · exact .inl ht
      · exact .inr (.inl ⟨_, _, hfree, hwanted, List.mem_singleton.1 ht⟩)
    | serviceChange hwanted =>
      obtain ⟨-, rfl⟩ := Cloud.withServiceChange_eq_ok.1 (Cloud.toOption_eq_some.1 h)
      refine .services fun t ht => ?_
      rcases Cloud.mem_changeFirst ht with ht | ⟨s, hs, rfl, rfl⟩
      · exact .inl ht
      · exact .inr (.inr ⟨s, hs, _, hwanted, rfl⟩)
    | deletion n =>
      obtain rfl := Option.some.inj h
      exact .services fun t ht => .inl (List.mem_filter.1 ht).1

/-- Name and label are brought up to date by a single call, if by any. -/
theorem eq_of_mem_infoCalls {uid : String} {name : Option String}
    (h : c ∈ infoCalls lb uid name) : c = .update lb.id (infoChange lb uid name) := by
  rw [infoCalls] at h
  split at h
  · cases h
  · exact List.mem_singleton.1 h

/-- What was not wished for is not asked for: a call stands for a wish, with the value wished
for. -/
theorem exists_of_mem_wishCalls {β : Type} [DecidableEq β] {wish : Option β} {current : β}
    {call : β → Call} (h : c ∈ wishCalls wish current call) : ∃ b, wish = some b ∧ c = call b := by
  cases wish with
  | none => cases h
  | some b =>
    simp only [wishCalls] at h
    split at h
    · cases h
    · exact ⟨b, rfl, List.mem_singleton.1 h⟩

/-- Targets are only removed and added.  Those that are added all use the private address, or all do
not, as the wishes say. -/
theorem eq_of_mem_targetCalls {desired : List Int} {usePrivateIp : Bool}
    (h : c ∈ targetCalls lb desired usePrivateIp) :
    (∃ server, c = .removeTarget lb.id server) ∨
      ∃ server, c = .addTarget lb.id server usePrivateIp := by
  rcases List.mem_append.1 h with h | h
  · obtain ⟨t, -, rfl⟩ := List.mem_map.1 h
    exact .inl ⟨t.serverId, rfl⟩
  · obtain ⟨server, -, rfl⟩ := List.mem_map.1 h
    exact .inr ⟨server, rfl⟩

/-- A port whose listen port is stored leads to an update, another one to an addition.  So a service
is never added where there is one. -/
theorem eq_of_mem_portChanges {n : Nat} {options : PortOptions}
    (h : c ∈ portChanges lb n options) :
    c = .updateService lb.id n options.change ∨
      lb.service? n = none ∧ c = .addService lb.id (options.newService n) := by
  rw [portChanges] at h
  split at h
  · split at h
    · exact .inl (List.mem_singleton.1 h)
    · cases h
  · rename_i hfree
    exact .inr ⟨hfree, List.mem_singleton.1 h⟩

/-! ### Patience -/

/-- An operation that waits for each of its changes, and whose calls have a property. -/
inductive Patient (P : Call → Prop) : {α : Type} → Cloud.Operation α → Prop where
  | ofExcept {α : Type} (outcome : Except Error α) : Patient P (Program.ofExcept outcome)
  | callAndAwait {c : Call} : P c → Patient P (Cloud.callAndAwait c)
  | certificate {reference : String} : P (.getCertificate reference) →
    Patient P (Desired.resolveCertificate reference)
  | reload {id : Int} : P (.getById id) → Patient P (byId id)
  | within {α : Type} {p : Cloud.Operation α} (operation : String) : Patient P p →
    Patient P (p.within operation)
  | bind {α β : Type} {p : Cloud.Operation α} {f : α → Cloud.Operation β} : Patient P p →
    (∀ a, p.Yields a → Patient P (f a)) → Patient P (p.bind f)

/-- A patient operation makes no other calls than those it is patient about.  What reading a
certificate or reloading asks for is part of the condition on the constructors. -/
theorem Patient.asks {α : Type} {p : Cloud.Operation α} (h : Patient P p) : p.Asks (Calls P) := by
  induction h with
  | ofExcept outcome => exact Asks.ofExcept outcome
  | callAndAwait hc => exact asks_callAndAwait hc
  | certificate hc => exact Desired.asks_resolveCertificate hc
  | reload hc => exact Asks.within ((asks_call hc).bind fun _ => Asks.ofExcept _) _
  | within operation _ ih => exact ih.within operation
  | bind _ _ ihp ihf => exact ihp.bind_of_yields ihf

namespace Patient

variable {α β : Type} {p : Cloud.Operation α} {f : α → Cloud.Operation β}

/-- The case of `bind` in which the rest is patient whatever the result of the first part is.  Most
parts have results that say nothing about the calls to come. -/
theorem next (hp : Patient P p) (hf : ∀ a, Patient P (f a)) : Patient P (p.bind f) :=
  hp.bind fun a _ => hf a

theorem result (a : α) : Patient P (.done (.ok a) : Cloud.Operation α) := .ofExcept (.ok a)

/-- Calls one after the other. -/
theorem carryOut (h : ∀ c ∈ cs, P c) : Patient P (Engine.carryOut cs) := by
  induction cs with
  | nil => exact result false
  | cons c cs ih =>
    obtain ⟨hc, hcs⟩ := List.forall_mem_cons.1 h
    exact (callAndAwait hc).next fun _ => (ih hcs).next fun _ => result true

end Patient

section

variable (hcertificate : ∀ name, P (.getCertificate name))
include hcertificate

/-- References are resolved one after the other, with one lookup for each. -/
theorem patient_resolveCertificates (references : List String) :
    Patient P (Desired.resolveCertificates references) := by
  induction references with
  | nil => exact .result []
  | cons r rs ih =>
    exact (Patient.certificate (hcertificate r)).next fun _ => ih.next fun _ => .result _

/-- The lookups of the certificates are the only calls that reading them makes: an annotation that
is not there leads to none. -/
theorem patient_readCertificates (service : Service) :
    Patient P (Desired.readCertificates service) := by
  refine (Patient.ofExcept _).next fun references? => ?_
  cases references? with
  | none => exact .result none
  | some references =>
    exact ((patient_resolveCertificates hcertificate references).within _).next fun _ => .result _

/-- Reading the options of a port is patient about certificates alone, for its other parts read the
Service and ask for nothing. -/
theorem patient_extract (service : Service) (port : ServicePort) (listenPort : Nat) :
    Patient P (PortOptions.extract service port listenPort) :=
  (Patient.ofExcept _).next fun _ => (Patient.ofExcept _).next fun _ =>
    (Patient.ofExcept _).next fun _ => (Patient.ofExcept _).next fun _ =>
    (Patient.ofExcept _).next fun _ => (patient_readCertificates hcertificate service).next fun _ =>
    (Patient.ofExcept _).next fun _ => (Patient.ofExcept _).next fun _ =>
    (Patient.ofExcept _).next fun _ => .result _

end

/-- No call is made for a port whose number was met before, so the port that a call is made for is
the first one with its number. -/
theorem patient_reconcilePorts (lb : LoadBalancer) {passed ports : List ServicePort}
    {met : List Nat} (hports : service.ports = passed ++ ports)
    (hmet : ∀ port ∈ passed, ∀ n, Desired.validPort port.port "port" = .ok n → n ∈ met) :
    Patient (StepCall service wishes lb) (reconcilePorts lb service met ports) := by
  induction ports generalizing passed met with
  | nil => exact .result (false, met)
  | cons port ports ih =>
    have hsplit : service.ports = (passed ++ [port]) ++ ports := by simp [hports]
    simp only [reconcilePorts, PortReader.ofPort, Program.bind_eq]
    cases hn : Desired.validPort port.port "port" with
    | error e => exact .ofExcept (.error e)
    | ok n =>
      have hpassed : ∀ later, n ∈ later → met ⊆ later → ∀ p ∈ passed ++ [port], ∀ m,
          Desired.validPort p.port "port" = .ok m → m ∈ later := by
        intro later hlater hsub p hp m hm
        rcases List.mem_append.1 hp with hp | hp
        · exact hsub (hmet p hp m hm)
        · rw [List.mem_singleton.1 hp] at hm
          rwa [Except.ok.inj (hm.symm.trans hn)]
      change Patient _ (if met.contains n then _ else _)
      by_cases hfree : met.contains n
      · rw [if_pos hfree]
        exact ih hsplit (hpassed met (by simpa using hfree) (List.Subset.refl met))
      · rw [if_neg hfree, portCalls_pending, Program.bind_assoc]
        have hfirst : firstPort? service n = some port := by
          rw [firstPort?, hports, List.find?_append, List.find?_eq_none.2, Option.none_or]
          · exact List.find?_cons_of_pos (by simp [Desired.validPort_eq_ok hn])
          · intro p hp heq
            have hsame : p.port = port.port := by
              rw [Desired.validPort_eq_ok hn]
              exact eq_of_beq heq
            exact hfree (by simpa using hmet p hp n (by rw [hsame, hn]))
        -- The calls for a port are known once its wishes are read.
        refine (patient_extract StepCall.certificate service port n).bind fun options hoptions => ?_
        have hrest := ih hsplit (hpassed (met ++ [n]) (by simp) (List.subset_append_left met [n]))
        refine (Patient.carryOut fun c hc => ?_).next fun _ => hrest.next fun _ => .result _
        have hwanted : Wanted service n options := ⟨port, hfirst, hoptions⟩
        rcases eq_of_mem_portChanges hc with rfl | ⟨hfree, rfl⟩
        · exact .serviceChange hwanted
        · exact .newService hfree hwanted

/-- The services are patient as a whole: the ports in their order, and then the deletions of what no
port stands for. -/
theorem patient_reconcileServices (lb : LoadBalancer) (service : Service) :
    Patient (StepCall service wishes lb) (reconcileServices lb service) := by
  have hports : Patient (StepCall service wishes lb) (reconcilePorts lb service [] service.ports) :=
    patient_reconcilePorts lb (List.nil_append _).symm (by simp)
  refine .within _ (hports.next fun r => ?_)
  refine (Patient.carryOut fun c hc => ?_).next fun _ => .result _
  obtain ⟨s, -, rfl⟩ := List.mem_map.1 hc
  exact .deletion s.listenPort

/-! ### Steps -/

/-- The steps before the one that attaches a network. -/
def earlySteps (engine : Engine) (lb : LoadBalancer) (service : Service) (wishes : Balancer) :
    List (Cloud.Operation Bool) :=
  [reconcileInfo lb service, reconcileAlgorithm lb wishes, reconcileType lb wishes,
    reconcileNetworkDetach engine lb]

/-- The steps after it. -/
def lateSteps (engine : Engine) (lb : LoadBalancer) (service : Service) (wishes : Balancer)
    (nodes : List Node) : List (Cloud.Operation Bool) :=
  [reconcilePublicInterface lb wishes, reconcileTargets engine lb wishes nodes,
    reconcileServices lb service]

/-- The step that attaches a network stands between four that come before it and three that come
after it. -/
theorem steps_eq : steps engine lb service wishes nodes =
    earlySteps engine lb service wishes ++
      reconcileNetworkAttach engine lb wishes :: lateSteps engine lb service wishes nodes := rfl

/-- Each of the first four steps carries out calls it has worked out beforehand, and all of these
are calls of a pass. -/
theorem patient_of_mem_earlySteps {step : Cloud.Operation Bool}
    (h : step ∈ earlySteps engine lb service wishes) :
    Patient (StepCall service wishes lb) step := by
  simp only [earlySteps, List.mem_cons, List.not_mem_nil, or_false] at h
  rcases h with rfl | rfl | rfl | rfl
  · refine .within _ ((Patient.ofExcept _).bind fun id hid =>
      (Patient.ofExcept _).bind fun name hname => Patient.carryOut fun c hc => ?_)
    rw [eq_of_mem_infoCalls hc]
    exact .identity (Program.yields_ofExcept.1 hid) (Program.yields_ofExcept.1 hname)
  · refine .within _ (Patient.carryOut fun c hc => ?_)
    rw [algorithmCalls_eq] at hc
    obtain ⟨a, ha, rfl⟩ := exists_of_mem_wishCalls hc
    exact .algorithm ha
  · refine .within _ (Patient.carryOut fun c hc => ?_)
    rw [typeCalls_eq] at hc
    obtain ⟨t, ht, rfl⟩ := exists_of_mem_wishCalls hc
    exact .type ht
  · refine .within _ (Patient.carryOut fun c hc => ?_)
    obtain ⟨a, -, rfl⟩ := List.mem_map.1 hc
    exact .detachment a.networkId

/-- The last three steps are patient too.  For the targets the selection may fail, but then nothing
is called at all. -/
theorem patient_of_mem_lateSteps {step : Cloud.Operation Bool}
    (h : step ∈ lateSteps engine lb service wishes nodes) :
    Patient (StepCall service wishes lb) step := by
  simp only [lateSteps, List.mem_cons, List.not_mem_nil, or_false] at h
  rcases h with rfl | rfl | rfl
  · refine .within _ (Patient.carryOut fun c hc => ?_)
    rw [publicInterfaceCalls_eq] at hc
    obtain ⟨on, hon, rfl⟩ := exists_of_mem_wishCalls hc
    exact .publicInterface hon
  · refine .within _ ((Patient.ofExcept _).next fun _ => Patient.carryOut fun c hc => ?_)
    rcases eq_of_mem_targetCalls hc with ⟨server, rfl⟩ | ⟨server, rfl⟩
    · exact .removal server
    · exact .addition server wishes.usePrivateIp
  · exact patient_reconcileServices lb service

/-- The step that attaches a network makes its one call at most twice; a pause stands between the
attempts. -/
theorem asks_reconcileNetworkAttach (engine : Engine) (lb : LoadBalancer) (wishes : Balancer) :
    (reconcileNetworkAttach engine lb wishes).Asks (Calls (PassCall service wishes lb)) := by
  refine Asks.within ?_ _
  cases missingNetwork engine lb with
  | none => exact Asks.done _
  | some network =>
    have hattach : (Cloud.call (.attachToNetwork lb.id network wishes.privateIpv4)).Asks
        (Calls (PassCall service wishes lb)) := asks_call (.attachment network wishes.privateIpv4)
    exact (hattach.retryOnce (asks_pause _)).bind fun a => (asks_awaitAction a).bind fun _ =>
      Asks.done _

theorem asks_of_stepCalls {α : Type} {p : Cloud.Operation α}
    (h : Patient (StepCall service wishes lb) p) :
    p.Asks (Calls (PassCall service wishes lb)) :=
  h.asks.mono fun _ hq c hc => .step (hq c hc)

/-- Steps in a row ask for what each of them asks for.  A step that is never reached, as an earlier
one failed, counts as well. -/
theorem asks_takeSteps {steps : List (Cloud.Operation Bool)}
    (h : ∀ step ∈ steps, step.Asks (Calls P)) : (takeSteps steps).Asks (Calls P) := by
  induction steps with
  | nil => exact Asks.done _
  | cons step rest ih =>
    obtain ⟨hstep, hrest⟩ := List.forall_mem_cons.1 h
    exact hstep.bind fun _ => (ih hrest).bind fun _ => Asks.done _

/-- A pass makes no other calls. -/
theorem asks_passCalls :
    (converge engine lb service wishes nodes).Asks (Calls (PassCall service wishes lb)) := by
  refine (asks_takeSteps fun step hstep => ?_).bind fun changed => ?_
  · rw [steps_eq, List.mem_append, List.mem_cons] at hstep
    rcases hstep with hearly | rfl | hlate
    · exact asks_of_stepCalls (patient_of_mem_earlySteps hearly)
    · exact asks_reconcileNetworkAttach engine lb wishes
    · exact asks_of_stepCalls (patient_of_mem_lateSteps hlate)
  · cases changed with
    | true => exact asks_of_stepCalls (.reload .reload)
    | false => exact Asks.done _

/-- A pass changes no load balancer but its own. -/
theorem asks_converge : (converge engine lb service wishes nodes).Asks (Names (some lb.id)) :=
  asks_passCalls.mono fun _ hq c hc => (hq c hc).subject?_eq

/-- Creating takes a single call. -/
theorem asks_create (h : ∀ options, P (.create options)) :
    (create engine service wishes).Asks (Calls P) :=
  Asks.within ((Asks.ofExcept _).bind fun _ => (Asks.ofExcept _).bind fun _ =>
    (asks_call (h _)).bind fun _ => (asks_awaitAction _).bind fun _ => Asks.done _) _

/-! ### Whole operations -/

section

variable (hlookup : ∀ {c : Call}, c.isMutation = false → P c)
include hlookup

theorem asks_search (service : Service) (name : String) :
    (find service name).ifFound.Asks (Calls P) :=
  (asks_find service name).ifFound.mono fun _ hq c hc => hlookup (hq c hc)

/-- Reading the status makes lookups only. -/
theorem asks_status (engine : Engine) (service : Service) :
    (status engine service).Asks (Calls P) := by
  refine Asks.within ((Asks.ofExcept _).bind fun wishes : Balancer => ?_) _
  refine (asks_search hlookup service wishes.name).bind fun found => ?_
  cases found <;> exact Asks.done _

/-- Deleting adds to the lookups no call but the deletion itself. -/
theorem asks_ensureDeleted (hdelete : ∀ id, P (.delete id)) (engine : Engine) (service : Service) :
    (ensureDeleted engine service).Asks (Calls P) := by
  refine Asks.within ((Asks.ofExcept _).bind fun name => ?_) _
  refine (asks_search hlookup service name).bind fun found => ?_
  cases found with
  | none => exact Asks.done _
  | some lb =>
    simp only
    split
    · exact Asks.done _
    · exact (asks_call (hdelete lb.id)).ifFound.bind fun _ => Asks.done _

variable (hpass : ∀ {wishes : Balancer} {lb : LoadBalancer} {c : Call},
  PassCall service wishes lb c → P c)
include hpass

/-- An update adds to its search the calls of a pass for what it finds.  It creates nothing. -/
theorem asks_update (engine : Engine) (nodes : List Node) :
    (update engine service nodes).Asks (Calls P) := by
  refine Asks.within ((Asks.ofExcept _).bind fun wishes : Balancer => ?_) _
  refine (asks_search hlookup service wishes.name).bind fun found => ?_
  cases found with
  | some lb => exact (asks_passCalls.mono fun _ hq c hc => hpass (hq c hc)).bind fun _ => Asks.done _
  | none => exact Asks.done _

/-- Ensuring a load balancer makes lookups, the calls of a pass, and at most the creation
besides. -/
theorem asks_ensure (hcreate : ∀ options, P (.create options)) (engine : Engine)
    (nodes : List Node) : (ensure engine service nodes).Asks (Calls P) := by
  refine Asks.within ((Asks.ofExcept _).bind fun wishes : Balancer => ?_) _
  have hrest : ∀ lb : LoadBalancer, ((converge engine lb service wishes nodes).bind fun lb =>
      Program.done (.ok (ingress lb wishes))).Asks (Calls P) := fun lb =>
    (asks_passCalls.mono fun _ hq c hc => hpass (hq c hc)).bind fun _ => Asks.done _
  refine (asks_search hlookup service wishes.name).bind fun found => ?_
  cases found with
  | some lb => exact hrest lb
  | none => exact (asks_create hcreate).bind hrest

end

end BalancerSync.Engine
