import BalancerSync.Engine.Operations
import BalancerSync.Proofs.Desired.Reading
import Mathlib.Data.List.Forall2

/-!
# The plan of a pass

Each step of a pass has a plan that depends on the load balancer as it is stored, and is put
together from the changes of that plan.  The pass has the plans of its steps in a row.  It therefore
never does anything but come some way with `passPlan`, whatever goes wrong on the way.

## Main Definitions

* `identityPlan`, …, `servicesPlan` — the plans of the steps
* `passPlan` — the plan of a pass

## Main Results

* `planned_reconcile` — a pass is put together from its plan
* `follows_reconcile` — a pass keeps to its plan
-/

namespace BalancerSync.Engine

open Cloud (Call LoadBalancer Operation Plan Certificate Planned)
open Cluster (Service ServicePort Node)
open Desired (Balancer PortOptions PortReader)

variable {certificates : List Certificate} {engine : Engine} {lb : LoadBalancer}
  {service : Service} {wishes : Balancer} {nodes : List Node}

/-! ### Plans -/

def identityPlan (lb : LoadBalancer) (service : Service) : Plan Unit :=
  Plan.within "lb_ops::reconcile_info" <|
    (Plan.ofExcept (uid service)).bind fun uid =>
      (Plan.ofExcept (Setting.name.text service)).bind fun name => .make (infoCalls lb uid name)

def algorithmPlan (lb : LoadBalancer) (wishes : Balancer) : Plan Unit :=
  Plan.within "lb_ops::reconcile_algorithm" (.make (algorithmCalls lb wishes))

def typePlan (lb : LoadBalancer) (wishes : Balancer) : Plan Unit :=
  Plan.within "lb_ops::reconcile_type" (.make (typeCalls lb wishes))

def detachPlan (engine : Engine) (lb : LoadBalancer) : Plan Unit :=
  Plan.within "lb_ops::reconcile_network_detach" (.make (detachCalls engine lb))

/-- The attachment to the configured network, if it is missing. -/
def attachCalls (engine : Engine) (lb : LoadBalancer) (wishes : Balancer) : List Call :=
  match missingNetwork engine lb with
  | none => []
  | some network => [.attachToNetwork lb.id network wishes.privateIpv4]

def attachPlan (engine : Engine) (lb : LoadBalancer) (wishes : Balancer) : Plan Unit :=
  Plan.within "lb_ops::reconcile_network_attach" (.make (attachCalls engine lb wishes))

def publicInterfacePlan (lb : LoadBalancer) (wishes : Balancer) : Plan Unit :=
  Plan.within "lb_ops::reconcile_public_interface" (.make (publicInterfaceCalls lb wishes))

def targetsPlan (engine : Engine) (lb : LoadBalancer) (wishes : Balancer) (nodes : List Node) :
    Plan Unit :=
  Plan.within "lb_ops::reconcile_targets" <|
    (Plan.ofExcept (desiredTargets engine wishes nodes)).bind fun desired =>
      .make (targetCalls lb desired wishes.usePrivateIp)

/-- The calls that give a listen port what these wishes say. -/
def portChanges (lb : LoadBalancer) (listenPort : Nat) (options : PortOptions) : List Call :=
  match lb.service? listenPort with
  | some current =>
    if options.change.differs current then [.updateService lb.id listenPort options.change] else []
  | none => [.addService lb.id (options.newService listenPort)]

/-- The plan for the listen ports in their order; its result are the port numbers met. -/
def portsPlan (certificates : List Certificate) (lb : LoadBalancer) (service : Service)
    (met : List Nat) : List ServicePort → Plan (List Nat)
  | [] => .ofExcept (.ok met)
  | port :: ports =>
    (Plan.ofExcept (Desired.validPort port.port "port")).bind fun n =>
      if met.contains n then portsPlan certificates lb service met ports
      else
        (Plan.ofExcept (PortOptions.readFrom certificates service port n)).bind fun options =>
          (Plan.make (portChanges lb n options)).bind fun _ =>
            portsPlan certificates lb service (met ++ [n]) ports

/-- The plan for the listen ports from some point on, and then for the surplus services. -/
def servicesFrom (certificates : List Certificate) (lb : LoadBalancer) (service : Service)
    (met : List Nat) (ports : List ServicePort) : Plan Unit :=
  (portsPlan certificates lb service met ports).bind fun wanted => .make (surplusCalls lb wanted)

def servicesPlan (certificates : List Certificate) (lb : LoadBalancer) (service : Service) :
    Plan Unit :=
  Plan.within "lb_ops::reconcile_services" (servicesFrom certificates lb service [] service.ports)

/-- The plan of a pass: the plans of its steps in a row. -/
def passPlan (certificates : List Certificate) (engine : Engine) (lb : LoadBalancer)
    (service : Service) (wishes : Balancer) (nodes : List Node) : Plan Unit :=
  .sequence
    [identityPlan lb service,
      algorithmPlan lb wishes,
      typePlan lb wishes,
      detachPlan engine lb,
      attachPlan engine lb wishes,
      publicInterfacePlan lb wishes,
      targetsPlan engine lb wishes nodes,
      servicesPlan certificates lb service]

/-! ### Keeping to them -/

theorem planned_carryOut (cs : List Call) :
    Planned certificates (carryOut cs) (Plan.make cs).telling := by
  induction cs with
  | nil => exact .ofExcept (.ok false)
  | cons c cs ih =>
    have hplan : (Plan.make (c :: cs)).telling =
        (Plan.make [c]).bind fun _ => (Plan.make cs).telling.bind fun _ => .ofExcept (.ok true) := by
      simp [Plan.make, Plan.telling, Plan.bind, Plan.ofExcept, Except.map]
    rw [hplan]
    exact (Planned.change c).bind fun _ => ih.bind fun _ => .ofExcept (.ok true)

theorem planned_reconcileInfo :
    Planned certificates (reconcileInfo lb service) (identityPlan lb service).telling := by
  rw [identityPlan, Plan.telling_within, Plan.telling_bind_ofExcept]
  refine .within _ ((Planned.ofExcept _).bind fun uid => ?_)
  rw [Plan.telling_bind_ofExcept]
  exact (Planned.ofExcept _).bind fun name => planned_carryOut _

/-- The steps that consist of calls known in advance. -/
theorem planned_within_carryOut (operation : String) (cs : List Call) :
    Planned certificates ((carryOut cs).within operation)
      (Plan.within operation (.make cs)).telling := by
  rw [Plan.telling_within]
  exact (planned_carryOut cs).within operation

theorem planned_reconcileNetworkAttach :
    Planned certificates (reconcileNetworkAttach engine lb wishes)
      (attachPlan engine lb wishes).telling := by
  rw [attachPlan, Plan.telling_within]
  refine .within _ ?_
  rw [attachCalls]
  cases missingNetwork engine lb with
  | none => exact .ofExcept (.ok false)
  | some network =>
    have hattach : Planned certificates _ _ := .insisted
      (.attachToNetwork lb.id network wishes.privateIpv4) engine.retryDelay
    have h := hattach.bind fun _ => .ofExcept (.ok true)
    rwa [Program.bind_assoc] at h

theorem planned_reconcileTargets :
    Planned certificates (reconcileTargets engine lb wishes nodes)
      (targetsPlan engine lb wishes nodes).telling := by
  rw [targetsPlan, Plan.telling_within, Plan.telling_bind_ofExcept]
  exact .within _ ((Planned.ofExcept _).bind fun desired => planned_carryOut _)

/-- For a fresh reader the calls for a port take reading its wishes and nothing else. -/
theorem portCalls_pending (lb : LoadBalancer) (service : Service) (port : ServicePort) (n : Nat) :
    portCalls lb ⟨service, port, n, .pending⟩ =
      (PortOptions.extract service port n).bind fun options =>
        Program.ofExcept (.ok (portChanges lb n options)) := by
  simp only [portCalls, portChanges]
  cases lb.service? n with
  | some current =>
    simp only [PortReader.change, PortReader.extract, Program.bind_eq, Program.bind_assoc]
    exact Desired.attempt_bind _ _ _ (fun o => rfl) fun e => rfl
  | none =>
    simp only [PortReader.newService, PortReader.extract, Program.bind_eq, Program.bind_assoc]
    exact Desired.attempt_bind _ _ _ (fun o => rfl) fun e => rfl

theorem planned_reconcilePorts (met : List Nat) (ports : List ServicePort) :
    Planned certificates (reconcilePorts lb service met ports)
      (portsPlan certificates lb service met ports).marked := by
  induction ports generalizing met with
  | nil => exact .ofExcept (.ok (false, met))
  | cons port ports ih =>
    rw [portsPlan, Plan.marked_bind_ofExcept]
    simp only [reconcilePorts, PortReader.ofPort, Program.bind_eq]
    cases Desired.validPort port.port "port" with
    | error e => exact .ofExcept (.error e)
    | ok n =>
      simp only [Plan.bind_ofExcept_ok]
      change Planned certificates (if met.contains n then _ else _) _
      by_cases hmet : met.contains n
      · rw [if_pos hmet, if_pos hmet]
        exact ih met
      · rw [if_neg hmet, if_neg hmet, Plan.marked_bind_ofExcept, portCalls_pending,
          Program.bind_assoc]
        refine (Planned.reading (Desired.consults_extract service port n)).bind fun options => ?_
        rw [Plan.marked_bind]
        exact (planned_carryOut _).bind fun changed => (ih _).bind fun r => .ofExcept _

theorem planned_reconcileServices :
    Planned certificates (reconcileServices lb service)
      (servicesPlan certificates lb service).telling := by
  rw [servicesPlan, Plan.telling_within, servicesFrom, Plan.telling_bind_marked]
  exact .within _ ((planned_reconcilePorts [] _).bind fun r =>
    (planned_carryOut _).bind fun deleted => .ofExcept _)

/-- Steps in a row have their plans in a row. -/
theorem planned_takeSteps {steps : List (Operation Bool)} {plans : List (Plan Unit)}
    (h : List.Forall₂ (fun step plan => Planned certificates step plan.telling) steps plans) :
    Planned certificates (takeSteps steps) (Plan.sequence plans).telling := by
  induction h with
  | nil => exact .ofExcept (.ok false)
  | cons hstep _ ih =>
    rw [Plan.sequence, Plan.telling_bind]
    exact hstep.bind fun changed => ih.bind fun others => .ofExcept _

/-- A pass is put together from its plan. -/
theorem planned_reconcile :
    Planned certificates (reconcile engine lb service wishes nodes)
      (passPlan certificates engine lb service wishes nodes).telling := by
  refine planned_takeSteps ?_
  exact .cons planned_reconcileInfo <| .cons (planned_within_carryOut _ _) <|
    .cons (planned_within_carryOut _ _) <| .cons (planned_within_carryOut _ _) <|
    .cons planned_reconcileNetworkAttach <| .cons (planned_within_carryOut _ _) <|
    .cons planned_reconcileTargets <| .cons planned_reconcileServices .nil

/-- A pass keeps to its plan. -/
theorem follows_reconcile :
    Cloud.Follows certificates (reconcile engine lb service wishes nodes)
      (passPlan certificates engine lb service wishes nodes).telling :=
  planned_reconcile.follows

end BalancerSync.Engine
