import BalancerSync.Cloud.Change
import BalancerSync.Desired.Ports
import BalancerSync.Proofs.Cloud.Revision
import Mathlib.Data.List.Sort
import Mathlib.Data.String.Basic
import Mathlib.Tactic.MkIffOfInductiveProp

/-!
# What it means to differ

Whether options differ from a service is found out field by field before they are sent, and applying
them merges them field by field, by a traversal of its own.  The two fit together exactly: options
do not differ from a service if and only if applying them leaves the service as it is.  In
particular they never differ from what the cloud makes of them, neither by changing a service nor by
adding one.

"As it is" is meant up to three identifications.  A missing HTTP part is the part before anything is
set, of a service as of a health check, since the options compare with the one and make the other.
And certificates and status codes count up to their order, since they are compared in sorted form.

## Main Definitions

* `BackendService.Agrees` — the same service, up to these identifications

## Main Results

* `ServiceChange.not_differs_apply` — options do not differ from the service they were applied to
* `PortOptions.not_differs_create` — the wishes for a port do not differ from the service added
  for them
* `mergeSort_eq_mergeSort_iff` — lists have the same sorted form exactly if one reorders the other
* `ServiceChange.not_differs_iff_agrees` — options do not differ from a service exactly if the
  service that the cloud stores for them agrees with it
-/

namespace BalancerSync.Cloud

/-! ### Options and the services they make -/

@[simp] theorem differsFrom_getD {α : Type} [DecidableEq α] (want : Option α) (default : α) :
    differsFrom want (want.getD default) = false := by
  cases want <;> simp [differsFrom]

@[simp] theorem differsFrom_some_self {α : Type} [DecidableEq α] (a : α) :
    differsFrom (some a) a = false := by
  simp [differsFrom]

/-- A list that is compared in another form does not differ from itself either. -/
theorem differsFrom_map_getD {α : Type} [DecidableEq α] (form : α → α) (want : Option α)
    (default : α) : differsFrom (want.map form) (form (want.getD default)) = false := by
  cases want <;> simp [differsFrom]

/-- Field by field: options for the HTTP part do not differ from what they make of it.  Certificates
are compared in sorted form, which makes no difference here. -/
theorem HttpOptions.not_differs_apply (o : HttpOptions) (http : ServiceHttp) :
    o.differs (some (o.apply http)) = false := by
  simp [HttpOptions.differs, HttpOptions.apply, differsFrom_map_getD]

/-- The same for the HTTP part of a health check, where the status codes are sorted. -/
theorem HealthCheckHttpOptions.not_differs_apply (o : HealthCheckHttpOptions)
    (http : HealthCheckHttp) : o.differs (some (o.apply http)) = false := by
  simp [HealthCheckHttpOptions.differs, HealthCheckHttpOptions.apply, differsFrom_map_getD]

/-- A health check does not differ from the options for it once they are applied, with or without an
HTTP part. -/
theorem HealthCheckOptions.not_differs_apply (o : HealthCheckOptions) (check : HealthCheck) :
    o.differs (o.apply check) = false := by
  cases h : o.http with
  | none => simp [HealthCheckOptions.differs, HealthCheckOptions.apply, h]
  | some http =>
    simp [HealthCheckOptions.differs, HealthCheckOptions.apply, h,
      HealthCheckHttpOptions.not_differs_apply]

theorem not_differs_applyHttp (o : Option HttpOptions) (http : Option ServiceHttp) :
    (o.any fun h => h.differs (applyHttp o http)) = false := by
  cases o with
  | none => rfl
  | some h => exact h.not_differs_apply _

theorem not_differs_applyHealthCheck (o : Option HealthCheckOptions) (check : HealthCheck) :
    (o.any fun h => h.differs (applyHealthCheck o check)) = false := by
  cases o with
  | none => rfl
  | some h => exact h.not_differs_apply _

/-- Options do not differ from the service they were applied to. -/
theorem ServiceChange.not_differs_apply (o : ServiceChange) (s : BackendService) :
    o.differs (o.apply s) = false := by
  simp [ServiceChange.differs, ServiceChange.apply, not_differs_applyHttp,
    not_differs_applyHealthCheck]

end BalancerSync.Cloud

namespace BalancerSync.Desired

/-- The wishes for a port do not differ from the service added for them. -/
theorem PortOptions.not_differs_create (o : PortOptions) (listenPort : Nat) :
    o.change.differs (o.newService listenPort).create = false := by
  simp [Cloud.ServiceChange.differs, PortOptions.change, PortOptions.newService,
    Cloud.NewService.create, Cloud.not_differs_applyHttp, Cloud.not_differs_applyHealthCheck]

end BalancerSync.Desired

namespace BalancerSync.Cloud

/-! ### Services that agree -/

/-- The same HTTP part, with the certificates in any order. -/
@[mk_iff]
structure ServiceHttp.Agrees (x y : ServiceHttp) : Prop where
  cookieName : x.cookieName = y.cookieName
  cookieLifetime : x.cookieLifetime = y.cookieLifetime
  certificates : x.certificates.Perm y.certificates
  redirectHttp : x.redirectHttp = y.redirectHttp
  stickySessions : x.stickySessions = y.stickySessions

/-- The same HTTP part, with the status codes in any order. -/
@[mk_iff]
structure HealthCheckHttp.Agrees (x y : HealthCheckHttp) : Prop where
  domain : x.domain = y.domain
  path : x.path = y.path
  response : x.response = y.response
  statusCodes : x.statusCodes.Perm y.statusCodes
  tls : x.tls = y.tls

/-- The same health check. A missing HTTP part is one where nothing is set. -/
@[mk_iff]
structure HealthCheck.Agrees (x y : HealthCheck) : Prop where
  protocol : x.protocol = y.protocol
  port : x.port = y.port
  interval : x.interval = y.interval
  timeout : x.timeout = y.timeout
  retries : x.retries = y.retries
  http : (x.http.getD .unset).Agrees (y.http.getD .unset)

/-- The same service. A missing HTTP part is one where nothing is set. -/
@[mk_iff]
structure BackendService.Agrees (x y : BackendService) : Prop where
  protocol : x.protocol = y.protocol
  listenPort : x.listenPort = y.listenPort
  destinationPort : x.destinationPort = y.destinationPort
  proxyProtocol : x.proxyProtocol = y.proxyProtocol
  http : (x.http.getD .unset).Agrees (y.http.getD .unset)
  healthCheck : x.healthCheck.Agrees y.healthCheck

@[refl] theorem ServiceHttp.Agrees.refl (x : ServiceHttp) : x.Agrees x :=
  ⟨rfl, rfl, .refl _, rfl, rfl⟩

@[refl] theorem HealthCheckHttp.Agrees.refl (x : HealthCheckHttp) : x.Agrees x :=
  ⟨rfl, rfl, rfl, .refl _, rfl⟩

@[refl] theorem HealthCheck.Agrees.refl (x : HealthCheck) : x.Agrees x :=
  ⟨rfl, rfl, rfl, rfl, rfl, .refl _⟩

/-! ### Lists in sorted form -/

/-- Lists have the same sorted form exactly if one is a reordering of the other. -/
theorem mergeSort_eq_mergeSort_iff {α : Type} [LinearOrder α] {xs ys : List α} :
    xs.mergeSort (fun a b => decide (a ≤ b)) = ys.mergeSort (fun a b => decide (a ≤ b)) ↔
      xs.Perm ys := by
  constructor
  · intro h
    calc xs.Perm (xs.mergeSort fun a b => decide (a ≤ b)) := (List.mergeSort_perm xs _).symm
      _ = ys.mergeSort fun a b => decide (a ≤ b) := h
      List.Perm _ ys := List.mergeSort_perm ys _
  · intro h
    exact (((List.mergeSort_perm xs _).trans h).trans (List.mergeSort_perm ys _).symm).eq_of_pairwise'
      (List.pairwise_mergeSort' (· ≤ ·) xs) (List.pairwise_mergeSort' (· ≤ ·) ys)

/-- Certificates are compared without regard to their order. -/
theorem sortedIds_eq_iff {xs ys : List Int} : sortedIds xs = sortedIds ys ↔ xs.Perm ys :=
  mergeSort_eq_mergeSort_iff

/-- So are status codes. -/
theorem sortedTexts_eq_iff {xs ys : List String} : sortedTexts xs = sortedTexts ys ↔ xs.Perm ys :=
  mergeSort_eq_mergeSort_iff

/-! ### Field by field -/

/-- A value does not differ from what is there exactly if putting it there changes nothing. -/
theorem differsFrom_eq_false_iff {α : Type} [DecidableEq α] {want : Option α} {x : α} :
    differsFrom want x = false ↔ want.getD x = x := by
  cases want <;> simp [differsFrom]

/-- Options do not differ from an HTTP part exactly if applying them would change nothing but the
order of the certificates. -/
theorem HttpOptions.differs_eq_false_iff (o : HttpOptions) (http : Option ServiceHttp) :
    o.differs http = false ↔ (o.apply (http.getD .unset)).Agrees (http.getD .unset) := by
  simp only [differs, apply, ServiceHttp.agrees_iff, Bool.or_eq_false_iff, and_assoc,
    differsFrom_eq_false_iff, Option.getD_map, sortedIds_eq_iff]

/-- The same for the HTTP part of a health check and the order of its status codes. -/
theorem HealthCheckHttpOptions.differs_eq_false_iff (o : HealthCheckHttpOptions)
    (http : Option HealthCheckHttp) :
    o.differs http = false ↔ (o.apply (http.getD .unset)).Agrees (http.getD .unset) := by
  simp only [differs, apply, HealthCheckHttp.agrees_iff, Bool.or_eq_false_iff, and_assoc, true_and,
    differsFrom_eq_false_iff, Option.getD_map, sortedTexts_eq_iff]

/-! ### Part by part -/

/-- Options for the HTTP part, if there are any, and what they make of it. -/
theorem applyHttp_agrees_iff (o : Option HttpOptions) (http : Option ServiceHttp) :
    (o.any fun h => h.differs http) = false ↔
      ((applyHttp o http).getD .unset).Agrees (http.getD .unset) := by
  cases o with
  | none => exact iff_of_true rfl (.refl _)
  | some h => exact h.differs_eq_false_iff http

/-- A health check is compared in its own fields and in its HTTP part.  A missing HTTP part counts
as one where nothing is set, on both sides. -/
theorem HealthCheckOptions.differs_eq_false_iff (o : HealthCheckOptions) (check : HealthCheck) :
    o.differs check = false ↔ (o.apply check).Agrees check := by
  have hhttp : (o.http.any fun h => h.differs check.http) = false ↔
      ((o.apply check).http.getD .unset).Agrees (check.http.getD .unset) := by
    rw [apply]
    cases o.http with
    | none => exact iff_of_true rfl (.refl _)
    | some h => exact h.differs_eq_false_iff check.http
  rw [differs, HealthCheck.agrees_iff, ← hhttp]
  simp only [apply, Bool.or_eq_false_iff, and_assoc, differsFrom_eq_false_iff]

theorem applyHealthCheck_agrees_iff (o : Option HealthCheckOptions) (check : HealthCheck) :
    (o.any fun h => h.differs check) = false ↔ (applyHealthCheck o check).Agrees check := by
  cases o with
  | none => exact iff_of_true rfl (.refl _)
  | some h => exact h.differs_eq_false_iff check

/-- A change differs from a service exactly if applying it would lead to one that does not agree.
All fields are compared, for one left out would be a change that is never made. -/
theorem ServiceChange.differs_eq_false_iff (o : ServiceChange) (s : BackendService) :
    o.differs s = false ↔ (o.apply s).Agrees s := by
  simp only [differs, apply, BackendService.agrees_iff, Bool.or_eq_false_iff, and_assoc, true_and,
    differsFrom_eq_false_iff, applyHttp_agrees_iff, applyHealthCheck_agrees_iff]

/-! ### Stored services -/

/-- Options do not differ from a service exactly if what they make of it agrees with it; and what
they make of it is what the cloud stores. -/
theorem ServiceChange.not_differs_iff_agrees (o : ServiceChange) (s : BackendService) :
    (o.differs s = false ↔ (o.apply s).Agrees s) ∧
      ∀ (inv : Inventory) (lb : LoadBalancer) (n : Nat),
        inv.find? lb.id = some lb → lb.service? n = some s →
          ∃ action after new, inv.perform (.updateService lb.id n o) = .ok (action, after) ∧
            after.find? lb.id = some new ∧ new.service? n = some (o.apply s) := by
  refine ⟨o.differs_eq_false_iff s, fun inv lb n hlb hs => ?_⟩
  obtain ⟨action, after, hdone, hnew⟩ :=
    Inventory.perform_updateService o hlb (by rw [hs, Option.isSome_some])
  exact ⟨action, after, _, hdone, hnew, find?_changeFirst_self o hs⟩

namespace Sample

/-- A service with two certificates, and a load balancer that has it. -/
def listener : BackendService where
  protocol := .https
  listenPort := 443
  destinationPort := 30443
  proxyProtocol := false
  http := some { ServiceHttp.unset with certificates := [8, 3] }
  healthCheck := .implicit 30443

@[inherit_doc listener]
def balancer : LoadBalancer :=
  ⟨1, "web", .empty, .roundRobin, "lb11", "fsn1", "eu-central", ⟨true, none, none⟩, [], [listener],
    [], false⟩

/-- Options that name the certificates in another order, and a part of the health check that is
not there with a value of a part where nothing is set. -/
def reordering : ServiceChange where
  protocol := none
  destinationPort := none
  proxyProtocol := none
  http := some ⟨none, none, some [3, 8], none, none⟩
  healthCheck := some ⟨none, none, none, none, none, some ⟨none, some "", none, none⟩⟩

/-- Applying the options makes another service, but one that agrees. -/
theorem reordering_agrees : (reordering.apply listener).Agrees listener :=
  ⟨rfl, rfl, rfl, rfl, ⟨rfl, rfl, by decide, rfl, rfl⟩, ⟨rfl, rfl, rfl, rfl, rfl, .refl _⟩⟩

end Sample

open Sample in
/-- Two certificates in another order: applying the options changes what is stored, but not in a way
that counts. -/
theorem ServiceChange.not_differs_iff_agrees_sample :
    reordering.apply listener ≠ listener ∧ reordering.differs listener = false ∧
      ∃ action after new,
        Inventory.perform ⟨[balancer], [], [], 1⟩ (.updateService 1 443 reordering) =
            .ok (action, after) ∧
          after.find? 1 = some new ∧ new.service? 443 = some (reordering.apply listener) :=
  ⟨by decide, (not_differs_iff_agrees reordering listener).1.2 reordering_agrees,
    (not_differs_iff_agrees reordering listener).2 ⟨[balancer], [], [], 1⟩ balancer 443 rfl rfl⟩

end BalancerSync.Cloud
