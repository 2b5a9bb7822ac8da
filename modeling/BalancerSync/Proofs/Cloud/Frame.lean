import BalancerSync.Cloud.Change
import BalancerSync.Proofs.Cloud.Preservation

/-!
# What changes leave alone

Options for a backend service set some of its fields and leave the others open.  What they leave
open is said field by field (`ServiceChange.Spares`), and it is as it should be: options leave alone
what they leave open, and two services from which some options make the same agree in all of it.

A stretch of a run that is about one load balancer leaves every other one alone, and adds none.
This is said about the list of load balancers as a whole and not about one of them, so that nothing
can appear unnoticed either.

## Main Definitions

* `ServiceChange.Spares` — two services agree in what options leave open
* `World.Confined` — a stretch of a run that changes one load balancer at most

## Main Results

* `ServiceChange.spares_of_apply_eq` — services from which options make the same
* `World.confined_run` — an operation that is about one load balancer is confined to it
-/

namespace BalancerSync.Cloud

/-! ### Fields that options leave open -/

/-- Two HTTP parts of a service agree in what options leave open. -/
structure HttpOptions.Spares (o : HttpOptions) (x y : ServiceHttp) : Prop where
  cookieName : o.cookieName = none → y.cookieName = x.cookieName
  cookieLifetime : o.cookieLifetime = none → y.cookieLifetime = x.cookieLifetime
  certificates : o.certificates = none → y.certificates = x.certificates
  redirectHttp : o.redirectHttp = none → y.redirectHttp = x.redirectHttp
  stickySessions : o.stickySessions = none → y.stickySessions = x.stickySessions

/-- Two HTTP parts of a health check agree in what options leave open; there is no option for the
response. -/
structure HealthCheckHttpOptions.Spares (o : HealthCheckHttpOptions) (x y : HealthCheckHttp) :
    Prop where
  domain : o.domain = none → y.domain = x.domain
  path : o.path = none → y.path = x.path
  response : y.response = x.response
  statusCodes : o.statusCodes = none → y.statusCodes = x.statusCodes
  tls : o.tls = none → y.tls = x.tls

/-- Two health checks agree in what options leave open.  A missing HTTP part counts as one in which
nothing is set. -/
structure HealthCheckOptions.Spares (o : HealthCheckOptions) (x y : HealthCheck) : Prop where
  protocol : o.protocol = none → y.protocol = x.protocol
  port : o.port = none → y.port = x.port
  interval : o.interval = none → y.interval = x.interval
  timeout : o.timeout = none → y.timeout = x.timeout
  retries : o.retries = none → y.retries = x.retries
  http : o.http = none → y.http = x.http
  httpFields : ∀ h, o.http = some h → h.Spares (x.http.getD .unset) (y.http.getD .unset)

/-- Two backend services agree in what options leave open.  A missing HTTP part counts as one in
which nothing is set. -/
structure ServiceChange.Spares (o : ServiceChange) (s t : BackendService) : Prop where
  listenPort : t.listenPort = s.listenPort
  protocol : o.protocol = none → t.protocol = s.protocol
  destinationPort : o.destinationPort = none → t.destinationPort = s.destinationPort
  proxyProtocol : o.proxyProtocol = none → t.proxyProtocol = s.proxyProtocol
  http : o.http = none → t.http = s.http
  httpFields : ∀ h, o.http = some h → h.Spares (s.http.getD .unset) (t.http.getD .unset)
  healthCheck : o.healthCheck = none → t.healthCheck = s.healthCheck
  healthCheckFields : ∀ h, o.healthCheck = some h → h.Spares s.healthCheck t.healthCheck

/-- An option that is left open shows what it was applied to. -/
theorem eq_of_getD_eq {α : Type} {o : Option α} {x y : α} (h : o.getD y = o.getD x)
    (hopen : o = none) : y = x := by
  rwa [hopen] at h

/-- Two HTTP parts of which the options make the same differ in nothing that the options leave
open. -/
theorem HttpOptions.spares_of_apply_eq {o : HttpOptions} {x y : ServiceHttp}
    (h : o.apply y = o.apply x) : o.Spares x y where
  cookieName := eq_of_getD_eq (congrArg ServiceHttp.cookieName h)
  cookieLifetime := eq_of_getD_eq (congrArg ServiceHttp.cookieLifetime h)
  certificates := eq_of_getD_eq (congrArg ServiceHttp.certificates h)
  redirectHttp := eq_of_getD_eq (congrArg ServiceHttp.redirectHttp h)
  stickySessions := eq_of_getD_eq (congrArg ServiceHttp.stickySessions h)

/-- The same for the HTTP part of a health check. -/
theorem HealthCheckHttpOptions.spares_of_apply_eq {o : HealthCheckHttpOptions}
    {x y : HealthCheckHttp} (h : o.apply y = o.apply x) : o.Spares x y where
  domain := eq_of_getD_eq (congrArg HealthCheckHttp.domain h)
  path := eq_of_getD_eq (congrArg HealthCheckHttp.path h)
  response := show (o.apply y).response = (o.apply x).response from congrArg _ h
  statusCodes := eq_of_getD_eq (congrArg HealthCheckHttp.statusCodes h)
  tls := eq_of_getD_eq (congrArg HealthCheckHttp.tls h)

/-- The same for a health check with its HTTP part, if the options have one. -/
theorem HealthCheckOptions.spares_of_apply_eq {o : HealthCheckOptions} {x y : HealthCheck}
    (h : o.apply y = o.apply x) : o.Spares x y where
  protocol := eq_of_getD_eq (congrArg HealthCheck.protocol h)
  port := eq_of_getD_eq (congrArg HealthCheck.port h)
  interval := eq_of_getD_eq (congrArg HealthCheck.interval h)
  timeout := eq_of_getD_eq (congrArg HealthCheck.timeout h)
  retries := eq_of_getD_eq (congrArg HealthCheck.retries h)
  http hopen := by
    have hhttp := congrArg HealthCheck.http h
    simpa only [HealthCheckOptions.apply, hopen] using hhttp
  httpFields fields hset := by
    have hhttp := congrArg HealthCheck.http h
    simp only [HealthCheckOptions.apply, hset] at hhttp
    exact HealthCheckHttpOptions.spares_of_apply_eq (Option.some.inj hhttp)

/-- Services from which options make the same agree in what the options leave open. -/
theorem ServiceChange.spares_of_apply_eq {o : ServiceChange} {s t : BackendService}
    (h : o.apply t = o.apply s) : o.Spares s t where
  listenPort := show (o.apply t).listenPort = (o.apply s).listenPort from congrArg _ h
  protocol := eq_of_getD_eq (congrArg BackendService.protocol h)
  destinationPort := eq_of_getD_eq (congrArg BackendService.destinationPort h)
  proxyProtocol := eq_of_getD_eq (congrArg BackendService.proxyProtocol h)
  http hopen := by
    have hhttp := congrArg BackendService.http h
    simpa only [ServiceChange.apply, hopen, applyHttp] using hhttp
  httpFields fields hset := by
    have hhttp := congrArg BackendService.http h
    simp only [ServiceChange.apply, hset, applyHttp] at hhttp
    exact HttpOptions.spares_of_apply_eq (Option.some.inj hhttp)
  healthCheck hopen := by
    have hcheck := congrArg BackendService.healthCheck h
    simpa only [ServiceChange.apply, hopen, applyHealthCheck] using hcheck
  healthCheckFields fields hset := by
    have hcheck := congrArg BackendService.healthCheck h
    simp only [ServiceChange.apply, hset, applyHealthCheck] at hcheck
    exact HealthCheckOptions.spares_of_apply_eq hcheck

/-! ### Options applied again -/

/-- What fills an option in does not show where another option has filled it in before, if it leaves
nothing open that the other one says. -/
theorem getD_getD {α : Type} {o o' : Option α} (h : o = none → o' = none) (x : α) :
    o.getD (o'.getD x) = o.getD x := by
  cases o with
  | some a => rfl
  | none => simp only [h rfl, Option.getD_none]

theorem HealthCheckHttpOptions.apply_apply (o : HealthCheckHttpOptions) (http : HealthCheckHttp) :
    o.apply (o.apply http) = o.apply http := by
  simp only [HealthCheckHttpOptions.apply, getD_getD id]

/-- A health check that options were applied to is what they want. -/
theorem applyHealthCheck_applyHealthCheck (o : Option HealthCheckOptions) (check : HealthCheck) :
    applyHealthCheck o (applyHealthCheck o check) = applyHealthCheck o check := by
  cases o with
  | none => rfl
  | some o =>
    simp only [applyHealthCheck, HealthCheckOptions.apply, getD_getD id]
    cases o.http with
    | none => rfl
    | some h => simp only [Option.getD_some, HealthCheckHttpOptions.apply_apply]

/-! ### Runs that are about one load balancer -/

namespace World

variable {o : Option Int} {P : Call → Prop} {w t after : World} {c : Call}

theorem about?_of_lookup {inv : Inventory} (h : c.isMutation = false) : c.about? inv = none := by
  cases c with
  | getById | getByName | listByLabel | getCertificate | getNetworkById | getNetworkByName
  | getAction => rfl
  | _ => cases h

/-- A stretch of a run that changes one load balancer at most, and by calls of a kind. -/
structure Confined (o : Option Int) (P : Call → Prop) (w after : World) : Prop where
  placed : after.inventory.Placed
  others : ∀ x : LoadBalancer, o ≠ some x.id →
    (x ∈ after.inventory.loadBalancers ↔ x ∈ w.inventory.loadBalancers)
  changes : ∃ calls, after.log = w.log ++ calls ∧ ∀ c ∈ calls, c.isMutation = true → P c

theorem Confined.refl (hw : w.inventory.Placed) : Confined o P w w :=
  ⟨hw, fun _ _ => Iff.rfl, [], (List.append_nil _).symm, fun _ h => absurd h List.not_mem_nil⟩

/-- Two stretches confined to the same load balancer are so together.  If the first one creates it,
it is there for the second, under the same identifier. -/
theorem Confined.trans (h : Confined o P w t) (h' : Confined o P t after) :
    Confined o P w after := by
  obtain ⟨calls, hlog, hcalls⟩ := h.changes
  obtain ⟨more, hlog', hmore⟩ := h'.changes
  refine ⟨h'.placed, fun x hx => (h'.others x hx).trans (h.others x hx), calls ++ more, ?_, ?_⟩
  · rw [hlog', hlog, List.append_assoc]
  · intro c hc
    rcases List.mem_append.1 hc with hc | hc
    · exact hcalls c hc
    · exact hmore c hc

/-- A request that is about one load balancer leaves the others alone. -/
theorem confined_handle {q : effect.Request} (hw : w.inventory.Placed)
    (hq : ∀ c, q.call? = some c → c.isMutation = true → P c ∧ c.about? w.inventory = o) :
    Confined o P w (handle q w).2 := by
  have hhandled := handled w q
  obtain ⟨calls, hlog, hcalls⟩ := hhandled.log
  have hchanges : ∀ c ∈ calls, c.isMutation = true → P c := by
    intro c hc hchange
    rcases hcalls c hc with hcall | ⟨id, rfl⟩
    · exact (hq c hcall hchange).1
    · cases hchange
  rcases hhandled.inventory with hsame | ⟨c, reply, hc, hok⟩
  · exact ⟨hsame ▸ hw, fun x _ => by rw [hsame], calls, hlog, hchanges⟩
  · have hdone := Inventory.perform_inversion hw.ordered hok
    refine ⟨hw.done hdone, fun x hx => Inventory.mem_iff_of_done hw.ordered hdone ?_, calls, hlog,
      hchanges⟩
    cases hchange : c.isMutation with
    | true => rwa [(hq c hc hchange).2]
    | false => simp [about?_of_lookup hchange]

/-- An operation whose changes are all about one load balancer leaves the others alone. -/
theorem confined_run {α : Type} {p : Operation α} (hw : w.inventory.Placed)
    (hp : p.Asks fun q : effect.Request => ∀ c, q.call? = some c → c.isMutation = true →
      P c ∧ ∀ inv, c.about? inv = o) : Confined o P w (w.run p).2 := by
  refine hp.run (I := Confined o P w) (fun q t hq ht => ?_) (.refl hw)
  refine ht.trans (confined_handle ht.placed fun c hc hchange => ?_)
  obtain ⟨hkind, habout⟩ := hq c hc hchange
  exact ⟨hkind, habout t.inventory⟩

/-- For operations in a row, where the second one may depend on what the first has found. -/
theorem confined_bind {α β : Type} {p : Operation α} {f : α → Operation β}
    (hp : Confined o P w (w.run p).2)
    (hf : ∀ a t, w.run p = (.ok a, t) → t.inventory.Placed → Confined o P t (t.run (f a)).2) :
    Confined o P w (w.run (p.bind f)).2 := by
  rw [run_bind]
  generalize w.run p = result at hp hf
  obtain ⟨r, t⟩ := result
  cases r with
  | ok a => exact hp.trans (hf a t rfl hp.placed)
  | error e => exact hp

end World

end BalancerSync.Cloud
