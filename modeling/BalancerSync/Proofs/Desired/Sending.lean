import BalancerSync.Proofs.Cloud.ServiceBodies
import BalancerSync.Proofs.Desired.ReadingOnce

/-!
# Sending the wishes for a port

What a reader hands out is sent to the cloud as the body of a request.  The body has no room for
fractions of seconds, and there are none to be lost: durations are truncated where they are read.
So the body determines what was handed out, and it has a field for everything that is set and for
nothing else.

## Main Definitions

* `HandedOut` — what readers hand out, however their lookups are answered

## Main Results

* `HandedOut.added_wholeSeconds`, `HandedOut.changed_wholeSeconds` — nothing handed out has
  fractions of seconds
* `bodies_exact` — equal bodies are sent for equal options only, and have exactly what is set
-/

namespace BalancerSync.Desired

open Cloud (Call NewService ServiceChange HealthCheckOptions SentIn)
open Cluster (Service ServicePort)
open Program (Handler)

variable {service : Service} {port : ServicePort} {listenPort destination : Nat}
  {options : PortOptions} {handout : Handout} {protocol : Cloud.Protocol}

/-- What a reader hands out on one of several demands, for any Service and port.  Nothing is assumed
about how its lookups of certificates are answered. -/
def HandedOut (handout : Handout) : Prop :=
  ∃ (σ : Type) (handle : Handler Cloud.effect σ) (service : Service) (port : ServicePort)
    (reader : PortReader) (calls : List (Demand × σ)),
    PortReader.ofPort service port = .ok reader ∧
      ∃ x ∈ reader.serve handle calls, x.outcome = .ok handout

/-! ### Reading in whole seconds -/

/-- A duration that is read is truncated. -/
theorem truncated_of_seconds {s : Setting} {d? : Option Duration}
    (h : s.seconds service = .ok d?) : ∀ d ∈ d?, d.truncated = d := by
  rintro d rfl
  obtain ⟨value, -, hparse⟩ := Setting.read_eq_some_iff.1 h
  cases hwritten : Setting.parseDuration (Text.trimmed value) with
  | error reason =>
    rw [hwritten] at hparse
    cases hparse
  | ok written =>
    rw [hwritten] at hparse
    cases hparse
    exact Duration.truncated_truncated written

theorem wholeSeconds_of_readHealthCheck {check? : Option HealthCheckOptions}
    (h : readHealthCheck service protocol destination = .ok check?) :
    ∀ c ∈ check?, c.WholeSeconds := by
  rw [readHealthCheck] at h
  split at h
  · obtain ⟨checkProtocol, -, h⟩ := bind_eq_ok.1 h
    obtain ⟨port, -, h⟩ := bind_eq_ok.1 h
    obtain ⟨interval, hinterval, h⟩ := bind_eq_ok.1 h
    obtain ⟨timeout, htimeout, h⟩ := bind_eq_ok.1 h
    obtain ⟨retries, -, h⟩ := bind_eq_ok.1 h
    obtain ⟨domain, -, h⟩ := bind_eq_ok.1 h
    obtain ⟨path, -, h⟩ := bind_eq_ok.1 h
    obtain ⟨tls, -, h⟩ := bind_eq_ok.1 h
    obtain ⟨statusCodes, -, h⟩ := bind_eq_ok.1 h
    cases h
    rintro _ ⟨⟩
    exact ⟨truncated_of_seconds hinterval, truncated_of_seconds htimeout⟩
  · cases h
    exact nofun

/-- The wishes for a port are read in whole seconds. -/
theorem wholeSeconds_of_yields (h : (PortOptions.extract service port listenPort).Yields options) :
    options.change.WholeSeconds := by
  have hfound := PortOptions.found_of_yields h
  refine ⟨fun http hhttp => ?_, wholeSeconds_of_readHealthCheck hfound.healthCheck⟩
  obtain ⟨o, -, hlifetime, -, -, -, ho⟩ := hfound.http
  simp only [PortOptions.change, ho, httpUnlessEmpty, Option.mem_def,
    Option.ite_none_left_eq_some, Option.some.injEq] at hhttp
  obtain ⟨-, rfl⟩ := hhttp
  exact truncated_of_seconds hlifetime

/-- What is handed out was read by some reader, in the form that was asked for. -/
theorem exists_yields_of_handedOut (h : HandedOut handout) :
    ∃ service port listenPort options, ∃ d : Demand,
      (PortOptions.extract service port listenPort).Yields options ∧
        handout = d.form listenPort options := by
  obtain ⟨σ, handle, service, port, reader, calls, hreader, x, hx, hok⟩ := h
  obtain ⟨listenPort, -, hreader⟩ := bind_eq_ok.1 hreader
  cases hreader
  obtain ⟨options, hyields, hform⟩ := PortReader.exists_yields_of_mem_serve rfl hx hok
  exact ⟨service, port, listenPort, options, x.demand, hyields, hform⟩

/-- Options for adding have no fractions of seconds. -/
theorem HandedOut.added_wholeSeconds {o : NewService} (h : HandedOut (.added o)) :
    o.toChange.WholeSeconds := by
  obtain ⟨service, port, listenPort, options, d, hyields, hform⟩ := exists_yields_of_handedOut h
  cases d with
  | extract | change => cases hform
  | newService =>
    cases hform
    exact wholeSeconds_of_yields hyields

/-- Options for changing have no fractions of seconds. -/
theorem HandedOut.changed_wholeSeconds {change : ServiceChange} (h : HandedOut (.changed change)) :
    change.WholeSeconds := by
  obtain ⟨service, port, listenPort, options, d, hyields, hform⟩ := exists_yields_of_handedOut h
  cases d with
  | extract | newService => cases hform
  | change =>
    cases hform
    exact wholeSeconds_of_yields hyields

/-! ### The bodies -/

/-- Equal bodies are sent for equal options only, whichever load balancer they are for.  A body for
a change also tells the listen port.  Every body has a field for everything that is set in the
options, at every level, and no other fields but the listen port; none of them is null. -/
theorem bodies_exact :
    (∀ id id' o o', HandedOut (.added o) → HandedOut (.added o') →
      (Call.addService id o).outline.body = (Call.addService id' o').outline.body → o = o') ∧
    (∀ id id' n n' c c', HandedOut (.changed c) → HandedOut (.changed c') →
      (Call.updateService id n c).outline.body = (Call.updateService id' n' c').outline.body →
      n = n' ∧ c = c') ∧
    (∀ id o, ∃ body, (Call.addService id o).outline.body = some body ∧
      SentIn o.listenPort o.toChange body) ∧
    ∀ id n c, ∃ body, (Call.updateService id n c).outline.body = some body ∧ SentIn n c body := by
  refine ⟨fun _ _ _ _ ho ho' hbody => ?_, fun _ _ _ _ _ _ hc hc' hbody => ?_,
    fun _ o => ⟨_, rfl, o.toChange.sentIn_toJson _⟩, fun _ n c => ⟨_, rfl, c.sentIn_toJson n⟩⟩
  · exact NewService.eq_of_toJson ho.added_wholeSeconds ho'.added_wholeSeconds
      (Option.some.inj hbody)
  · exact ServiceChange.eq_of_toJson hc.changed_wholeSeconds hc'.changed_wholeSeconds
      (Option.some.inj hbody)

namespace Sample

/-- A Service with one port and these settings. -/
def withSettings (settings : List (String × String)) : Service :=
  { PortReader.Sample.secure with
    metadata := { Cluster.Metadata.empty with annotations := .ofList settings } }

/-- What it wants of its port if it has no settings. -/
def plain : NewService := .plain 443 30443

/-- What it wants of its port if its list of certificates is empty. -/
def listless : NewService := { plain with http := some ⟨none, none, some [], none, none⟩ }

/-- What has been read is handed out on a demand. -/
theorem exists_served (settings : List (String × String)) (options : PortOptions) (d : Demand)
    (h : ((PortOptions.extract (withSettings settings) ⟨443, some 30443⟩ 443).run
      Cloud.World.handle PortReader.Sample.world).1 = .ok options) :
    ∃ x ∈ PortReader.serve Cloud.World.handle
        ⟨withSettings settings, ⟨443, some 30443⟩, 443, .pending⟩ [(d, PortReader.Sample.world)],
      x.outcome = .ok (d.form 443 options) := by
  rw [PortReader.serve_of_pending rfl _ _ _ _ h]
  exact ⟨_, List.mem_cons_self, rfl⟩

theorem handedOut (settings : List (String × String)) (options : PortOptions)
    (h : ((PortOptions.extract (withSettings settings) ⟨443, some 30443⟩ 443).run
      Cloud.World.handle PortReader.Sample.world).1 = .ok options) :
    HandedOut (.added (options.newService 443)) :=
  ⟨_, _, _, ⟨443, some 30443⟩, _, _, rfl, exists_served settings options .newService h⟩

end Sample

/-- An empty list of certificates is sent, unlike one that is missing. -/
theorem bodies_exact_sample :
    HandedOut (.added Sample.plain) ∧ HandedOut (.added Sample.listless) ∧
      (Call.addService 1 Sample.plain).outline.body ≠
        (Call.addService 1 Sample.listless).outline.body ∧
      ∃ body, (Call.addService 1 Sample.listless).outline.body = some body ∧
        (body.at? ["http", "certificates"]).isSome = true := by
  have hplain : HandedOut (.added Sample.plain) :=
    Sample.handedOut [] ⟨30443, .tcp, false, none, none⟩ (by decide +kernel)
  have hlistless : HandedOut (.added Sample.listless) :=
    Sample.handedOut [(Setting.httpCertificates.key, "")]
      ⟨30443, .tcp, false, some ⟨none, none, some [], none, none⟩, none⟩ (by decide +kernel)
  obtain ⟨hinjective, -, hsent, -⟩ := bodies_exact
  obtain ⟨body, hbody, hfields⟩ := hsent 1 Sample.listless
  refine ⟨hplain, hlistless, fun h => ?_, body, hbody, (hfields.present_iff _ _).2 (.inr ?_)⟩
  · cases hinjective 1 1 _ _ hplain hlistless h
  · exact .inHttp rfl (.certificates rfl)

end BalancerSync.Desired
