import BalancerSync.Desired.Ports
import BalancerSync.Proofs.Cloud.Planned
import Mathlib.Tactic.Choose

/-!
# Reading the wishes for a port

Reading takes lookups of certificates and nothing else.  What it finds is therefore a function of
the certificates, `PortOptions.readFrom`: it is the same in every calm world that has them, and a
world in which something goes wrong can only turn it into an error.

## Main Definitions

* `PortOptions.readFrom` — the wishes that reading finds where nothing goes wrong
* `PortOptions.Found` — where the wishes come from

## Main Results

* `PortOptions.found_of_yields` — they come from the settings
* `consults_extract` — reading finds them, or fails
* `PortReader.exists_run_change` — a fresh reader hands them out
-/

namespace BalancerSync.Desired

open Cloud (Operation World Reads Consults Certificate takeNamed?)
open Cluster (Service ServicePort)

variable {certificates : List Certificate}

/-! ### Certificates -/

/-- The identifier of the certificate that a reference names, among these certificates. -/
def certificateId (certificates : List Certificate) (reference : String) : Except Error Int :=
  match Text.int64? reference with
  | some id => .ok id
  | none => match certificates.find? fun c => c.name == reference with
    | none => .error (.notFound ("certificate " ++ Text.quoted reference))
    | some certificate => .ok certificate.id

/-- A lookup that is never answered ends in an error, like one that is refused. -/
theorem reads_resolveCertificate (reference : String) :
    Reads certificates (resolveCertificate reference) (certificateId certificates reference) := by
  intro w hw
  rw [resolveCertificate, certificateId]
  cases Text.int64? reference with
  | some id => exact Reads.ofExcept _ w hw
  | none =>
    have hperform : w.inventory.perform (.getCertificate reference) =
        .ok (certificates.find? fun c => c.name == reference, w.inventory) := by
      rw [← hw]
      rfl
    simp only [Program.bind_eq, World.run_bind]
    change _ ∧ _ ∧ _
    -- A lookup that is not answered in time takes a script that makes it so, and then the world is
    -- not calm.
    by_cases hsilent : w.isSilent (.getCertificate reference)
    · have hcalm : ¬ w.Calm := by
        intro hcalm
        simp only [World.isSilent, show w.script = .none from hcalm] at hsilent
        cases hsilent
      have hrun : w.run (Cloud.callWithin certificateTimeout (.getCertificate reference)) =
          (.ok none, { w with clock := w.clock + certificateTimeout }) := by
        simp only [World.run, Cloud.callWithin, Program.request, Program.run, World.handle, hsilent,
          if_true]
      rw [hrun]
      exact ⟨rfl, .inr ⟨hcalm, _, rfl⟩, fun h => absurd h hcalm⟩
    · have hrun : w.run (Cloud.callWithin certificateTimeout (.getCertificate reference)) =
          ((w.perform (.getCertificate reference)).1.map some,
            (w.perform (.getCertificate reference)).2) := by
        simp only [World.run, Cloud.callWithin, Program.request, Program.run, World.handle, hsilent]
        rfl
      rw [hrun, World.perform_of_lookup hperform rfl]
      cases hnamed : takeNamed? (Cloud.Call.getCertificate reference).name w.script.failures with
      | some entry =>
        have hcalm := World.not_calm_of_takeNamed? hnamed
        exact ⟨rfl, .inr ⟨hcalm, _, rfl⟩, fun h => absurd h hcalm⟩
      | none =>
        have hadds : w.Calm → w.Adds (w.logged (.getCertificate reference)) [] := fun hcalm =>
          World.Adds.single (c := .getCertificate reference) hcalm rfl fun _ h => by cases h
        cases hfound : certificates.find? fun c => c.name == reference with
        | none => exact ⟨rfl, .inl rfl, hadds⟩
        | some certificate => exact ⟨rfl, .inl rfl, hadds⟩

/-- The only request that it can take is the lookup of the name. -/
theorem asks_lookup (reference : String) :
    (resolveCertificate reference).Asks
      fun q : Cloud.Request => q = .callWithin certificateTimeout (.getCertificate reference) := by
  rw [resolveCertificate]
  split
  · exact .done _
  · refine .bind (.request rfl) fun found => ?_
    rcases found with _ | _ | certificate <;> exact .done _

theorem asks_resolveCertificate {P : Cloud.Call → Prop} {reference : String}
    (h : P (.getCertificate reference)) :
    (resolveCertificate reference).Asks
      fun q : Cloud.effect.Request => ∀ c, q.call? = some c → P c := by
  refine (asks_lookup reference).mono ?_
  rintro q rfl c hc
  obtain rfl := Option.some.inj hc
  exact h

theorem consults_resolveCertificate (reference : String) :
    Consults certificates (resolveCertificate reference) (certificateId certificates reference) :=
  ⟨reads_resolveCertificate reference, asks_resolveCertificate ⟨rfl, fun _ h => by cases h⟩⟩

theorem exists_consults_resolveCertificates (certificates : List Certificate)
    (references : List String) :
    ∃ x, Consults certificates (resolveCertificates references) x := by
  induction references with
  | nil => exact ⟨_, Consults.ofExcept (.ok [])⟩
  | cons r rs ih =>
    obtain ⟨x, hx⟩ := ih
    exact ⟨_, (consults_resolveCertificate r).bind fun id =>
      hx.bind fun ids => Consults.ofExcept (.ok (id :: ids))⟩

theorem exists_consults_readCertificates (certificates : List Certificate) (service : Service) :
    ∃ x, Consults certificates (readCertificates service) x := by
  -- The lookups depend on what the setting lists, so their result is chosen for every list.
  choose ids hids using exists_consults_resolveCertificates certificates
  refine ⟨(Setting.httpCertificates.list service).bind fun references? =>
    references?.elim (.ok none) fun references =>
      ((ids references).mapError (.within "service_opts::resolve_certificates")).bind fun ids =>
        .ok (some ids), ?_⟩
  refine (Consults.ofExcept _).bind fun references? => ?_
  cases references? with
  | none => exact Consults.ofExcept _
  | some references => exact ((hids references).within _).bind fun ids => Consults.ofExcept _

/-! ### All wishes -/

theorem validPort_eq_ok {port : Int} {what : String} {n : Nat}
    (h : validPort port what = .ok n) : port = n := by
  rw [validPort] at h
  split at h
  · have := Except.ok.inj h
    omega
  · cases h

/-- Where wishes for a port come from, setting by setting. -/
structure PortOptions.Found (service : Service) (port : ServicePort) (listenPort : Nat)
    (options : PortOptions) : Prop where
  destinationPort : Desired.destinationPort port listenPort = .ok options.destinationPort
  proxyProtocol : ∃ b, Setting.usesProxyProtocol.bool service = .ok b ∧
    options.proxyProtocol = b.getD false
  protocol : ∃ p, Setting.protocol.protocolValue service = .ok p ∧ options.protocol = p.getD .tcp
  http : ∃ o : Cloud.HttpOptions, Setting.httpCookieName.text service = .ok o.cookieName ∧
    Setting.httpCookieLifetime.seconds service = .ok o.cookieLifetime ∧
    (readCertificates service).Yields o.certificates ∧
    Setting.httpRedirectHttp.bool service = .ok o.redirectHttp ∧
    Setting.httpStickySessions.bool service = .ok o.stickySessions ∧
    options.http = httpUnlessEmpty o
  healthCheck : readHealthCheck service options.protocol options.destinationPort =
    .ok options.healthCheck

/-- Whatever the answers to its lookups are, reading finds wishes that come from the settings. -/
theorem PortOptions.found_of_yields {service : Service} {port : ServicePort} {listenPort : Nat}
    {options : PortOptions} (h : (PortOptions.extract service port listenPort).Yields options) :
    PortOptions.Found service port listenPort options := by
  obtain ⟨destination, hdestination, h⟩ := Program.exists_yields_of_bind h
  obtain ⟨proxyProtocol, hproxy, h⟩ := Program.exists_yields_of_bind h
  obtain ⟨protocol, hprotocol, h⟩ := Program.exists_yields_of_bind h
  obtain ⟨cookieName, hname, h⟩ := Program.exists_yields_of_bind h
  obtain ⟨cookieLifetime, hlifetime, h⟩ := Program.exists_yields_of_bind h
  obtain ⟨certificates, hcertificates, h⟩ := Program.exists_yields_of_bind h
  obtain ⟨redirectHttp, hredirect, h⟩ := Program.exists_yields_of_bind h
  obtain ⟨stickySessions, hsticky, h⟩ := Program.exists_yields_of_bind h
  obtain ⟨check, hcheck, h⟩ := Program.exists_yields_of_bind h
  rw [Program.yields_ofExcept] at hdestination hproxy hprotocol hname
  rw [Program.yields_ofExcept] at hlifetime hredirect hsticky hcheck
  cases h
  exact
    { destinationPort := hdestination
      proxyProtocol := ⟨proxyProtocol, hproxy, rfl⟩
      protocol := ⟨protocol, hprotocol, rfl⟩
      http := ⟨_, hname, hlifetime, hcertificates, hredirect, hsticky, rfl⟩
      healthCheck := hcheck }

/-- The wishes for a port that reading finds where nothing goes wrong. -/
def PortOptions.readFrom (certificates : List Certificate) (service : Service) (port : ServicePort)
    (listenPort : Nat) : Except Error PortOptions :=
  ((World.ofInventory { Cloud.Inventory.empty with certificates := certificates } .zero).run
    (PortOptions.extract service port listenPort)).1

/-- Reading finds these wishes, or fails. -/
theorem consults_extract (service : Service) (port : ServicePort) (listenPort : Nat) :
    Consults certificates (PortOptions.extract service port listenPort)
      (PortOptions.readFrom certificates service port listenPort) := by
  obtain ⟨x, hx⟩ := exists_consults_readCertificates certificates service
  have hall : ∃ y, Consults certificates (PortOptions.extract service port listenPort) y :=
    ⟨_, (Consults.ofExcept _).bind fun destination => (Consults.ofExcept _).bind fun proxyProtocol =>
      (Consults.ofExcept _).bind fun protocol => (Consults.ofExcept _).bind fun cookieName =>
      (Consults.ofExcept _).bind fun cookieLifetime => hx.bind fun ids =>
      (Consults.ofExcept _).bind fun redirectHttp =>
      (Consults.ofExcept _).bind fun stickySessions =>
      (Consults.ofExcept _).bind fun check => Consults.ofExcept _⟩
  obtain ⟨y, hy⟩ := hall
  have heq : PortOptions.readFrom certificates service port listenPort = y :=
    hy.reads.eq_of_calm
      (w := .ofInventory { Cloud.Inventory.empty with certificates := certificates } .zero) rfl rfl
  rwa [heq]

/-! ### Readers -/

/-- Looking at an outcome and passing its error on is going on with the result. -/
theorem attempt_bind {α β : Type} (p : Operation α) (f : α → Operation β)
    (g : Except Error α → Operation β) (hok : ∀ a, g (.ok a) = f a)
    (herror : ∀ e, g (.error e) = .fail e) : p.attempt.bind g = p.bind f := by
  induction p with
  | done outcome =>
    cases outcome with
    | ok a => exact hok a
    | error e => exact herror e
  | ask q next ih =>
    simp only [Program.attempt, Program.bind_ask, Program.ask.injEq, heq_eq_eq, true_and]
    exact funext ih

/-- Where nothing goes wrong, a fresh reader hands out the wishes for its port. -/
theorem PortReader.exists_run_change {service : Service} {port : ServicePort} {n : Nat}
    {options : PortOptions} {w : World} (hw : w.Calm)
    (h : PortOptions.readFrom w.inventory.certificates service port n = .ok options) :
    ∃ reader, (w.run (PortReader.change ⟨service, port, n, .pending⟩)).1 =
      .ok (.ok options.change, reader) := by
  have hread := (consults_extract service port n).reads.eq_of_calm hw rfl
  rw [h] at hread
  refine ⟨⟨service, port, n, .done options⟩, ?_⟩
  simp only [change, extract, Program.bind_eq, World.run_bind, World.run_attempt]
  rw [hread]
  rfl

end BalancerSync.Desired
