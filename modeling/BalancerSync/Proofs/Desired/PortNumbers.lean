import BalancerSync.Proofs.Desired.Sending
import BalancerSync.Proofs.Text.Numeral

/-!
# The numbers of ports

Three ports are sent for one port of a Service: the listen port, the destination on the nodes, and
the port of the health check.  The first two pass the same check, which refuses what is not between
1 and 65535.  The third comes from a setting of its own, which is read as a number of 16 bits, and
there zero passes.  So the ports are valid exactly if that setting does not write zero.

## Main Definitions

* `IsPort` — the numbers of ports
* `Handout.trafficPorts`, `Handout.checkPort?` — the ports in what a reader hands out
* `ChecksZero` — the setting for the health check asks for port zero

## Main Results

* `checkPort_of_readHealthCheck` — where the port of a health check comes from
* `ports_exact` — traffic goes through valid ports, and checks do unless port zero is asked for
* `check_port_zero` — port zero is handed out
-/

namespace BalancerSync.Desired

open Cloud (World HealthCheckOptions)
open Cluster (Service ServicePort)
open Program (Handler)

variable {σ : Type} {service : Service} {port : ServicePort} {protocol : Cloud.Protocol}
  {destination listenPort : Nat} {options : PortOptions} {handout : Handout}

/-- The numbers of ports. -/
def IsPort (n : Nat) : Prop := 1 ≤ n ∧ n ≤ 65535

instance (n : Nat) : Decidable (IsPort n) := inferInstanceAs (Decidable (_ ∧ _))

/-- The ports that traffic takes: the listen port, where a handout names it, and the destination. -/
def Handout.trafficPorts : Handout → List Nat
  | read options => [options.destinationPort]
  | added o => [o.listenPort, o.destinationPort]
  | changed change => change.destinationPort.toList

/-- The port that is checked, if a handout says so. -/
def Handout.checkPort? : Handout → Option Nat
  | read options => options.healthCheck.bind (·.port)
  | added o => o.healthCheck.bind (·.port)
  | changed change => change.healthCheck.bind (·.port)

/-- The Service asks for a health check on port zero, in whatever way it writes zero. -/
def ChecksZero (service : Service) : Prop :=
  ∃ value, Setting.healthCheckPort.raw? service = some value ∧
    Text.Writes (Text.trimmed value).toList 0

/-! ### Traffic -/

theorem isPort_of_validPort {n : Int} {what : String} {p : Nat} (h : validPort n what = .ok p) :
    IsPort p := by
  rw [validPort] at h
  split at h
  · have hp := Except.ok.inj h
    exact ⟨by omega, by omega⟩
  · cases h

theorem isPort_of_destinationPort (h : Desired.destinationPort port listenPort = .ok destination) :
    IsPort destination := by
  rw [Desired.destinationPort] at h
  split at h
  · exact isPort_of_validPort h
  · cases h

/-- Every form of the wishes sends traffic to the same place. -/
theorem mem_trafficPorts_form {d : Demand} {n : Nat}
    (h : n ∈ (d.form listenPort options).trafficPorts) :
    n = listenPort ∨ n = options.destinationPort := by
  cases d with
  | extract => exact .inr (List.mem_singleton.1 h)
  | newService =>
    have h : n ∈ [listenPort, options.destinationPort] := h
    simpa using h
  | change => exact .inr (List.mem_singleton.1 h)

theorem checkPort?_form (d : Demand) :
    (d.form listenPort options).checkPort? = options.healthCheck.bind (·.port) := by
  cases d <;> rfl

/-! ### Health checks -/

theorem parseNatural_eq_ok_iff {max n : Nat} {s : String} :
    Setting.parseNatural max s = .ok n ↔ Text.natural? max s = some n := by
  rw [Setting.parseNatural]
  cases Text.natural? max s <;> simp

/-- The port of a health check is the one that is set, or else the destination.  There is a health
check if a port is set. -/
theorem checkPort_of_readHealthCheck {check? : Option HealthCheckOptions}
    (h : readHealthCheck service protocol destination = .ok check?) :
    ∃ set?, Setting.healthCheckPort.natural 65535 service = .ok set? ∧
      (check?.bind (·.port) = some (set?.getD destination) ∨ set? = none ∧ check? = none) := by
  rw [readHealthCheck] at h
  split at h
  · obtain ⟨checkProtocol, -, h⟩ := bind_eq_ok.1 h
    obtain ⟨set?, hset, h⟩ := bind_eq_ok.1 h
    obtain ⟨interval, -, h⟩ := bind_eq_ok.1 h
    obtain ⟨timeout, -, h⟩ := bind_eq_ok.1 h
    obtain ⟨retries, -, h⟩ := bind_eq_ok.1 h
    obtain ⟨domain, -, h⟩ := bind_eq_ok.1 h
    obtain ⟨path, -, h⟩ := bind_eq_ok.1 h
    obtain ⟨tls, -, h⟩ := bind_eq_ok.1 h
    obtain ⟨statusCodes, -, h⟩ := bind_eq_ok.1 h
    cases h
    exact ⟨set?, hset, .inl rfl⟩
  · -- Nothing is set for the health check, so its port is not set either.
    rename_i hunset
    have hopen : Setting.healthCheckPort.isSet service = false := by
      by_contra hset
      refine hunset (List.any_eq_true.2 ⟨.healthCheckPort, by decide, ?_⟩)
      simpa using hset
    cases h
    exact ⟨none, Setting.read_of_not_isSet hopen _, .inr ⟨rfl, rfl⟩⟩

/-- A port that is set is a number of 16 bits, and it is zero exactly if zero is written. -/
theorem set_port_cases {set? : Option Nat}
    (h : Setting.healthCheckPort.natural 65535 service = .ok set?) :
    (∀ n ∈ set?, n ≤ 65535) ∧ (set? = some 0 ↔ ChecksZero service) := by
  cases set? with
  | none =>
    have hraw : Setting.healthCheckPort.raw? service = none := Setting.read_eq_none_iff.1 h
    refine ⟨nofun, iff_of_false nofun ?_⟩
    rintro ⟨value, hvalue, -⟩
    rw [hraw] at hvalue
    cases hvalue
  | some n =>
    -- A text writes no more than one number, so zero is read exactly where zero is written.
    obtain ⟨value, hvalue, hparse⟩ := Setting.read_eq_some_iff.1 h
    obtain ⟨⟨hwrites, -⟩, hmax⟩ := Text.natural?_eq_some_iff.1 (parseNatural_eq_ok_iff.1 hparse)
    refine ⟨by rintro _ ⟨⟩; exact hmax, ?_, ?_⟩
    · rintro ⟨⟩
      exact ⟨value, hvalue, hwrites⟩
    · rintro ⟨value', hvalue', hzero⟩
      obtain rfl : value = value' := Option.some.inj (hvalue.symm.trans hvalue')
      rw [Int.ofNat_inj.1 (hwrites.unique hzero)]

/-- The port of a health check is valid unless zero is written. -/
theorem isPort_checkPort_iff {check? : Option HealthCheckOptions} (hdestination : IsPort destination)
    (h : readHealthCheck service protocol destination = .ok check?) :
    (∀ n ∈ check?.bind (·.port), IsPort n) ↔ ¬ ChecksZero service := by
  obtain ⟨set?, hset, hport⟩ := checkPort_of_readHealthCheck h
  obtain ⟨hmax, hzero⟩ := set_port_cases hset
  rw [← hzero]
  rcases hport with hport | ⟨rfl, rfl⟩
  · rw [hport]
    simp only [Option.mem_some_iff, forall_eq']
    cases set? with
    | none => simpa using hdestination
    | some n =>
      have := hmax n rfl
      simp only [Option.getD_some, IsPort, Option.some.injEq]
      omega
  · simp

/-! ### What is handed out -/

/-- A reader has a valid listen port, and so has the traffic in everything that it hands out,
however its lookups are answered.  The health check in it has a valid port, too, exactly if the
Service does not ask for port zero. -/
theorem ports_exact {reader : PortReader} {handle : Handler Cloud.effect σ}
    {calls : List (Demand × σ)} {x : Serving} (hreader : PortReader.ofPort service port = .ok reader)
    (hx : x ∈ reader.serve handle calls) (hok : x.outcome = .ok handout) :
    IsPort reader.listenPort ∧ (∀ n ∈ handout.trafficPorts, IsPort n) ∧
      ((∀ n ∈ handout.checkPort?, IsPort n) ↔ ¬ ChecksZero service) := by
  obtain ⟨listenPort, hvalid, hreader⟩ := bind_eq_ok.1 hreader
  cases hreader
  obtain ⟨options, hyields, rfl⟩ := PortReader.exists_yields_of_mem_serve rfl hx hok
  have hfound := PortOptions.found_of_yields hyields
  have hlisten : IsPort listenPort := isPort_of_validPort hvalid
  have hdestination := isPort_of_destinationPort hfound.destinationPort
  refine ⟨hlisten, fun n hn => ?_, ?_⟩
  · rcases mem_trafficPorts_form hn with rfl | rfl
    · exact hlisten
    · exact hdestination
  · rw [checkPort?_form]
    exact isPort_checkPort_iff hdestination hfound.healthCheck

namespace Sample

/-- What a Service wants of its port if it says no more than which port is to be checked. -/
def checking (n : Nat) : PortOptions :=
  ⟨30443, .tcp, false, none, some ⟨some .tcp, some n, none, none, none, none⟩⟩

end Sample

/-- A port is read with blanks around it, a sign and leading zeros. -/
theorem ports_exact_sample :
    ∃ reader x,
      PortReader.ofPort (Sample.withSettings [(Setting.healthCheckPort.key, " +08080 ")])
        ⟨443, some 30443⟩ = .ok reader ∧
      x ∈ reader.serve World.handle [(.change, PortReader.Sample.world)] ∧
      x.outcome = .ok (.changed (Sample.checking 8080).change) ∧
      IsPort reader.listenPort ∧
      (∀ n ∈ (Handout.changed (Sample.checking 8080).change).trafficPorts, IsPort n) ∧
      ¬ ChecksZero (Sample.withSettings [(Setting.healthCheckPort.key, " +08080 ")]) := by
  obtain ⟨x, hx, hok⟩ := Sample.exists_served [(Setting.healthCheckPort.key, " +08080 ")]
    (Sample.checking 8080) .change (by decide +kernel)
  have hreader : PortReader.ofPort (Sample.withSettings [(Setting.healthCheckPort.key, " +08080 ")])
      ⟨443, some 30443⟩ = .ok ⟨_, ⟨443, some 30443⟩, 443, .pending⟩ := rfl
  obtain ⟨hlisten, htraffic, hcheck⟩ := ports_exact hreader hx hok
  exact ⟨_, x, hreader, hx, hok, hlisten, htraffic, hcheck.1 (by decide)⟩

/-- Nobody refuses a health check on port zero. -/
theorem check_port_zero :
    ∃ reader x o,
      PortReader.ofPort (Sample.withSettings [(Setting.healthCheckPort.key, "0")])
        ⟨443, some 30443⟩ = .ok reader ∧
      x ∈ reader.serve World.handle [(.newService, PortReader.Sample.world)] ∧
      x.outcome = .ok (.added o) ∧
      (Handout.added o).checkPort? = some 0 ∧ ¬ IsPort 0 := by
  obtain ⟨x, hx, hok⟩ := Sample.exists_served [(Setting.healthCheckPort.key, "0")]
    (Sample.checking 0) .newService (by decide +kernel)
  exact ⟨_, x, _, rfl, hx, hok, rfl, by decide⟩

end BalancerSync.Desired
