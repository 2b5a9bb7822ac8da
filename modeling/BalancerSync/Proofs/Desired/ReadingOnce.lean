import BalancerSync.Proofs.Desired.Readers

/-!
# Reading once

A reader is asked for the wishes of its port again and again: to read them, to hand them out for
adding a service, or for changing one.  Between two demands anything can happen to the certificates.
A reader that has read does not notice, as it answers from what it remembers, whether that is the
wishes or the reason why there are none.

Nothing is assumed about the cloud.  Its requests are answered by an arbitrary handler, and each
demand is met from a state of its own, which need not be the one that the demand before has left.

## Main Definitions

* `PortReader.answer` — what a reader does on a demand
* `PortReader.memory?` — what a reader that has read answers from
* `PortReader.serve` — demands one after the other

## Main Results

* `PortReader.serve_of_memory` — what is remembered is handed out for good
* `PortReader.exists_yields_of_mem_serve` — nothing is handed out but what was read
* `PortReader.first_reading_lasts` — the first demand decides what all the later ones get, and makes
  all the lookups
-/

namespace BalancerSync.Desired

open Cloud (World)
open Cluster (Service ServicePort)
open Program (Asks Handler Moment)

/-- What a reader is asked for. -/
inductive Demand where
  | extract
  | newService
  | change
  deriving DecidableEq, Repr

/-- What a reader hands out. -/
inductive Handout where
  | read (options : PortOptions)
  | added (o : Cloud.NewService)
  | changed (c : Cloud.ServiceChange)
  deriving DecidableEq, Repr

/-- The one of three forms that is asked for. -/
def Demand.pick (options : PortOptions) (added : Cloud.NewService)
    (changed : Cloud.ServiceChange) : Demand → Handout
  | .extract => .read options
  | .newService => .added added
  | .change => .changed changed

/-- The wishes in the form that is asked for. -/
def Demand.form (listenPort : Nat) (options : PortOptions) : Demand → Handout :=
  Demand.pick options (options.newService listenPort) options.change

/-- A demand, with what came of it and the requests that it took. -/
structure Serving where
  demand : Demand
  outcome : Except Error Handout
  requests : List Cloud.Request

/-- A lookup of a certificate by its name, with a limit to the time that it may take. -/
def IsLookup (q : Cloud.Request) : Prop :=
  ∃ name, q = .callWithin certificateTimeout (.getCertificate name)

/-! ### The requests of reading -/

theorem asks_resolveCertificates (references : List String) :
    (resolveCertificates references).Asks IsLookup := by
  induction references with
  | nil => exact .done _
  | cons r rs ih =>
    exact ((asks_lookup r).mono fun _ hq => ⟨r, hq⟩).bind fun id => ih.bind fun ids => .done _

theorem asks_readCertificates (service : Service) :
    (readCertificates service).Asks IsLookup := by
  refine .bind (.ofExcept _) fun references? => ?_
  cases references? with
  | none => exact .done _
  | some references => exact ((asks_resolveCertificates references).within _).bind fun _ => .done _

theorem asks_extract (service : Service) (port : ServicePort) (listenPort : Nat) :
    (PortOptions.extract service port listenPort).Asks IsLookup :=
  .bind (.ofExcept _) fun _ => .bind (.ofExcept _) fun _ => .bind (.ofExcept _) fun _ =>
    .bind (.ofExcept _) fun _ => .bind (.ofExcept _) fun _ =>
    (asks_readCertificates service).bind fun _ => .bind (.ofExcept _) fun _ =>
    .bind (.ofExcept _) fun _ => .bind (.ofExcept _) fun _ => .done _

namespace PortReader

variable {σ : Type} {service : Service} {port : ServicePort} {reader : PortReader} {s : σ}

/-! ### One demand -/

/-- What a reader does on a demand. -/
def answer (r : PortReader) : Demand → Cloud.Operation (Except Error Handout × PortReader)
  | .extract => do
    let (outcome, later) ← r.extract
    return (outcome.map .read, later)
  | .newService => do
    let (outcome, later) ← r.newService
    return (outcome.map .added, later)
  | .change => do
    let (outcome, later) ← r.change
    return (outcome.map .changed, later)

/-- What a reader that has read answers from. -/
def memory? (r : PortReader) : Option (Except Error PortOptions) :=
  match r.extraction with
  | .pending => none
  | .done options => some (.ok options)
  | .failed reason => some (.error (r.remembered reason))

/-- The reader after reading with this outcome; of an error it keeps the text. -/
def remember (r : PortReader) : Except Error PortOptions → PortReader
  | .ok options => { r with extraction := .done options }
  | .error e => { r with extraction := .failed e.message }

/-- All the forms come from one and the same reading. -/
theorem answer_eq (r : PortReader) (d : Demand) :
    r.answer d = r.extract.bind fun read =>
      .result (read.1.map fun o => d.form r.listenPort o, read.2) := by
  cases d with
  | extract => rfl
  | newService =>
    simp only [answer, newService, Program.bind_eq, Program.bind_assoc]
    congr 1
    funext read
    obtain ⟨outcome, later⟩ := read
    cases outcome <;> rfl
  | change =>
    simp only [answer, change, Program.bind_eq, Program.bind_assoc]
    congr 1
    funext read
    obtain ⟨outcome, later⟩ := read
    cases outcome <;> rfl

/-- A reader that has read makes no request, and stays as it is. -/
theorem answer_of_memory {m : Except Error PortOptions} (h : reader.memory? = some m)
    (d : Demand) :
    reader.answer d = .result (m.map fun o => d.form reader.listenPort o, reader) := by
  have hextract : reader.extract = .result (m, reader) := by
    obtain ⟨service, port, listenPort, extraction⟩ := reader
    cases extraction with
    | pending => cases h
    | done options =>
      cases h
      rfl
    | failed reason =>
      cases h
      rfl
  rw [answer_eq, hextract]
  rfl

/-- A fresh reader reads, and remembers what it has found. -/
theorem answer_of_pending (h : reader.extraction = .pending) (d : Demand) :
    reader.answer d =
      (PortOptions.extract reader.service reader.port reader.listenPort).attempt.bind fun outcome =>
        .result (outcome.map fun o => d.form reader.listenPort o, reader.remember outcome) := by
  rw [answer_eq, extract, h]
  simp only [Program.bind_eq, Program.bind_assoc]
  congr 1
  funext outcome
  cases outcome <;> rfl

/-! ### Demands one after the other -/

/-- Meets demands one after the other, each from a state of its own. -/
def serve (handle : Handler Cloud.effect σ) (r : PortReader) : List (Demand × σ) → List Serving
  | [] => []
  | (d, s) :: calls =>
    let requests := ((r.answer d).moments handle s).map Moment.request
    match ((r.answer d).run handle s).1 with
    | .ok (outcome, later) => ⟨d, outcome, requests⟩ :: later.serve handle calls
    | .error e => ⟨d, .error e, requests⟩ :: r.serve handle calls

/-- What is remembered is handed out for good, without any request. -/
theorem serve_of_memory {m : Except Error PortOptions} (h : reader.memory? = some m)
    (handle : Handler Cloud.effect σ) (calls : List (Demand × σ)) :
    reader.serve handle calls =
      calls.map fun c => ⟨c.1, m.map fun o => c.1.form reader.listenPort o, []⟩ := by
  induction calls with
  | nil => rfl
  | cons c calls ih =>
    obtain ⟨d, s⟩ := c
    simp only [serve, answer_of_memory h, Program.result, Program.run_done, Program.moments_done,
      List.map_nil, List.map_cons, ih]

/-- A reader that has just read remembers the outcome, with the port in front of an error. -/
theorem memory?_remember (r : PortReader) (outcome : Except Error PortOptions) :
    (r.remember outcome).memory? = some (outcome.mapError fun e => r.remembered e.message) := by
  cases outcome <;> rfl

/-- The first demand is met by reading, and each later one from what was found. -/
theorem serve_of_pending (h : reader.extraction = .pending) (handle : Handler Cloud.effect σ)
    (d : Demand) (s : σ) (calls : List (Demand × σ)) {outcome : Except Error PortOptions}
    (houtcome :
      ((PortOptions.extract reader.service reader.port reader.listenPort).run handle s).1 =
        outcome) :
    reader.serve handle ((d, s) :: calls) =
      ⟨d, outcome.map fun o => d.form reader.listenPort o,
        ((PortOptions.extract reader.service reader.port reader.listenPort).moments handle s).map
          Moment.request⟩ ::
      calls.map fun c =>
        ⟨c.1, (outcome.mapError fun e => reader.remembered e.message).map
          fun o => c.1.form reader.listenPort o, []⟩ := by
  have hrun : ((reader.answer d).run handle s).1 =
      .ok (outcome.map fun o => d.form reader.listenPort o, reader.remember outcome) := by
    rw [answer_of_pending h, Program.run_bind, Program.run_attempt, houtcome]
    rfl
  have hmoments : (reader.answer d).moments handle s =
      (PortOptions.extract reader.service reader.port reader.listenPort).moments handle s := by
    rw [answer_of_pending h, Program.moments_bind, Program.run_attempt, Program.moments_attempt]
    exact List.append_nil _
  have hport : (reader.remember outcome).listenPort = reader.listenPort := by
    cases outcome <;> rfl
  simp only [serve, hrun, hmoments, serve_of_memory (memory?_remember reader outcome), hport]

/-- What a reader hands out is what it has read, in the form that was asked for. -/
theorem exists_yields_of_mem_serve (h : reader.extraction = .pending)
    {handle : Handler Cloud.effect σ} {calls : List (Demand × σ)} {x : Serving}
    (hx : x ∈ reader.serve handle calls) {handout : Handout} (hok : x.outcome = .ok handout) :
    ∃ options, (PortOptions.extract reader.service reader.port reader.listenPort).Yields options ∧
      handout = x.demand.form reader.listenPort options := by
  cases calls with
  | nil => cases hx
  | cons c calls =>
    obtain ⟨d, s⟩ := c
    cases houtcome :
        ((PortOptions.extract reader.service reader.port reader.listenPort).run handle s).1 with
    | error e =>
      rw [serve_of_pending h handle d s calls houtcome] at hx
      rcases List.mem_cons.1 hx with rfl | hx
      · cases hok
      · obtain ⟨c, -, rfl⟩ := List.mem_map.1 hx
        cases hok
    | ok options =>
      refine ⟨options, Program.yields_of_run houtcome, ?_⟩
      rw [serve_of_pending h handle d s calls houtcome] at hx
      rcases List.mem_cons.1 hx with rfl | hx
      · cases hok
        rfl
      · obtain ⟨c, -, rfl⟩ := List.mem_map.1 hx
        cases hok
        rfl

/-- The reader of a valid port reads on the first demand, by lookups of certificates, and makes no
request on any later one.  If the first demand is met, then so are all, with the same wishes in the
form that is asked for, and the forms for adding and for changing agree.  If it fails, then so do
all the later ones, with the port and the text of its error. -/
theorem first_reading_lasts (handle : Handler Cloud.effect σ) (service : Service)
    (port : ServicePort) (hport : 0 < port.port ∧ port.port ≤ 65535) :
    ∃ reader, PortReader.ofPort service port = .ok reader ∧
      ∀ (d : Demand) (s : σ) (calls : List (Demand × σ)),
        let reading := PortOptions.extract service port reader.listenPort
        ∃ first later, reader.serve handle ((d, s) :: calls) = first :: later ∧
          first.demand = d ∧ later.map Serving.demand = calls.map Prod.fst ∧
          (∀ q ∈ first.requests, IsLookup q) ∧
          (∀ x ∈ later, x.requests = []) ∧
          (∀ handout, first.outcome = .ok handout →
            ∃ options added changed, (reading.run handle s).1 = .ok options ∧
              (∀ x ∈ first :: later, x.outcome = .ok (x.demand.pick options added changed)) ∧
              added.listenPort = port.port ∧
              changed.protocol = some added.protocol ∧
              changed.destinationPort = some added.destinationPort ∧
              changed.proxyProtocol = some added.proxyProtocol ∧
              changed.http = added.http ∧
              changed.healthCheck = added.healthCheck) ∧
          ∀ e, first.outcome = .error e →
            (reading.run handle s).1 = .error e ∧
            ∀ x ∈ later, x.outcome =
              .error (.validation ("port " ++ toString port.port ++ ": " ++ e.message)) := by
  have hvalid : validPort port.port "port" = .ok port.port.toNat := if_pos hport
  have hnat : (port.port.toNat : Int) = port.port := by omega
  refine ⟨⟨service, port, port.port.toNat, .pending⟩, ?_, fun d s calls => ?_⟩
  · rw [ofPort, hvalid]
    rfl
  intro reading
  -- Later demands are served from the outcome of the first, so only its requests are looked at.
  have hlookups : ∀ q ∈ (reading.moments handle s).map Moment.request, IsLookup q := by
    intro q hq
    obtain ⟨m, hm, rfl⟩ := List.mem_map.1 hq
    exact ((asks_extract service port _).moments (I := fun _ => True) (fun _ _ _ _ => trivial)
      trivial m hm).1
  cases houtcome : (reading.run handle s).1 with
  | ok options =>
    refine ⟨_, _, serve_of_pending rfl handle d s calls houtcome, rfl, by simp, hlookups,
      List.forall_mem_map.2 fun _ _ => rfl, fun _ _ => ?_, fun e he => ?_⟩
    · exact ⟨options, options.newService _, options.change, rfl,
        List.forall_mem_cons.2 ⟨rfl, List.forall_mem_map.2 fun _ _ => rfl⟩,
        hnat, rfl, rfl, rfl, rfl, rfl⟩
    · cases he
  | error e =>
    refine ⟨_, _, serve_of_pending rfl handle d s calls houtcome, rfl, by simp, hlookups,
      List.forall_mem_map.2 fun _ _ => rfl, fun _ h => ?_, fun _ he => ?_⟩
    · cases h
    · cases he
      rw [← hnat]
      exact ⟨rfl, List.forall_mem_map.2 fun _ _ => rfl⟩

namespace Sample

/-- The world of the sample, in which the lookup of a certificate is never answered. -/
def mute : World := { world with script := { Cloud.Script.none with silent := ["main"] } }

end Sample

/-- A reader whose first lookup is answered keeps the wishes, though no later lookup would be; one
whose first lookup is not answered keeps the error, though every later lookup would be. -/
theorem first_reading_lasts_sample :
    (0 < (443 : Int) ∧ (443 : Int) ≤ 65535) ∧
      ∃ reader, PortReader.ofPort Sample.secure ⟨443, some 30443⟩ = .ok reader ∧
        (∃ first later options changed,
          reader.serve World.handle [(.newService, Sample.world), (.change, Sample.mute),
            (.extract, Sample.mute)] = first :: later ∧
          first.outcome = .ok (.added (Sample.wanted.newService 443)) ∧
          ∀ x ∈ first :: later, x.outcome =
            .ok (x.demand.pick options (Sample.wanted.newService 443) changed)) ∧
        ∃ first later e,
          reader.serve World.handle [(.change, Sample.mute), (.newService, Sample.world),
            (.extract, Sample.world)] = first :: later ∧
          first.outcome = .error e ∧
          ∀ x ∈ later, x.requests = [] ∧
            x.outcome = .error (.validation ("port 443: " ++ e.message)) := by
  have hport : 0 < (443 : Int) ∧ (443 : Int) ≤ 65535 := by decide
  obtain ⟨reader, hreader, hserve⟩ :=
    first_reading_lasts World.handle Sample.secure ⟨443, some 30443⟩ hport
  cases hreader
  refine ⟨hport, _, rfl, ?_, ?_⟩
  · obtain ⟨first, later, hall, hdemand, -, -, -, hok, -⟩ := hserve .newService Sample.world
      [(.change, Sample.mute), (.extract, Sample.mute)]
    have hfirst : first.outcome = .ok (.added (Sample.wanted.newService 443)) := by
      have hhead : ((serve World.handle ⟨Sample.secure, ⟨443, some 30443⟩, 443, .pending⟩
          [(.newService, Sample.world), (.change, Sample.mute), (.extract, Sample.mute)]).head?.map
            Serving.outcome) = some (.ok (.added (Sample.wanted.newService 443))) := by
        decide +kernel
      exact Option.some.inj
        ((congrArg (fun l => l.head?.map Serving.outcome) hall).symm.trans hhead)
    obtain ⟨options, added, changed, -, houtcomes, -⟩ := hok _ hfirst
    obtain rfl : added = Sample.wanted.newService 443 := by
      have h := houtcomes first List.mem_cons_self
      rw [hfirst, hdemand] at h
      cases h
      rfl
    exact ⟨first, later, options, changed, hall, hfirst, houtcomes⟩
  · obtain ⟨first, later, hall, -, -, -, hrequests, -, herror⟩ := hserve .change Sample.mute
      [(.newService, Sample.world), (.extract, Sample.world)]
    cases houtcome : first.outcome with
    | ok handout =>
      have hhead : ((serve World.handle ⟨Sample.secure, ⟨443, some 30443⟩, 443, .pending⟩
          [(.change, Sample.mute), (.newService, Sample.world), (.extract, Sample.world)]).head?.map
            fun x => x.outcome.isOk) = some false := by
        decide +kernel
      have h := (congrArg (fun l => l.head?.map fun x => x.outcome.isOk) hall).symm.trans hhead
      simp [houtcome, Except.isOk, Except.toBool] at h
    | error e =>
      exact ⟨first, later, e, hall, houtcome, fun x hx =>
        ⟨hrequests x hx, (herror e houtcome).2 x hx⟩⟩

end PortReader

end BalancerSync.Desired
