import BalancerSync.Proofs.Desired.Readers
import Mathlib.Data.List.Nodup

/-!
# The order of reading

Reading the wishes for a port stops at the first thing that is malformed.  What comes first is
fixed: the node port, the settings of the service, and after them those of its health check.
Somewhere in between the certificates are looked up, which is the only stage that makes requests.

`Stage.reading` says of each stage alone when it fails.  A health check is only read if one of its
settings is present, yet a setting that is absent cannot fail either, so that each of its stages may
be taken to be read always.  With this, reading fails as the stages in their order do, and what
stages do depends on their settings.

## Main Definitions

* `Program.forEach` — programs in a row, which stop at the first that fails
* `Stage.order` — the stages in their order
* `Stage.settings`, `Stage.reading` — what a stage reads, and how it fails

## Main Results

* `Program.exists_first_of_run_forEach` — a row that fails has a first program that does
* `bind_extract_eq_forEach` — reading is the row of its stages
* `extract_error_of_agree` — the first malformed setting hides all that comes after it
-/

namespace BalancerSync.Program

variable {E : Effect} {ι σ : Type} {f g : ι → Program E Unit} {handle : Handler E σ} {s t u : σ}
  {e : Error}

/-- Programs in a row, which stop at the first that fails. -/
def forEach (f : ι → Program E Unit) : List ι → Program E Unit
  | [] => result ()
  | x :: xs => (f x).bind fun _ => forEach f xs

theorem forEach_append (f : ι → Program E Unit) (xs ys : List ι) :
    forEach f (xs ++ ys) = (forEach f xs).bind fun _ => forEach f ys := by
  induction xs with
  | nil => rfl
  | cons x xs ih => simp only [List.cons_append, forEach, ih, bind_assoc]

theorem forEach_congr {xs : List ι} (h : ∀ x ∈ xs, f x = g x) : forEach f xs = forEach g xs := by
  induction xs with
  | nil => rfl
  | cons x xs ih =>
    obtain ⟨hx, hxs⟩ := List.forall_mem_cons.1 h
    simp only [forEach, hx, ih hxs]

/-- A row that fails has a first program that does, after others that have not. -/
theorem exists_first_of_run_forEach {xs : List ι}
    (h : (forEach f xs).run handle s = (.error e, t)) :
    ∃ earlier x later u, xs = earlier ++ x :: later ∧
      (forEach f earlier).run handle s = (.ok (), u) ∧ (f x).run handle u = (.error e, t) := by
  induction xs generalizing s with
  | nil => cases h
  | cons x xs ih =>
    rw [forEach, run_bind] at h
    cases hx : (f x).run handle s with
    | mk outcome v =>
      rw [hx] at h
      cases outcome with
      | error e' =>
        cases h
        exact ⟨[], x, xs, s, rfl, rfl, hx⟩
      | ok a =>
        obtain ⟨earlier, y, later, u, rfl, hearlier, hy⟩ := ih h
        refine ⟨x :: earlier, y, later, u, rfl, ?_, hy⟩
        rw [forEach, run_bind, hx]
        exact hearlier

/-- A row that has failed does not get to what comes later. -/
theorem run_forEach_append_of_error {xs : List ι} (ys : List ι)
    (h : (forEach f xs).run handle s = (.error e, t)) :
    (forEach f (xs ++ ys)).run handle s = (.error e, t) ∧
      (forEach f (xs ++ ys)).moments handle s = (forEach f xs).moments handle s := by
  constructor
  · rw [forEach_append, run_bind, h]
  · rw [forEach_append, moments_bind, h]
    exact List.append_nil _

/-- A row that ends with its first failure. -/
theorem run_forEach_concat {xs : List ι} {x : ι} (hxs : (forEach f xs).run handle s = (.ok (), u))
    (hx : (f x).run handle u = (.error e, t)) :
    (forEach f (xs ++ [x])).run handle s = (.error e, t) := by
  rw [forEach_append, run_bind, hxs]
  show ((f x).bind _).run handle u = _
  rw [run_bind, hx]

end BalancerSync.Program

namespace BalancerSync.Desired

open Cloud (Operation World)
open Cluster (Service ServicePort)
open Program (Handler)

/-- What can be malformed in the wishes for a port. -/
inductive Stage where
  | nodePort
  | proxyProtocol
  | protocol
  | cookieName
  | cookieLifetime
  | certificates
  | redirectHttp
  | stickySessions
  | checkProtocol
  | checkPort
  | checkInterval
  | checkTimeout
  | checkRetries
  | checkHttp
  deriving DecidableEq, Repr

/-- The outcome of a reader without what it has found. -/
def check {α : Type} (outcome : Except Error α) : Operation Unit :=
  Program.ofExcept (outcome.map fun _ => ())

namespace Stage

/-- The stages in their order. -/
def order : List Stage :=
  [nodePort, proxyProtocol, protocol, cookieName, cookieLifetime, certificates, redirectHttp,
    stickySessions, checkProtocol, checkPort, checkInterval, checkTimeout, checkRetries, checkHttp]

/-- The settings that a stage reads. -/
def settings : Stage → List Setting
  | nodePort => []
  | proxyProtocol => [.usesProxyProtocol]
  | protocol => [.protocol]
  | cookieName => [.httpCookieName]
  | cookieLifetime => [.httpCookieLifetime]
  | certificates => [.httpCertificates]
  | redirectHttp => [.httpRedirectHttp]
  | stickySessions => [.httpStickySessions]
  | checkProtocol => [.healthCheckProtocol]
  | checkPort => [.healthCheckPort]
  | checkInterval => [.healthCheckInterval]
  | checkTimeout => [.healthCheckTimeout]
  | checkRetries => [.healthCheckRetries]
  | checkHttp => [.healthCheckHttpDomain, .healthCheckHttpPath,
      .healthCheckHttpValidateCertificate, .healthCheckHttpStatusCodes]

/-- A stage alone, as far as it can fail. -/
def reading (service : Service) (port : ServicePort) (listenPort : Nat) : Stage → Operation Unit
  | nodePort => check (destinationPort port listenPort)
  | proxyProtocol => check (Setting.usesProxyProtocol.bool service)
  | protocol => check (Setting.protocol.protocolValue service)
  | cookieName => check (Setting.httpCookieName.text service)
  | cookieLifetime => check (Setting.httpCookieLifetime.seconds service)
  | certificates => (readCertificates service).bind fun _ => pure ()
  | redirectHttp => check (Setting.httpRedirectHttp.bool service)
  | stickySessions => check (Setting.httpStickySessions.bool service)
  | checkProtocol => check (Setting.healthCheckProtocol.protocolValue service)
  | checkPort => check (Setting.healthCheckPort.natural 65535 service)
  | checkInterval => check (Setting.healthCheckInterval.seconds service)
  | checkTimeout => check (Setting.healthCheckTimeout.seconds service)
  | checkRetries => check (Setting.healthCheckRetries.natural 4294967295 service)
  | checkHttp => check do
      let _ ← Setting.healthCheckHttpDomain.text service
      let _ ← Setting.healthCheckHttpPath.text service
      let _ ← Setting.healthCheckHttpValidateCertificate.bool service
      Setting.healthCheckHttpStatusCodes.list service

/-- The keys of the settings that a stage reads. -/
def keys (x : Stage) : List String := x.settings.map Setting.key

theorem nodup_order : order.Nodup := by decide

/-- No key is read by two stages. -/
theorem nodup_keys : (order.flatMap keys).Nodup := by decide +kernel

end Stage

variable {service other : Service} {port : ServicePort} {n : Nat} {σ : Type}
  {handle : Handler Cloud.effect σ} {s t : σ} {e : Error}

/-! ### One stage -/

/-- A stage reads its settings, and nothing else of the Service. -/
theorem Stage.reading_congr {x : Stage}
    (h : ∀ setting ∈ x.settings, setting.raw? other = setting.raw? service) :
    x.reading other port n = x.reading service port n := by
  cases x with
  | nodePort => rfl
  | certificates =>
    have hlist := Setting.read_congr (h .httpCertificates (by decide))
      fun v => .ok (Text.listItems v)
    show (readCertificates other).bind _ = (readCertificates service).bind _
    rw [readCertificates, Setting.list, hlist]
    rfl
  | checkHttp =>
    have hdomain := h .healthCheckHttpDomain (by decide)
    have hpath := h .healthCheckHttpPath (by decide)
    have htls := h .healthCheckHttpValidateCertificate (by decide)
    have hcodes := h .healthCheckHttpStatusCodes (by decide)
    simp only [Stage.reading, Setting.text, Setting.bool, Setting.list, Setting.read_congr hdomain,
      Setting.read_congr hpath, Setting.read_congr htls, Setting.read_congr hcodes]
  | _ => exact congrArg check (Setting.read_congr (h _ List.mem_cons_self) _)

/-- Only the certificates take requests. -/
theorem Stage.moments_reading {x : Stage} (h : x ≠ .certificates) :
    (x.reading service port n).moments handle s = [] := by
  cases x with
  | certificates => exact absurd rfl h
  | _ => rfl

/-! ### All stages -/

/-- Where nothing depends on what a reader finds, its check will do. -/
theorem ofExcept_bind_eq {α : Type} {x : Except Error α} {f : α → Operation Unit}
    {rest : Operation Unit} (h : ∀ a, f a = rest) :
    (Program.ofExcept x).bind f = (check x).bind fun _ => rest := by
  cases x with
  | error e => rfl
  | ok a => exact h a

theorem ofExcept_bind {α β : Type} (x : Except Error α) (f : α → Except Error β) :
    (Program.ofExcept (x >>= f) : Operation β) =
      (Program.ofExcept x).bind fun a => Program.ofExcept (f a) := by
  cases x <;> rfl

theorem check_bind {α β : Type} (x : Except Error α) (f : α → Except Error β) :
    check (x >>= f) = (Program.ofExcept x).bind fun a => check (f a) := by
  cases x <;> rfl

/-- A health check fails as its stages do, be it read or not. -/
theorem bind_readHealthCheck_eq_forEach (service : Service) (port : ServicePort) (n : Nat)
    (protocol : Cloud.Protocol) (destination : Nat) :
    (Program.ofExcept (readHealthCheck service protocol destination)).bind
        (fun _ => (pure () : Operation Unit)) =
      Program.forEach (Stage.reading service port n)
        [.checkProtocol, .checkPort, .checkInterval, .checkTimeout, .checkRetries, .checkHttp] := by
  rw [readHealthCheck]
  by_cases hset : Setting.healthCheck.any fun s => s.isSet service
  · rw [if_pos hset]
    simp only [ofExcept_bind, Program.bind_assoc]
    refine ofExcept_bind_eq fun _ => ofExcept_bind_eq fun _ => ofExcept_bind_eq fun _ =>
      ofExcept_bind_eq fun _ => ofExcept_bind_eq fun _ => ?_
    simp only [Program.forEach, Stage.reading, check_bind, Program.bind_assoc]
    exact congrArg _ (funext fun _ => congrArg _ (funext fun _ => congrArg _ (funext fun _ =>
      ofExcept_bind_eq fun _ => rfl)))
  · -- No setting of the health check is present, so each of its stages finds nothing.
    have hnone : ∀ setting ∈ Setting.healthCheck, ∀ {α : Type} (parse : String → Except String α),
        setting.read parse service = .ok none := by
      intro setting hsetting α parse
      refine Setting.read_of_not_isSet ?_ parse
      cases h : setting.isSet service with
      | false => rfl
      | true => exact absurd (List.any_eq_true.2 ⟨setting, hsetting, h⟩) hset
    rw [if_neg hset]
    simp only [Program.forEach, Stage.reading, Setting.protocolValue, Setting.natural,
      Setting.seconds, Setting.text, Setting.bool, Setting.list,
      hnone .healthCheckProtocol (by decide), hnone .healthCheckPort (by decide),
      hnone .healthCheckInterval (by decide), hnone .healthCheckTimeout (by decide),
      hnone .healthCheckRetries (by decide), hnone .healthCheckHttpDomain (by decide),
      hnone .healthCheckHttpPath (by decide),
      hnone .healthCheckHttpValidateCertificate (by decide),
      hnone .healthCheckHttpStatusCodes (by decide)]
    rfl

/-- Reading fails as its stages do in their order, with the same requests. -/
theorem bind_extract_eq_forEach (service : Service) (port : ServicePort) (n : Nat) :
    (PortOptions.extract service port n).bind (fun _ => (pure () : Operation Unit)) =
      Program.forEach (Stage.reading service port n) Stage.order := by
  simp only [PortOptions.extract, Program.bind_eq, Program.bind_assoc]
  refine ofExcept_bind_eq fun destination => ofExcept_bind_eq fun _ =>
    ofExcept_bind_eq fun protocol => ofExcept_bind_eq fun _ => ofExcept_bind_eq fun _ => ?_
  simp only [Program.forEach, Stage.reading, Program.bind_assoc]
  refine congrArg _ (funext fun _ => ofExcept_bind_eq fun _ => ofExcept_bind_eq fun _ => ?_)
  exact bind_readHealthCheck_eq_forEach service port n _ destination

/-- Reading fails exactly when its stages do. -/
theorem run_extract_eq_error_iff :
    (PortOptions.extract service port n).run handle s = (.error e, t) ↔
      (Program.forEach (Stage.reading service port n) Stage.order).run handle s =
        (.error e, t) := by
  rw [← bind_extract_eq_forEach, Program.run_bind]
  rcases (PortOptions.extract service port n).run handle s with ⟨outcome | outcome, u⟩ <;> simp

theorem moments_extract (handle : Handler Cloud.effect σ) (s : σ) :
    (PortOptions.extract service port n).moments handle s =
      (Program.forEach (Stage.reading service port n) Stage.order).moments handle s := by
  rw [← bind_extract_eq_forEach, Program.moments_bind]
  rcases (PortOptions.extract service port n).run handle s with ⟨outcome | outcome, u⟩ <;> simp

/-- Stages without the certificates take no request. -/
theorem moments_forEach_eq_nil {stages : List Stage} (h : Stage.certificates ∉ stages) :
    (Program.forEach (Stage.reading service port n) stages).moments handle s = [] := by
  induction stages generalizing s with
  | nil => rfl
  | cons x xs ih =>
    have hx : x ≠ .certificates := fun heq => h (heq ▸ List.mem_cons_self)
    rw [Program.forEach, Program.moments_bind, Stage.moments_reading hx]
    split
    · exact ih fun hxs => h (List.mem_cons_of_mem x hxs)
    · rfl

/-- The first stage that fails decides alone: a Service with the same settings up to there fails in
the same way, after the same requests at the same moments. -/
theorem extract_error_congr {earlier later : List Stage} {stage : Stage} {u : σ}
    (horder : Stage.order = earlier ++ stage :: later)
    (hearlier : (Program.forEach (Stage.reading service port n) earlier).run handle s = (.ok (), u))
    (hstage : (stage.reading service port n).run handle u = (.error e, t))
    (hagree : ∀ x ∈ earlier ++ [stage], ∀ setting ∈ x.settings,
      setting.raw? other = setting.raw? service) :
    (PortOptions.extract other port n).run handle s = (.error e, t) ∧
      (PortOptions.extract other port n).moments handle s =
        (Program.forEach (Stage.reading service port n) (earlier ++ [stage])).moments handle s := by
  have hupto : Stage.order = (earlier ++ [stage]) ++ later := by
    rw [horder, List.append_assoc, List.singleton_append]
  have hsame : Program.forEach (Stage.reading other port n) (earlier ++ [stage]) =
      Program.forEach (Stage.reading service port n) (earlier ++ [stage]) :=
    Program.forEach_congr fun x hx => Stage.reading_congr (hagree x hx)
  have hfirst := Program.run_forEach_concat hearlier hstage
  rw [← hsame] at hfirst ⊢
  rw [run_extract_eq_error_iff, moments_extract, hupto]
  exact Program.run_forEach_append_of_error later hfirst

/-- Where reading fails, a stage of its order is the first that does, after all the earlier ones
have gone well.  However the keys of the later stages are set, changed or removed, reading fails in
the same way, after the same requests at the same moments.  There are none if the certificates are
among the later stages. -/
theorem extract_error_of_agree
    (h : (PortOptions.extract service port n).run handle s = (.error e, t)) :
    ∃ earlier stage later, Stage.order = earlier ++ stage :: later ∧
      (∃ u, (Program.forEach (Stage.reading service port n) earlier).run handle s = (.ok (), u) ∧
        (stage.reading service port n).run handle u = (.error e, t)) ∧
      (∀ other : Service,
        (∀ key, (∀ x ∈ later, key ∉ x.keys) →
          other.metadata.annotations.get? key = service.metadata.annotations.get? key) →
        (PortOptions.extract other port n).run handle s = (.error e, t) ∧
          (PortOptions.extract other port n).moments handle s =
            (PortOptions.extract service port n).moments handle s) ∧
      (.certificates ∈ later → (PortOptions.extract service port n).moments handle s = []) := by
  obtain ⟨earlier, stage, later, u, horder, hearlier, hstage⟩ :=
    Program.exists_first_of_run_forEach (run_extract_eq_error_iff.1 h)
  have hupto : Stage.order = (earlier ++ [stage]) ++ later := by
    rw [horder, List.append_assoc, List.singleton_append]
  obtain ⟨-, hmoments⟩ := extract_error_congr horder hearlier hstage fun _ _ _ _ => rfl
  refine ⟨earlier, stage, later, horder, ⟨u, hearlier, hstage⟩, fun other hagree => ?_,
    fun hlater => ?_⟩
  · rw [hmoments]
    refine extract_error_congr horder hearlier hstage fun x hx setting hsetting => hagree _ ?_
    -- A key belongs to one stage only.
    intro y hy hkey
    have hkeys := Stage.nodup_keys
    rw [hupto, List.flatMap_append] at hkeys
    exact List.disjoint_of_nodup_append hkeys
      (List.mem_flatMap.2 ⟨x, hx, List.mem_map_of_mem hsetting⟩) (List.mem_flatMap.2 ⟨y, hy, hkey⟩)
  · rw [hmoments]
    refine moments_forEach_eq_nil fun hmem => ?_
    have hnodup := Stage.nodup_order
    rw [hupto] at hnodup
    exact List.disjoint_of_nodup_append hnodup hmem hlater

namespace Sample

/-- A Service whose first certificate is there, and whose second one is not. -/
def lost : Service where
  metadata := { Cluster.Metadata.empty with
    annotations := .ofList
      [(Setting.protocol.key, "https"), (Setting.httpCertificates.key, "main, absent")] }
  type := some "LoadBalancer"
  ports := [⟨443, some 30443⟩]
  ingress := []

/-- The same Service with malformed settings of later stages. -/
def garbled : Service :=
  { lost with
    metadata := { lost.metadata with
      annotations :=
        (lost.metadata.annotations.insert Setting.httpStickySessions.key "perhaps").insert
          Setting.healthCheckInterval.key "soon" } }

/-- The certificates are what it fails at. -/
theorem reading_lost {x : Stage} (h : x ≠ .certificates) :
    x.reading lost ⟨443, some 30443⟩ 443 = .result () := by
  cases x with
  | certificates => exact absurd rfl h
  | _ => exact congrArg Program.done (by decide +kernel)

end Sample

/-- Malformed settings of later stages change nothing about a certificate that is not there. -/
theorem extract_error_of_agree_sample :
    ∃ t, (PortOptions.extract Sample.lost ⟨443, some 30443⟩ 443).run World.handle
        PortReader.Sample.world =
          (.error (.within "service_opts::resolve_certificates"
            (.notFound "certificate \"absent\"")), t) ∧
      (PortOptions.extract Sample.garbled ⟨443, some 30443⟩ 443).run World.handle
        PortReader.Sample.world =
          (.error (.within "service_opts::resolve_certificates"
            (.notFound "certificate \"absent\"")), t) ∧
      (PortOptions.extract Sample.garbled ⟨443, some 30443⟩ 443).moments World.handle
          PortReader.Sample.world =
        (PortOptions.extract Sample.lost ⟨443, some 30443⟩ 443).moments World.handle
          PortReader.Sample.world := by
  have hrun : ((PortOptions.extract Sample.lost ⟨443, some 30443⟩ 443).run World.handle
      PortReader.Sample.world).1 = .error (.within "service_opts::resolve_certificates"
        (.notFound "certificate \"absent\"")) := by decide +kernel
  obtain ⟨earlier, stage, later, horder, ⟨u, -, hstage⟩, hother, -⟩ :=
    extract_error_of_agree (Prod.ext hrun rfl)
  obtain rfl : stage = .certificates := by
    by_contra hne
    rw [Sample.reading_lost hne] at hstage
    cases hstage
  have hsplit : Stage.order =
      [.nodePort, .proxyProtocol, .protocol, .cookieName, .cookieLifetime] ++ .certificates ::
        [.redirectHttp, .stickySessions, .checkProtocol, .checkPort, .checkInterval, .checkTimeout,
          .checkRetries, .checkHttp] := rfl
  obtain ⟨-, -, rfl⟩ := (List.append_cons_inj_of_notMem (by decide) (by decide)).1
    (hsplit.symm.trans horder)
  refine ⟨_, Prod.ext hrun rfl, hother Sample.garbled fun key hkey => ?_⟩
  have hsticky : Setting.httpStickySessions.key ≠ key := fun heq =>
    hkey .stickySessions (by decide) (heq ▸ List.mem_cons_self)
  have hinterval : Setting.healthCheckInterval.key ≠ key := fun heq =>
    hkey .checkInterval (by decide) (heq ▸ List.mem_cons_self)
  show (((Sample.lost.metadata.annotations.insert _ _).insert _ _).get? key) = _
  rw [Labels.get?_insert, if_neg hinterval, Labels.get?_insert, if_neg hsticky]

end BalancerSync.Desired
