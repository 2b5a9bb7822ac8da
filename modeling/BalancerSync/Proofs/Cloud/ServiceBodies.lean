import BalancerSync.Cloud.Wire.Message
import BalancerSync.Proofs.Json.Fields
import Mathlib.Data.Set.Function
import Mathlib.Tactic.MkIffOfInductiveProp

/-!
# Service options on the wire

The options for a backend service are sent as nested objects.  A field of the object is there
exactly if it is set in the options, at every level, and none is null.  An empty list is a value
like any other, and so is a part in which nothing is set.  Each kind of object is written from a
list of fields with different names, so what is found in it can be read off that list.

The body loses one thing only: durations are sent as whole seconds.  Options in whole seconds are
determined by it.

## Main Definitions

* `ServiceChange.Sets` — what is set in options, as a path of names
* `SentIn` — a body with a field for everything that is set, and no others
* `ServiceChange.WholeSeconds` — options that have no fractions of seconds

## Main Results

* `ServiceChange.sentIn_toJson` — what is found in the body of a change
* `ServiceChange.eq_of_toJson`, `NewService.eq_of_toJson` — the body determines options in whole
  seconds
-/

namespace BalancerSync.Cloud

open Json (ofFields)

variable {name : String} {path : List String}

/-! ### What is set -/

/-- What is set in the HTTP part of a service. -/
@[mk_iff]
inductive HttpOptions.Sets (o : HttpOptions) : List String → Prop where
  | cookieName {a : String} : o.cookieName = some a → Sets o ["cookie_name"]
  | cookieLifetime {d : Duration} : o.cookieLifetime = some d → Sets o ["cookie_lifetime"]
  | certificates {ids : List Int} : o.certificates = some ids → Sets o ["certificates"]
  | redirectHttp {b : Bool} : o.redirectHttp = some b → Sets o ["redirect_http"]
  | stickySessions {b : Bool} : o.stickySessions = some b → Sets o ["sticky_sessions"]

/-- What is set in the HTTP part of a health check. -/
@[mk_iff]
inductive HealthCheckHttpOptions.Sets (o : HealthCheckHttpOptions) : List String → Prop where
  | domain {a : String} : o.domain = some a → Sets o ["domain"]
  | path {a : String} : o.path = some a → Sets o ["path"]
  | statusCodes {codes : List String} : o.statusCodes = some codes → Sets o ["status_codes"]
  | tls {b : Bool} : o.tls = some b → Sets o ["tls"]

/-- What is set in a health check. -/
@[mk_iff]
inductive HealthCheckOptions.Sets (o : HealthCheckOptions) : List String → Prop where
  | protocol {p : Protocol} : o.protocol = some p → Sets o ["protocol"]
  | port {n : Nat} : o.port = some n → Sets o ["port"]
  | interval {d : Duration} : o.interval = some d → Sets o ["interval"]
  | timeout {d : Duration} : o.timeout = some d → Sets o ["timeout"]
  | retries {n : Nat} : o.retries = some n → Sets o ["retries"]
  | http {h : HealthCheckHttpOptions} : o.http = some h → Sets o ["http"]
  | inHttp {h : HealthCheckHttpOptions} {path : List String} : o.http = some h → h.Sets path →
    Sets o ("http" :: path)

/-- What is set in a change.  A part that is set is there even if nothing in it is. -/
@[mk_iff]
inductive ServiceChange.Sets (o : ServiceChange) : List String → Prop where
  | protocol {p : Protocol} : o.protocol = some p → Sets o ["protocol"]
  | destinationPort {n : Nat} : o.destinationPort = some n → Sets o ["destination_port"]
  | proxyProtocol {b : Bool} : o.proxyProtocol = some b → Sets o ["proxyprotocol"]
  | http {h : HttpOptions} : o.http = some h → Sets o ["http"]
  | inHttp {h : HttpOptions} {path : List String} : o.http = some h → h.Sets path →
    Sets o ("http" :: path)
  | healthCheck {c : HealthCheckOptions} : o.healthCheck = some c → Sets o ["health_check"]
  | inHealthCheck {c : HealthCheckOptions} {path : List String} : o.healthCheck = some c →
    c.Sets path → Sets o ("health_check" :: path)

/-! ### The fields of the bodies -/

def HttpOptions.fields (o : HttpOptions) : List (String × Option Json) :=
  [("cookie_name", o.cookieName.map .str), ("cookie_lifetime", o.cookieLifetime.map secondsToJson),
    ("certificates", o.certificates.map fun ids => .arr (ids.map .int)),
    ("redirect_http", o.redirectHttp.map .bool), ("sticky_sessions", o.stickySessions.map .bool)]

def HealthCheckHttpOptions.fields (o : HealthCheckHttpOptions) : List (String × Option Json) :=
  [("domain", o.domain.map .str), ("path", o.path.map .str),
    ("status_codes", o.statusCodes.map Json.texts), ("tls", o.tls.map .bool)]

def HealthCheckOptions.fields (o : HealthCheckOptions) : List (String × Option Json) :=
  [("protocol", o.protocol.map fun p => .str p.text), ("port", o.port.map .ofNat),
    ("interval", o.interval.map secondsToJson), ("timeout", o.timeout.map secondsToJson),
    ("retries", o.retries.map .ofNat), ("http", o.http.map HealthCheckHttpOptions.toJson)]

def ServiceChange.fields (listenPort : Nat) (o : ServiceChange) : List (String × Option Json) :=
  [("protocol", o.protocol.map fun p => .str p.text), ("listen_port", (some listenPort).map .ofNat),
    ("destination_port", o.destinationPort.map .ofNat),
    ("proxyprotocol", o.proxyProtocol.map .bool), ("http", o.http.map HttpOptions.toJson),
    ("health_check", o.healthCheck.map HealthCheckOptions.toJson)]

/-- The HTTP part of a service is written from its list of fields.  From here on all that is asked
of a body is asked of a list. -/
theorem HttpOptions.toJson_eq (o : HttpOptions) : o.toJson = ofFields o.fields := by
  simp [toJson, ofFields, fields]

/-- And so is that of a health check. -/
theorem HealthCheckHttpOptions.toJson_eq (o : HealthCheckHttpOptions) :
    o.toJson = ofFields o.fields := by
  simp [toJson, ofFields, fields]

/-- A health check is written from its fields, of which the HTTP part is one. -/
theorem HealthCheckOptions.toJson_eq (o : HealthCheckOptions) : o.toJson = ofFields o.fields := by
  simp [toJson, ofFields, fields]

/-- A change is written from its fields behind the listen port, which is always there. -/
theorem ServiceChange.toJson_eq (listenPort : Nat) (o : ServiceChange) :
    o.toJson listenPort = ofFields (o.fields listenPort) := by
  simp [toJson, ofFields, fields, Json.optional]

/-- No two fields have the same name, so a field is found under its name, whatever else is set. -/
theorem HttpOptions.nodup_fields (o : HttpOptions) : (o.fields.map (·.1)).Nodup := by
  simp [fields]

/-- No field of a health check's HTTP part is written twice either. -/
theorem HealthCheckHttpOptions.nodup_fields (o : HealthCheckHttpOptions) :
    (o.fields.map (·.1)).Nodup := by
  simp [fields]

theorem HealthCheckOptions.nodup_fields (o : HealthCheckOptions) : (o.fields.map (·.1)).Nodup := by
  simp [fields]

/-- The names of the parts of a change are different from each other and from the listen port's. -/
theorem ServiceChange.nodup_fields (listenPort : Nat) (o : ServiceChange) :
    ((o.fields listenPort).map (·.1)).Nodup := by
  simp [fields]

theorem isLeaf_str (s : String) : (Json.str s).IsLeaf := ⟨rfl, nofun⟩

theorem isLeaf_bool (b : Bool) : (Json.bool b).IsLeaf := ⟨rfl, nofun⟩

theorem isLeaf_ofNat (n : Nat) : (Json.ofNat n).IsLeaf := ⟨rfl, nofun⟩

/-- A duration is written as a number, and nothing is found inside of a number. -/
theorem isLeaf_seconds (d : Duration) : (secondsToJson d).IsLeaf := ⟨rfl, nofun⟩

/-- A list counts as a value as a whole: a path of names does not lead into it, even if it is
empty. -/
theorem isLeaf_arr (items : List Json) : (Json.arr items).IsLeaf := ⟨rfl, nofun⟩

theorem isLeaf_texts (items : List String) : (Json.texts items).IsLeaf := ⟨rfl, nofun⟩

/-! ### What is in the bodies -/

/-- What is found in the HTTP part of a service under a path is what is set there. -/
theorem HttpOptions.isSome_at?_toJson_iff (o : HttpOptions) :
    (o.toJson.at? (name :: path)).isSome = true ↔ o.Sets (name :: path) := by
  rw [o.toJson_eq, Json.isSome_at?_ofFields o.nodup_fields, sets_iff]
  simp only [fields, List.mem_cons, List.not_mem_nil, or_false, Prod.mk.injEq, or_and_right,
    exists_or, Json.exists_leaf_iff isLeaf_str, Json.exists_leaf_iff isLeaf_seconds,
    Json.exists_leaf_iff isLeaf_bool, Json.exists_leaf_iff (fun ids => isLeaf_arr _)]

/-- The HTTP part of a health check has no parts of its own, so its fields are all that can be
found. -/
theorem HealthCheckHttpOptions.isSome_at?_toJson_iff (o : HealthCheckHttpOptions) :
    (o.toJson.at? (name :: path)).isSome = true ↔ o.Sets (name :: path) := by
  rw [o.toJson_eq, Json.isSome_at?_ofFields o.nodup_fields, sets_iff]
  simp only [fields, List.mem_cons, List.not_mem_nil, or_false, Prod.mk.injEq, or_and_right,
    exists_or, Json.exists_leaf_iff isLeaf_str, Json.exists_leaf_iff isLeaf_texts,
    Json.exists_leaf_iff isLeaf_bool]

theorem HttpOptions.not_sets_nil (o : HttpOptions) : ¬ o.Sets [] := nofun

theorem HealthCheckHttpOptions.not_sets_nil (o : HealthCheckHttpOptions) : ¬ o.Sets [] := nofun

theorem HealthCheckOptions.not_sets_nil (o : HealthCheckOptions) : ¬ o.Sets [] := nofun

/-- In a health check a path either ends at a field or goes on into the HTTP part. -/
theorem HealthCheckOptions.isSome_at?_toJson_iff (o : HealthCheckOptions) :
    (o.toJson.at? (name :: path)).isSome = true ↔ o.Sets (name :: path) := by
  rw [o.toJson_eq, Json.isSome_at?_ofFields o.nodup_fields, sets_iff]
  simp only [fields, List.mem_cons, List.not_mem_nil, or_false, Prod.mk.injEq, or_and_right,
    exists_or, Json.exists_leaf_iff (fun p : Protocol => isLeaf_str p.text),
    Json.exists_leaf_iff isLeaf_ofNat, Json.exists_leaf_iff isLeaf_seconds,
    Json.exists_part_iff HealthCheckHttpOptions.not_sets_nil
      fun h _ _ => h.isSome_at?_toJson_iff]

/-- In the body of a change there is what is set in it, at every level, and the listen port. -/
theorem ServiceChange.isSome_at?_toJson_iff (listenPort : Nat) (o : ServiceChange) :
    ((o.toJson listenPort).at? (name :: path)).isSome = true ↔
      name :: path = ["listen_port"] ∨ o.Sets (name :: path) := by
  rw [o.toJson_eq, Json.isSome_at?_ofFields (o.nodup_fields listenPort), sets_iff, or_left_comm]
  simp only [fields, List.mem_cons, List.not_mem_nil, or_false, Prod.mk.injEq, or_and_right,
    exists_or, or_assoc, Json.exists_leaf_iff (fun p : Protocol => isLeaf_str p.text),
    Json.exists_leaf_iff isLeaf_ofNat, Json.exists_leaf_iff isLeaf_bool,
    Json.exists_part_iff HttpOptions.not_sets_nil fun h _ _ => h.isSome_at?_toJson_iff,
    Json.exists_part_iff HealthCheckOptions.not_sets_nil fun h _ _ => h.isSome_at?_toJson_iff,
    Option.some.injEq, exists_eq_left']

/-! ### No field is null -/

/-- What is not set is left out, and never written as a null, which the cloud would take for a
reset. -/
theorem HttpOptions.at?_toJson_ne_null (o : HttpOptions) (path : List String) :
    o.toJson.at? path ≠ some .null := by
  rw [o.toJson_eq]
  refine Json.at?_ofFields_ne_null o.nodup_fields ?_ path
  simp only [fields, List.forall_mem_cons, Option.map_eq_some_iff, forall_exists_index, and_imp,
    forall_apply_eq_imp_iff₂]
  exact ⟨fun _ _ => (isLeaf_str _).at?_ne_null, fun _ _ => (isLeaf_seconds _).at?_ne_null,
    fun _ _ => (isLeaf_arr _).at?_ne_null, fun _ _ => (isLeaf_bool _).at?_ne_null,
    fun _ _ => (isLeaf_bool _).at?_ne_null, nofun⟩

/-- Nor is anything null in the HTTP part of a health check: a field that is left open is left
out. -/
theorem HealthCheckHttpOptions.at?_toJson_ne_null (o : HealthCheckHttpOptions)
    (path : List String) : o.toJson.at? path ≠ some .null := by
  rw [o.toJson_eq]
  refine Json.at?_ofFields_ne_null o.nodup_fields ?_ path
  simp only [fields, List.forall_mem_cons, Option.map_eq_some_iff, forall_exists_index, and_imp,
    forall_apply_eq_imp_iff₂]
  exact ⟨fun _ _ => (isLeaf_str _).at?_ne_null, fun _ _ => (isLeaf_str _).at?_ne_null,
    fun _ _ => (isLeaf_texts _).at?_ne_null, fun _ _ => (isLeaf_bool _).at?_ne_null, nofun⟩

/-- There is no null in a health check, at the top or in its HTTP part. -/
theorem HealthCheckOptions.at?_toJson_ne_null (o : HealthCheckOptions) (path : List String) :
    o.toJson.at? path ≠ some .null := by
  rw [o.toJson_eq]
  refine Json.at?_ofFields_ne_null o.nodup_fields ?_ path
  simp only [fields, List.forall_mem_cons, Option.map_eq_some_iff, forall_exists_index, and_imp,
    forall_apply_eq_imp_iff₂]
  exact ⟨fun _ _ => (isLeaf_str _).at?_ne_null, fun _ _ => (isLeaf_ofNat _).at?_ne_null,
    fun _ _ => (isLeaf_seconds _).at?_ne_null, fun _ _ => (isLeaf_seconds _).at?_ne_null,
    fun _ _ => (isLeaf_ofNat _).at?_ne_null, fun h _ => h.at?_toJson_ne_null, nofun⟩

/-- There is no null anywhere in the body of a change. -/
theorem ServiceChange.at?_toJson_ne_null (listenPort : Nat) (o : ServiceChange)
    (path : List String) : (o.toJson listenPort).at? path ≠ some .null := by
  rw [o.toJson_eq]
  refine Json.at?_ofFields_ne_null (o.nodup_fields listenPort) ?_ path
  simp only [fields, List.forall_mem_cons, Option.map_eq_some_iff, forall_exists_index, and_imp,
    forall_apply_eq_imp_iff₂]
  exact ⟨fun _ _ => (isLeaf_str _).at?_ne_null, fun _ _ => (isLeaf_ofNat _).at?_ne_null,
    fun _ _ => (isLeaf_ofNat _).at?_ne_null, fun _ _ => (isLeaf_bool _).at?_ne_null,
    fun h _ => h.at?_toJson_ne_null, fun c _ => c.at?_toJson_ne_null, nofun⟩

/-- A body for the service on a listen port that has a field for everything that is set, at every
level, and no other fields.  None of them is null. -/
structure SentIn (listenPort : Nat) (o : ServiceChange) (body : Json) : Prop where
  port : body.at? ["listen_port"] = some (.ofNat listenPort)
  present_iff : ∀ name path, (body.at? (name :: path)).isSome = true ↔
    name :: path = ["listen_port"] ∨ o.Sets (name :: path)
  ne_null : ∀ path, body.at? path ≠ some .null

/-- The body of a change has a field for what is set in the change and for the listen port, and for
nothing else. -/
theorem ServiceChange.sentIn_toJson (listenPort : Nat) (o : ServiceChange) :
    SentIn listenPort o (o.toJson listenPort) where
  port := by
    rw [o.toJson_eq, Json.at?_ofFields (o.nodup_fields listenPort)]
    exact ⟨.ofNat listenPort, by simp [fields], rfl⟩
  present_iff _ _ := o.isSome_at?_toJson_iff listenPort
  ne_null := o.at?_toJson_ne_null listenPort

/-! ### What the body determines -/

/-- The durations have no fractions of seconds. -/
def HttpOptions.WholeSeconds (o : HttpOptions) : Prop :=
  ∀ d ∈ o.cookieLifetime, d.truncated = d

/-- The durations have no fractions of seconds. -/
structure HealthCheckOptions.WholeSeconds (o : HealthCheckOptions) : Prop where
  interval : ∀ d ∈ o.interval, d.truncated = d
  timeout : ∀ d ∈ o.timeout, d.truncated = d

/-- The durations have no fractions of seconds. -/
structure ServiceChange.WholeSeconds (o : ServiceChange) : Prop where
  http : ∀ h ∈ o.http, h.WholeSeconds
  healthCheck : ∀ c ∈ o.healthCheck, c.WholeSeconds

/-- What tells the values of a set apart tells optional ones of them apart. -/
theorem eq_of_map_eq {α β : Type} {f : α → β} {values : Set α} (hf : values.InjOn f)
    {x y : Option α} (hx : ∀ a ∈ x, a ∈ values) (hy : ∀ b ∈ y, b ∈ values)
    (h : x.map f = y.map f) : x = y := by
  cases x with
  | none => exact (Option.map_eq_none_iff.1 h.symm).symm
  | some a =>
    obtain ⟨b, rfl, hb⟩ := Option.map_eq_some_iff.1 h.symm
    rw [hf (hx a rfl) (hy b rfl) hb.symm]

theorem str_injective : Function.Injective Json.str := fun _ _ => Json.str.inj

theorem bool_injective : Function.Injective Json.bool := fun _ _ => Json.bool.inj

theorem ofNat_injective : Function.Injective Json.ofNat :=
  fun _ _ h => Int.ofNat.inj (Json.int.inj h)

theorem ints_injective : Function.Injective fun ids : List Int => Json.arr (ids.map .int) :=
  fun _ _ h => List.map_injective_iff.2 (fun _ _ => Json.int.inj) (Json.arr.inj h)

/-- A list of texts can be read off the list of strings that it is written as. -/
theorem texts_injective : Function.Injective Json.texts :=
  fun _ _ h => List.map_injective_iff.2 str_injective (Json.arr.inj h)

/-- Every protocol has a text of its own. -/
theorem protocol_injective : Function.Injective fun p : Protocol => Json.str p.text :=
  fun p p' h => Option.some.inj <| by
    rw [← p.ofText?_text, ← p'.ofText?_text, str_injective h]

/-- Durations are told apart by their seconds, if they have no fractions. -/
theorem injOn_secondsToJson : {d : Duration | d.truncated = d}.InjOn secondsToJson := by
  intro d hd d' hd' h
  rw [← hd, ← hd', Duration.truncated, ofNat_injective h, Duration.truncated]

attribute [ext] HttpOptions HealthCheckHttpOptions HealthCheckOptions ServiceChange

/-- Whole seconds are the only thing that the HTTP part of a service loses when it is written: the
cookie's lifetime is the one duration in it. -/
theorem HttpOptions.injOn_toJson : {o : HttpOptions | o.WholeSeconds}.InjOn toJson := by
  intro o ho o' ho' h
  rw [o.toJson_eq, o'.toJson_eq] at h
  have hfields := Json.ofFields_injective o.nodup_fields h rfl
  simp only [fields, List.cons.injEq, Prod.mk.injEq, true_and, and_true] at hfields
  obtain ⟨hname, hlifetime, hcertificates, hredirect, hsticky⟩ := hfields
  exact HttpOptions.ext (Option.map_injective str_injective hname)
    (eq_of_map_eq injOn_secondsToJson ho ho' hlifetime)
    (Option.map_injective ints_injective hcertificates)
    (Option.map_injective bool_injective hredirect) (Option.map_injective bool_injective hsticky)

/-- Fractions of seconds are lost, so the condition on durations is needed. -/
example : (⟨none, some ⟨1500000000⟩, none, none, none⟩ : HttpOptions).toJson =
    (⟨none, some ⟨1000000000⟩, none, none, none⟩ : HttpOptions).toJson := rfl

/-- There are no durations in the HTTP part of a health check, so nothing of it is lost. -/
theorem HealthCheckHttpOptions.toJson_injective :
    Function.Injective HealthCheckHttpOptions.toJson := by
  intro o o' h
  rw [o.toJson_eq, o'.toJson_eq] at h
  have hfields := Json.ofFields_injective o.nodup_fields h rfl
  simp only [fields, List.cons.injEq, Prod.mk.injEq, true_and, and_true] at hfields
  obtain ⟨hdomain, hpath, hcodes, htls⟩ := hfields
  exact HealthCheckHttpOptions.ext (Option.map_injective str_injective hdomain)
    (Option.map_injective str_injective hpath) (Option.map_injective texts_injective hcodes)
    (Option.map_injective bool_injective htls)

/-- A health check is determined by what is written if its two durations are whole seconds. -/
theorem HealthCheckOptions.injOn_toJson :
    {o : HealthCheckOptions | o.WholeSeconds}.InjOn toJson := by
  intro o ho o' ho' h
  rw [o.toJson_eq, o'.toJson_eq] at h
  have hfields := Json.ofFields_injective o.nodup_fields h rfl
  simp only [fields, List.cons.injEq, Prod.mk.injEq, true_and, and_true] at hfields
  obtain ⟨hprotocol, hport, hinterval, htimeout, hretries, hhttp⟩ := hfields
  exact HealthCheckOptions.ext (Option.map_injective protocol_injective hprotocol)
    (Option.map_injective ofNat_injective hport)
    (eq_of_map_eq injOn_secondsToJson ho.interval ho'.interval hinterval)
    (eq_of_map_eq injOn_secondsToJson ho.timeout ho'.timeout htimeout)
    (Option.map_injective ofNat_injective hretries)
    (Option.map_injective HealthCheckHttpOptions.toJson_injective hhttp)

/-- The body determines the listen port and a change without fractions of seconds. -/
theorem ServiceChange.eq_of_toJson {listenPort listenPort' : Nat} {o o' : ServiceChange}
    (ho : o.WholeSeconds) (ho' : o'.WholeSeconds)
    (h : o.toJson listenPort = o'.toJson listenPort') : listenPort = listenPort' ∧ o = o' := by
  rw [o.toJson_eq, o'.toJson_eq] at h
  have hfields := Json.ofFields_injective (o.nodup_fields listenPort) h rfl
  simp only [fields, List.cons.injEq, Prod.mk.injEq, true_and, and_true, Option.map_some,
    Option.some.injEq] at hfields
  obtain ⟨hprotocol, hport, hdestination, hproxy, hhttp, hcheck⟩ := hfields
  refine ⟨ofNat_injective hport, ?_⟩
  exact ServiceChange.ext (Option.map_injective protocol_injective hprotocol)
    (Option.map_injective ofNat_injective hdestination)
    (Option.map_injective bool_injective hproxy)
    (eq_of_map_eq HttpOptions.injOn_toJson ho.http ho'.http hhttp)
    (eq_of_map_eq HealthCheckOptions.injOn_toJson ho.healthCheck ho'.healthCheck hcheck)

/-- A service that is added is sent as the change with all its ports set, so its body determines it
as well. -/
theorem NewService.eq_of_toJson {o o' : NewService} (ho : o.toChange.WholeSeconds)
    (ho' : o'.toChange.WholeSeconds) (h : o.toJson = o'.toJson) : o = o' := by
  obtain ⟨hport, hchange⟩ := ServiceChange.eq_of_toJson ho ho' h
  obtain ⟨protocol, listenPort, destinationPort, proxyProtocol, http, check⟩ := o
  cases hport
  cases hchange
  rfl

end BalancerSync.Cloud
