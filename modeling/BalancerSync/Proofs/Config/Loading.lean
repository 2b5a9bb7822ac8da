import BalancerSync.Config
import Mathlib.Data.List.Forall2

/-!
# Loading the configuration

Loading asks ten things of an environment: one of each variable that has to be read, the token
included, and two of the values taken together.  It succeeds exactly if all of them are met, and
otherwise says what is wrong with each one that is not.

A variable that cannot be read is one such problem; in the checks that involve two variables it
counts with its default, so that one mistake does not hide another.

## Main Definitions

* `Has`, `Lacks` — what an environment says about a variable
* `Counts` — what a variable counts as, be it readable or not
* `Requirement`, `Requirement.Met`, `Requirement.order` — what is asked of an environment
* `Complaint` — the entry about a requirement that is not met
* `violations` — the requirements that are not met, in order
* `Describes` — the configuration that an environment describes, field by field

## Main Results

* `Describes.unique` — an environment describes one configuration at most
* `accounted` — a requirement is met without an entry, or is not met and has one
* `load_exact` — when loading succeeds, with which configuration, and with which entries it fails
-/

namespace BalancerSync.Config

variable {α : Type} {env : Environment} {name v w : String} {parse : String → Except String α}
  {fallback a b : α} {c c' : Config}

/-! ### Variables -/

/-- A variable is there and not blank, and this is its trimmed value. -/
def Has (env : Environment) (name v : String) : Prop :=
  ∃ raw, env name = some raw ∧ Text.trimmed raw = v ∧ v ≠ ""

/-- A variable is absent or blank. -/
def Lacks (env : Environment) (name : String) : Prop :=
  ∀ raw, env name = some raw → Text.trimmed raw = ""

/-- Looking a variable up gives its trimmed value if there is anything in it. -/
theorem text?_eq_some_iff : text? env name = some v ↔ Has env name v := by
  simp only [text?, Has, Option.filter_eq_some_iff, Option.map_eq_some_iff, decide_eq_true_eq]
  constructor
  · rintro ⟨⟨raw, hraw, htrimmed⟩, hne⟩
    exact ⟨raw, hraw, htrimmed, hne⟩
  · rintro ⟨raw, hraw, htrimmed, hne⟩
    exact ⟨⟨raw, hraw, htrimmed⟩, hne⟩

/-- A variable that is blank is looked up like one that is absent. -/
theorem text?_eq_none_iff : text? env name = none ↔ Lacks env name := by
  simp only [text?, Lacks, Option.filter_eq_none_iff, Option.map_eq_some_iff, decide_eq_true_eq,
    not_not, forall_exists_index, and_imp, forall_apply_eq_imp_iff₂]

/-- Every variable has a value or lacks one.  The proofs about single variables split on this. -/
theorem has_or_lacks (env : Environment) (name : String) :
    (∃ v, Has env name v) ∨ Lacks env name := by
  cases h : text? env name with
  | none => exact .inr (text?_eq_none_iff.1 h)
  | some v => exact .inl ⟨v, text?_eq_some_iff.1 h⟩

theorem Has.unique (h : Has env name v) (h' : Has env name w) : v = w :=
  Option.some.inj ((text?_eq_some_iff.2 h).symm.trans (text?_eq_some_iff.2 h'))

theorem Has.not_lacks (h : Has env name v) : ¬ Lacks env name := by
  obtain ⟨raw, hraw, rfl, hne⟩ := h
  exact fun hlacks => hne (hlacks raw hraw)

/-- What a variable counts as: its value if it can be read, and its default otherwise. -/
inductive Counts (env : Environment) (name : String) (parse : String → Except String α)
    (fallback : α) : α → Prop where
  | given {v : String} {a : α} : Has env name v → parse v = .ok a → Counts env name parse fallback a
  | malformed {v reason : String} : Has env name v → parse v = .error reason →
    Counts env name parse fallback fallback
  | missing : Lacks env name → Counts env name parse fallback fallback

/-- What a variable counts as is the value that reading goes on with.  It is one value in any case,
so `Counts` is a function. -/
theorem counts_iff :
    Counts env name parse fallback a ↔ (read env name fallback parse).value = a := by
  constructor
  · rintro (⟨hv, hparse⟩ | ⟨hv, hparse⟩ | hv)
    · simp only [read, text?_eq_some_iff.2 hv, hparse]
    · simp only [read, text?_eq_some_iff.2 hv, hparse]
    · simp only [read, text?_eq_none_iff.2 hv]
  · rintro rfl
    rcases has_or_lacks env name with ⟨v, hv⟩ | hv
    · simp only [read, text?_eq_some_iff.2 hv]
      cases hparse : parse v with
      | ok a => exact .given hv hparse
      | error reason => exact .malformed hv hparse
    · simp only [read, text?_eq_none_iff.2 hv]
      exact .missing hv

/-- A value is what a variable says, or the default if it says nothing. -/
def Reads (env : Environment) (name : String) (parse : String → Except String α) (fallback a : α) :
    Prop :=
  (∀ v, Has env name v → parse v = .ok a) ∧ (Lacks env name → a = fallback)

/-- A variable says one thing at most: its value is parsed, and the default is not left open
either. -/
theorem Reads.unique (h : Reads env name parse fallback a) (h' : Reads env name parse fallback b) :
    a = b := by
  rcases has_or_lacks env name with ⟨v, hv⟩ | hv
  · exact Except.ok.inj ((h.1 v hv).symm.trans (h'.1 v hv))
  · exact (h.2 hv).trans (h'.2 hv).symm

/-- Reading finds the value of a variable that can be read. -/
theorem reads_read (h : ∀ v, Has env name v → ∃ a, parse v = .ok a) :
    Reads env name parse fallback (read env name fallback parse).value := by
  refine ⟨fun v hv => ?_, fun hv => ?_⟩
  · obtain ⟨a, ha⟩ := h v hv
    rw [ha, counts_iff.1 (.given hv ha)]
  · exact counts_iff.1 (.missing hv)

/-! ### The fields -/

/-- The variables that hold a truth value. -/
inductive Flag where
  | enabled
  | usePrivateIp
  | disablePrivateIngress
  | disablePublicNetwork
  | disableIpv6
  deriving DecidableEq

namespace Flag

def var : Flag → String
  | enabled => "HCLOUD_LOAD_BALANCERS_ENABLED"
  | usePrivateIp => "HCLOUD_LOAD_BALANCERS_USE_PRIVATE_IP"
  | disablePrivateIngress => "HCLOUD_LOAD_BALANCERS_DISABLE_PRIVATE_INGRESS"
  | disablePublicNetwork => "HCLOUD_LOAD_BALANCERS_DISABLE_PUBLIC_NETWORK"
  | disableIpv6 => "HCLOUD_LOAD_BALANCERS_DISABLE_IPV6"

def default : Flag → Bool
  | enabled => true
  | _ => false

def field (c : Config) : Flag → Bool
  | enabled => c.enabled
  | usePrivateIp => c.defaults.usePrivateIp
  | disablePrivateIngress => c.defaults.disablePrivateIngress
  | disablePublicNetwork => c.defaults.disablePublicNetwork
  | disableIpv6 => c.defaults.disableIpv6

end Flag

/-- The variables that hold a duration. -/
inductive Interval where
  | actionPoll
  | attachRetry
  deriving DecidableEq

namespace Interval

def var : Interval → String
  | actionPoll => "HCLOUD_ACTION_POLL_INTERVAL"
  | attachRetry => "HCLOUD_LOAD_BALANCERS_ATTACH_RETRY_DELAY"

def default : Interval → Duration
  | actionPoll => .ofMillis 500
  | attachRetry => .ofSeconds 1

def field (c : Config) : Interval → Duration
  | actionPoll => c.actionPollInterval
  | attachRetry => c.attachRetryDelay

end Interval

/-- The variables whose text is taken as it is, and that may be absent. -/
inductive Word where
  | network
  | location
  | networkZone
  | namePrefix
  deriving DecidableEq

namespace Word

def var : Word → String
  | network => "HCLOUD_NETWORK"
  | location => "HCLOUD_LOAD_BALANCERS_LOCATION"
  | networkZone => "HCLOUD_LOAD_BALANCERS_NETWORK_ZONE"
  | namePrefix => "HCLOUD_LOAD_BALANCERS_NAME_PREFIX"

def field (c : Config) : Word → Option String
  | network => c.network
  | location => c.defaults.location
  | networkZone => c.defaults.networkZone
  | namePrefix => c.defaults.namePrefix

end Word

/-- The configuration that an environment describes: each field is what its own variable says, or
its default if the variable is absent or blank.  There is no default for the token. -/
structure Describes (env : Environment) (c : Config) : Prop where
  token : Has env "HCLOUD_TOKEN" c.token
  endpoint : Reads env "HCLOUD_ENDPOINT" .ok "https://api.hetzner.cloud/v1" c.endpoint
  word : ∀ x : Word, Reads env x.var (fun v => .ok (some v)) none (x.field c)
  flag : ∀ x : Flag, Reads env x.var Setting.parseBool x.default (x.field c)
  interval : ∀ x : Interval, Reads env x.var Setting.parseDuration x.default (x.field c)

/-- An environment describes one configuration at most, as no field is left open. -/
theorem Describes.unique (h : Describes env c) (h' : Describes env c') : c = c' := by
  have hword := fun x => (h.word x).unique (h'.word x)
  have hflag := fun x => (h.flag x).unique (h'.flag x)
  have hinterval := fun x => (h.interval x).unique (h'.interval x)
  obtain ⟨token, endpoint, network, enabled, actionPollInterval, attachRetryDelay, defaults⟩ := c
  obtain ⟨location, networkZone, usePrivateIp, disablePrivateIngress, disablePublicNetwork,
    disableIpv6, namePrefix⟩ := defaults
  obtain rfl := h.token.unique h'.token
  obtain rfl := h.endpoint.unique h'.endpoint
  obtain rfl := hword .network
  obtain rfl := hword .location
  obtain rfl := hword .networkZone
  obtain rfl := hword .namePrefix
  obtain rfl := hflag .enabled
  obtain rfl := hflag .usePrivateIp
  obtain rfl := hflag .disablePrivateIngress
  obtain rfl := hflag .disablePublicNetwork
  obtain rfl := hflag .disableIpv6
  obtain rfl := hinterval .actionPoll
  obtain rfl := hinterval .attachRetry
  rfl

/-! ### What is asked of an environment -/

/-- What loading asks of an environment. -/
inductive Requirement where
  /-- The token is there and has the right length. -/
  | token
  | flag (x : Flag)
  | interval (x : Interval)
  /-- There is time between two polls. -/
  | polling
  /-- Whoever wants private addresses names the network. -/
  | privateNetwork
  deriving DecidableEq

/-- What a truth value counts as. -/
def FlagCounts (env : Environment) (x : Flag) : Bool → Prop :=
  Counts env x.var Setting.parseBool x.default

/-- What a duration counts as. -/
def IntervalCounts (env : Environment) (x : Interval) : Duration → Prop :=
  Counts env x.var Setting.parseDuration x.default

namespace Requirement

/-- The order of the entries. -/
def order : List Requirement :=
  [token, flag .enabled, interval .actionPoll, interval .attachRetry, flag .usePrivateIp,
    flag .disablePrivateIngress, flag .disablePublicNetwork, flag .disableIpv6, polling,
    privateNetwork]

/-- No requirement comes up twice, and so there is at most one entry for each. -/
theorem nodup_order : order.Nodup := by decide

/-- No requirement is left out of the order.  What is shown along it therefore holds of them all. -/
theorem mem_order (r : Requirement) : r ∈ order := by
  cases r with
  | flag x => cases x <;> decide
  | interval x => cases x <;> decide
  | _ => decide

/-- Whether an environment does what is asked of it. -/
def Met (env : Environment) : Requirement → Prop
  | token => ∃ t, Has env "HCLOUD_TOKEN" t ∧ t.utf8ByteSize = 64
  | flag x => ∀ v, Has env x.var v → ∃ b, Setting.parseBool v = .ok b
  | interval x => ∀ v, Has env x.var v → ∃ d, Setting.parseDuration v = .ok d
  | polling => ¬ IntervalCounts env .actionPoll .zero
  | privateNetwork => FlagCounts env .usePrivateIp true → ∃ n, Has env Word.network.var n

end Requirement

/-- The entry about a requirement that is not met. -/
inductive Complaint (env : Environment) : Requirement → String → Prop where
  | noToken : Lacks env "HCLOUD_TOKEN" → Complaint env .token "HCLOUD_TOKEN: required"
  | tokenLength {t : String} : Has env "HCLOUD_TOKEN" t → t.utf8ByteSize ≠ 64 →
    Complaint env .token "HCLOUD_TOKEN: must be 64 characters"
  | flag {x : Flag} {v reason : String} : Has env x.var v → Setting.parseBool v = .error reason →
    Complaint env (.flag x) (x.var ++ ": " ++ reason)
  | interval {x : Interval} {v reason : String} : Has env x.var v →
    Setting.parseDuration v = .error reason →
    Complaint env (.interval x) (x.var ++ ": " ++ reason)
  | polling : IntervalCounts env .actionPoll .zero →
    Complaint env .polling "HCLOUD_ACTION_POLL_INTERVAL: must be greater than zero"
  | privateNetwork : FlagCounts env .usePrivateIp true → Lacks env Word.network.var →
    Complaint env .privateNetwork
      "HCLOUD_LOAD_BALANCERS_USE_PRIVATE_IP: requires HCLOUD_NETWORK to be set"

/-! ### What loading says of each -/

namespace Requirement

/-- The entries about one requirement. -/
def problems (env : Environment) : Requirement → List String
  | token => (readToken env).problems
  | flag x => (readBool env x.var x.default).problems
  | interval x => (readDuration env x.var x.default).problems
  | polling =>
    if (readDuration env Interval.actionPoll.var Interval.actionPoll.default).value = .zero then
      [actionPollIntervalVar ++ ": must be greater than zero"]
    else []
  | privateNetwork =>
    if (readBool env Flag.usePrivateIp.var Flag.usePrivateIp.default).value &&
        (text? env networkVar).isNone then
      [usePrivateIpVar ++ ": requires " ++ networkVar ++ " to be set"]
    else []

end Requirement

/-- The entries of a whole reading, put together from those about the single requirements.  This is
the only place where the order in which the variables are read matters. -/
theorem problems_read? (env : Environment) :
    (read? env).problems = Requirement.order.flatMap (Requirement.problems env) := by
  simp only [read?, crossProblems, Requirement.order, Requirement.problems, List.flatMap_cons,
    List.flatMap_nil, List.append_nil, List.append_assoc]
  rfl

/-- Reading has one problem with a variable that cannot be read, and none with any other. -/
theorem problems_read (env : Environment) (name : String) (fallback : α)
    (parse : String → Except String α) :
    ((∀ v, Has env name v → ∃ a, parse v = .ok a) ∧ (read env name fallback parse).problems = []) ∨
      ∃ v reason, Has env name v ∧ parse v = .error reason ∧
        (read env name fallback parse).problems = [name ++ ": " ++ reason] := by
  rcases has_or_lacks env name with ⟨v, hv⟩ | hv
  · cases hparse : parse v with
    | ok a =>
      refine .inl ⟨fun w hw => ⟨a, hw.unique hv ▸ hparse⟩, ?_⟩
      simp only [read, text?_eq_some_iff.2 hv, hparse]
    | error reason =>
      refine .inr ⟨v, reason, hv, hparse, ?_⟩
      simp only [read, text?_eq_some_iff.2 hv, hparse]
  · refine .inl ⟨fun w hw => absurd hv hw.not_lacks, ?_⟩
    simp only [read, text?_eq_none_iff.2 hv]

/-- A variable whose value cannot be parsed cannot be read, since it has no other value. -/
theorem not_of_parse_eq_error {reason : String} (hv : Has env name v)
    (hparse : parse v = .error reason) : ¬ ∀ v, Has env name v → ∃ a, parse v = .ok a := by
  intro h
  obtain ⟨a, ha⟩ := h v hv
  cases hparse.symm.trans ha

/-- A requirement is met and there is no entry about it, or it is not met and there is one. -/
def Accounted (env : Environment) (r : Requirement) : Prop :=
  (r.Met env ∧ r.problems env = []) ∨
    ¬ r.Met env ∧ ∃ text, Complaint env r text ∧ r.problems env = [text]

/-- The token is required and has a fixed length; each of the two ways to miss that has its own
text.  Its length is counted in bytes. -/
theorem accounted_token (env : Environment) : Accounted env .token := by
  rcases has_or_lacks env tokenVar with ⟨t, ht⟩ | ht
  · by_cases hlength : t.utf8ByteSize = 64
    · refine .inl ⟨⟨t, ht, hlength⟩, ?_⟩
      simp only [Requirement.problems, readToken, text?_eq_some_iff.2 ht, tokenLength, hlength,
        if_true]
    · refine .inr ⟨?_, _, .tokenLength ht hlength, ?_⟩
      · rintro ⟨t', ht', hlength'⟩
        exact hlength (ht.unique ht' ▸ hlength')
      · simp only [Requirement.problems, readToken, text?_eq_some_iff.2 ht, tokenLength, hlength,
          if_false]
        rfl
  · refine .inr ⟨?_, _, .noToken ht, ?_⟩
    · rintro ⟨t, ht', -⟩
      exact ht'.not_lacks ht
    · simp only [Requirement.problems, readToken, text?_eq_none_iff.2 ht]
      rfl

/-- A variable for a truth value has an entry if it is there and cannot be read. -/
theorem accounted_flag (env : Environment) (x : Flag) : Accounted env (.flag x) := by
  rcases problems_read env x.var x.default Setting.parseBool with h | ⟨v, reason, hv, hparse, h⟩
  · exact .inl h
  · exact .inr ⟨not_of_parse_eq_error hv hparse, _, .flag hv hparse, h⟩

theorem accounted_interval (env : Environment) (x : Interval) : Accounted env (.interval x) := by
  rcases problems_read env x.var x.default Setting.parseDuration with
    h | ⟨v, reason, hv, hparse, h⟩
  · exact .inl h
  · exact .inr ⟨not_of_parse_eq_error hv hparse, _, .interval hv hparse, h⟩

/-- The poll interval is judged by what it counts as: one that cannot be read counts with its
default, which is not zero, and so has no second entry. -/
theorem accounted_polling (env : Environment) : Accounted env .polling := by
  by_cases hzero :
      (readDuration env Interval.actionPoll.var Interval.actionPoll.default).value = .zero
  · have hcounts : IntervalCounts env .actionPoll .zero := counts_iff.2 hzero
    exact .inr ⟨not_not.2 hcounts, _, .polling hcounts, if_pos hzero⟩
  · exact .inl ⟨fun h => hzero (counts_iff.1 h), if_neg hzero⟩

/-- Private addresses need a network.  A truth value that cannot be read counts as the default here,
which asks for nothing. -/
theorem accounted_privateNetwork (env : Environment) : Accounted env .privateNetwork := by
  cases hprivate : (readBool env Flag.usePrivateIp.var Flag.usePrivateIp.default).value with
  | false =>
    refine .inl ⟨fun h => ?_, ?_⟩
    · cases hprivate.symm.trans (counts_iff.1 h)
    · simp only [Requirement.problems, hprivate, Bool.false_and, Bool.false_eq_true, if_false]
  | true =>
    have hcounts : FlagCounts env .usePrivateIp true := counts_iff.2 hprivate
    rcases has_or_lacks env networkVar with ⟨n, hn⟩ | hn
    · refine .inl ⟨fun _ => ⟨n, hn⟩, ?_⟩
      simp only [Requirement.problems, text?_eq_some_iff.2 hn, Option.isNone_some, Bool.and_false,
        Bool.false_eq_true, if_false]
    · refine .inr ⟨fun h => ?_, _, .privateNetwork hcounts hn, ?_⟩
      · obtain ⟨n, hn'⟩ := h hcounts
        exact hn'.not_lacks hn
      · simp only [Requirement.problems, hprivate, text?_eq_none_iff.2 hn, Option.isNone_none,
          Bool.and_self, if_true]
        rfl

/-- Each requirement is met and has no entry, or is not met and has exactly one.  The ten cases are
those of the single requirements. -/
theorem accounted (env : Environment) (r : Requirement) : Accounted env r := by
  cases r with
  | token => exact accounted_token env
  | flag x => exact accounted_flag env x
  | interval x => exact accounted_interval env x
  | polling => exact accounted_polling env
  | privateNetwork => exact accounted_privateNetwork env

/-- A requirement is met exactly if there is no entry about it.  One direction would not do: an
entry about a requirement that is met would make loading fail for no reason, and a missing one would
let it succeed. -/
theorem met_iff {r : Requirement} : r.Met env ↔ r.problems env = [] := by
  rcases accounted env r with ⟨hmet, hnone⟩ | ⟨hmet, text, -, hone⟩
  · exact iff_of_true hmet hnone
  · exact iff_of_false hmet (by simp [hone])

instance (env : Environment) : DecidablePred (Requirement.Met env) :=
  fun _ => decidable_of_iff _ met_iff.symm

/-- The requirements that are not met, in the order of their entries. -/
def violations (env : Environment) : List Requirement :=
  Requirement.order.filter fun r => ¬ r.Met env

/-- There is one entry for each requirement that is not met, and no other. -/
theorem forall₂_complaint (env : Environment) (rs : List Requirement) :
    List.Forall₂ (Complaint env) (rs.filter fun r => ¬ r.Met env)
      (rs.flatMap (Requirement.problems env)) := by
  induction rs with
  | nil => exact .nil
  | cons r rs ih =>
    rw [List.flatMap_cons]
    rcases accounted env r with ⟨hmet, hnone⟩ | ⟨hmet, text, htext, hone⟩
    · rw [hnone, List.filter_cons_of_neg (by simpa using hmet)]
      exact ih
    · rw [hone, List.filter_cons_of_pos (by simpa using hmet)]
      exact .cons htext ih

/-! ### The configuration -/

/-- Nothing is wrong with an environment exactly if it meets all requirements. -/
theorem isEmpty_problems_iff :
    (read? env).problems.isEmpty = true ↔ ∀ r : Requirement, r.Met env := by
  rw [List.isEmpty_iff, problems_read?, List.flatMap_eq_nil_iff]
  exact ⟨fun h r => met_iff.2 (h r r.mem_order), fun h r _ => met_iff.1 (h r)⟩

theorem reads_text? (env : Environment) (name : String) :
    Reads env name (fun v => .ok (some v)) none (text? env name) :=
  ⟨fun _ hv => congrArg _ (text?_eq_some_iff.2 hv).symm, text?_eq_none_iff.2⟩

theorem reads_getD_text? (env : Environment) (name fallback : String) :
    Reads env name .ok fallback ((text? env name).getD fallback) :=
  ⟨fun _ hv => by rw [text?_eq_some_iff.2 hv]; rfl, fun hv => by rw [text?_eq_none_iff.2 hv]; rfl⟩

/-- What is read is what the environment describes, if all requirements are met. -/
theorem describes_read? (h : ∀ r : Requirement, r.Met env) : Describes env (read? env).value where
  token := by
    obtain ⟨t, ht, hlength⟩ := h .token
    have hsome : text? env tokenVar = some t := text?_eq_some_iff.2 ht
    have htoken : (read? env).value.token = t := by
      simp only [read?, readToken, hsome, tokenLength, hlength, if_true]
    rw [htoken]
    exact ht
  endpoint := reads_getD_text? env endpointVar _
  word x := by cases x <;> exact reads_text? env _
  flag x := by
    have hflag : Reads env x.var _ x.default (readBool env x.var x.default).value :=
      reads_read (h (.flag x))
    cases x <;> exact hflag
  interval x := by
    have hinterval : Reads env x.var _ x.default (readDuration env x.var x.default).value :=
      reads_read (h (.interval x))
    cases x <;> exact hinterval

/-- Loading succeeds exactly if all requirements are met.  The configuration is then the value of a
reading that had nothing to complain of, which is a description of the environment by
`describes_read?`. -/
theorem load_eq_ok_iff : load env = .ok c ↔
    (∀ r : Requirement, r.Met env) ∧ (read? env).value = c := by
  rw [← isEmpty_problems_iff]
  simp only [load]
  split
  · rename_i hempty
    simp only [Except.ok.injEq, hempty, true_and]
  · rename_i hproblems
    simp only [hproblems, Bool.false_eq_true, false_and, iff_false]
    exact fun h => by cases h

/-- Loading fails exactly if some requirement is not met.  The error has the entries about all of
them, not just the first, so that an operator can put everything right at once. -/
theorem load_eq_error_iff {e : Error} : load env = .error e ↔
    (¬ ∀ r : Requirement, r.Met env) ∧
      e = .config ("; ".intercalate (Requirement.order.flatMap (Requirement.problems env))) := by
  rw [← isEmpty_problems_iff, ← problems_read?]
  simp only [load]
  split
  · rename_i hempty
    simp only [hempty, not_true_eq_false, false_and, iff_false]
    exact fun h => by cases h
  · rename_i hproblems
    simp only [Except.error.injEq, hproblems, Bool.false_eq_true, not_false_eq_true, true_and,
      eq_comm]

/-- Loading succeeds exactly if all requirements are met, with the configuration that the
environment describes.  Otherwise there is one entry for each requirement that is not met, in the
fixed order and no others, and the text of the error is these entries. -/
theorem load_exact (env : Environment) :
    ((∃ c, load env = .ok c) ↔ ∀ r : Requirement, r.Met env) ∧
    (∀ c, load env = .ok c ↔ (∀ r : Requirement, r.Met env) ∧ Describes env c) ∧
    ∀ e, load env = .error e →
      (violations env ≠ [] ∧ (violations env).Nodup ∧ ∀ r, r ∈ violations env ↔ ¬ r.Met env) ∧
        ∃ entries, List.Forall₂ (Complaint env) (violations env) entries ∧
          e = .config ("; ".intercalate entries) := by
  refine ⟨?_, fun c => ?_, fun e he => ?_⟩
  · simp only [load_eq_ok_iff, exists_and_left, exists_eq', and_true]
  · rw [load_eq_ok_iff]
    refine and_congr_right fun hmet => ?_
    exact ⟨fun h => h ▸ describes_read? hmet, fun h => (describes_read? hmet).unique h⟩
  · obtain ⟨hunmet, htext⟩ := load_eq_error_iff.1 he
    have hmem : ∀ r, r ∈ violations env ↔ ¬ r.Met env := by
      intro r
      simp [violations, r.mem_order]
    refine ⟨⟨fun hnil => hunmet fun r => ?_, Requirement.nodup_order.filter _, hmem⟩,
      _, forall₂_complaint env Requirement.order, htext⟩
    by_contra hr
    have hin := (hmem r).2 hr
    rw [hnil] at hin
    cases hin

/-- A poll interval of zero is found, and a blank network counts as none, whatever else is wrong. -/
example : violations (fun name =>
    if name = actionPollIntervalVar then some " 0 "
    else if name = usePrivateIpVar then some "true"
    else if name = networkVar then some "  "
    else if name = enabledVar then some "maybe"
    else none) = [.token, .flag .enabled, .polling, .privateNetwork] := by
  decide +kernel

end BalancerSync.Config
