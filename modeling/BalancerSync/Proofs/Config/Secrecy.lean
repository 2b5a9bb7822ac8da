import BalancerSync.Proofs.Config.Loading

/-!
# The token stays secret

The token is a secret, and what loading makes of an environment is written to the log: the
configuration as its summary, an error as its text.  Of the token they tell no more than whether
there is one and whether it has the right length.  For environments that agree on this and on all
other variables, loading ends alike: with configurations that differ in the token alone, and
therefore have the same summary, or with the same error.

## Main Definitions

* `TokensAlike` — what may be known of two tokens
* `AgreeOffToken` — environments that differ in the token alone

## Main Results

* `summary_withToken` — the summary does not show the token
* `problems_of_tokensAlike` — the entries do not show it either
* `load_of_tokensAlike` — two tokens of the same kind cannot be told apart
-/

namespace BalancerSync.Config

variable {env other : Environment} {c : Config} {name : String}

/-- Two environments have no token, or tokens of the right length, or tokens of another length. -/
inductive TokensAlike (env other : Environment) : Prop where
  | missing : Lacks env tokenVar → Lacks other tokenVar → TokensAlike env other
  | sized {t u : String} : Has env tokenVar t → Has other tokenVar u → t.utf8ByteSize = 64 →
    u.utf8ByteSize = 64 → TokensAlike env other
  | missized {t u : String} : Has env tokenVar t → Has other tokenVar u → t.utf8ByteSize ≠ 64 →
    u.utf8ByteSize ≠ 64 → TokensAlike env other

/-- Two environments differ in the token alone. -/
def AgreeOffToken (env other : Environment) : Prop := ∀ name ≠ tokenVar, other name = env name

/-- The configuration with another token. -/
def withToken (c : Config) (token : String) : Config := { c with token := token }

/-- The summary does not show the token. -/
@[simp] theorem summary_withToken (c : Config) (token : String) :
    (c.withToken token).summary = c.summary := rfl

/-! ### Reading -/

theorem problems_readToken_of_tokensAlike (h : TokensAlike env other) :
    (readToken other).problems = (readToken env).problems := by
  cases h with
  | missing henv hother =>
    simp only [readToken, text?_eq_none_iff.2 henv, text?_eq_none_iff.2 hother]
  | sized henv hother ht hu =>
    simp only [readToken, text?_eq_some_iff.2 henv, text?_eq_some_iff.2 hother, tokenLength, ht, hu,
      if_true]
  | missized henv hother ht hu =>
    simp only [readToken, text?_eq_some_iff.2 henv, text?_eq_some_iff.2 hother, tokenLength, ht, hu,
      if_false]

theorem AgreeOffToken.text?_eq (h : AgreeOffToken env other) (hname : name ≠ tokenVar) :
    text? other name = text? env name := by
  simp only [text?, h name hname]

theorem AgreeOffToken.read_eq {α : Type} (h : AgreeOffToken env other) (hname : name ≠ tokenVar)
    (fallback : α) (parse : String → Except String α) :
    read other name fallback parse = read env name fallback parse := by
  simp only [read, h.text?_eq hname]

theorem AgreeOffToken.readBool_eq (h : AgreeOffToken env other) (x : Flag) :
    readBool other x.var x.default = readBool env x.var x.default :=
  h.read_eq (by cases x <;> decide) _ _

theorem AgreeOffToken.readDuration_eq (h : AgreeOffToken env other) (x : Interval) :
    readDuration other x.var x.default = readDuration env x.var x.default :=
  h.read_eq (by cases x <;> decide) _ _

/-- What is read is the same but for the token. -/
theorem AgreeOffToken.value_read?_eq (h : AgreeOffToken env other) :
    (read? other).value = (read? env).value.withToken (readToken other).value := by
  have htext : ∀ name ≠ tokenVar, text? other name = text? env name :=
    fun _ hname => h.text?_eq hname
  have hbool : ∀ name ≠ tokenVar, ∀ fallback, readBool other name fallback =
      readBool env name fallback := fun _ hname fallback => h.read_eq hname fallback _
  have hduration : ∀ name ≠ tokenVar, ∀ fallback, readDuration other name fallback =
      readDuration env name fallback := fun _ hname fallback => h.read_eq hname fallback _
  simp (disch := decide) only [read?, withToken, htext, hbool, hduration]

/-- The entries do not show the token. -/
theorem problems_of_tokensAlike (h : AgreeOffToken env other) (htoken : TokensAlike env other)
    (r : Requirement) : r.problems other = r.problems env := by
  cases r with
  | token => exact problems_readToken_of_tokensAlike htoken
  | flag x => exact congrArg Reading.problems (h.readBool_eq x)
  | interval x => exact congrArg Reading.problems (h.readDuration_eq x)
  | polling => rw [Requirement.problems, h.readDuration_eq, Requirement.problems]
  | privateNetwork =>
    have hnetwork : text? other networkVar = text? env networkVar := h.text?_eq (by decide)
    rw [Requirement.problems, h.readBool_eq, hnetwork, Requirement.problems]

/-- From environments that differ in the token alone, and whose tokens are of the same kind, either
both configurations can be loaded, and they have the same summary, as they differ in the token
alone; or neither can, and the errors are the same. -/
theorem load_of_tokensAlike (h : AgreeOffToken env other) (htoken : TokensAlike env other) :
    (∃ c c', load env = .ok c ∧ load other = .ok c' ∧ c' = c.withToken c'.token ∧
      c'.summary = c.summary) ∨
    ∃ e, load env = .error e ∧ load other = .error e := by
  have hproblems : ∀ r : Requirement, r.problems other = r.problems env :=
    problems_of_tokensAlike h htoken
  have hmet : (∀ r : Requirement, r.Met other) ↔ ∀ r : Requirement, r.Met env := by
    simp only [met_iff, hproblems]
  by_cases hall : ∀ r : Requirement, r.Met env
  · refine .inl ⟨_, _, load_eq_ok_iff.2 ⟨hall, rfl⟩, load_eq_ok_iff.2 ⟨hmet.2 hall, rfl⟩, ?_⟩
    rw [h.value_read?_eq]
    exact ⟨rfl, summary_withToken _ _⟩
  · refine .inr ⟨_, load_eq_error_iff.2 ⟨hall, rfl⟩, load_eq_error_iff.2 ⟨mt hmet.1 hall, ?_⟩⟩
    simp only [List.flatMap, List.map_congr_left fun r _ => hproblems r]

namespace Sample

/-- An environment with a token and a network. -/
def settled (token : String) : Environment := fun name =>
  if name = tokenVar then some token
  else if name = networkVar then some "private"
  else if name = usePrivateIpVar then some " true "
  else none

/-- The same with a poll interval that cannot be read. -/
def garbled (token : String) : Environment := fun name =>
  if name = actionPollIntervalVar then some "soon" else settled token name

/-- A token of the right length. -/
def tokenOf (c : Char) : String := String.ofList (List.replicate 64 c)

theorem agree_settled (token token' : String) : AgreeOffToken (settled token) (settled token') := by
  intro name hname
  simp only [settled, if_neg hname]

theorem agree_garbled (token token' : String) : AgreeOffToken (garbled token) (garbled token') := by
  intro name hname
  simp only [garbled, agree_settled token token' name hname]

end Sample

open Sample in
/-- Two tokens of the right length lead to the same summary, two of another length to the same
error. -/
theorem load_of_tokensAlike_sample :
    (TokensAlike (settled (tokenOf 'a')) (settled (tokenOf 'b')) ∧
      ∃ c c', load (settled (tokenOf 'a')) = .ok c ∧ load (settled (tokenOf 'b')) = .ok c' ∧
        c'.summary = c.summary) ∧
    TokensAlike (garbled "short") (garbled "secret") ∧
      ∃ e, load (garbled "short") = .error e ∧ load (garbled "secret") = .error e := by
  have hsized : TokensAlike (settled (tokenOf 'a')) (settled (tokenOf 'b')) :=
    .sized ⟨tokenOf 'a', rfl, rfl, by decide +kernel⟩ ⟨tokenOf 'b', rfl, rfl, by decide +kernel⟩
      (by decide +kernel) (by decide +kernel)
  have hmissized : TokensAlike (garbled "short") (garbled "secret") :=
    .missized ⟨"short", rfl, rfl, by decide⟩ ⟨"secret", rfl, rfl, by decide⟩ (by decide +kernel)
      (by decide +kernel)
  refine ⟨⟨hsized, ?_⟩, hmissized, ?_⟩
  · have hok : (load (settled (tokenOf 'a'))).toOption.isSome = true := by decide +kernel
    rcases load_of_tokensAlike (agree_settled _ _) hsized with ⟨c, c', hc, hc', -, h⟩ | ⟨e, he, -⟩
    · exact ⟨c, c', hc, hc', h⟩
    · rw [he] at hok
      cases hok
  · have herror : (load (garbled "short")).toOption.isNone = true := by decide +kernel
    rcases load_of_tokensAlike (agree_garbled _ _) hmissized with ⟨c, -, hc, -⟩ | ⟨e, he, he'⟩
    · rw [hc] at herror
      cases herror
    · exact ⟨e, he, he'⟩

end BalancerSync.Config
