import BalancerSync.Proofs.Program.Moments

/-!
# Programs in an environment

A handler gives one answer to each request.  An environment leaves open which answer comes, and what
becomes of the state with it; in turn it may insist that some requests are made in some states only.
A program is safe if it keeps to that and its outcome is right, whatever it is answered.

Safety goes along with the program: there is a rule for each way to put programs together.  It
speaks of every request on the way, so it can be cut off after any of them.

## Main Definitions

* `Program.Environment` — which requests are allowed, and what can happen on them
* `Program.Safe` — a program that keeps to what is allowed and ends well

## Main Results

* `Program.Safe.bind` — two programs in a row
* `Program.Safe.run` — a run against a handler that answers as the environment can
* `Program.Asks.safe` — what every request keeps holds in the end
-/

namespace BalancerSync.Program

variable {E F : Effect} {α β σ τ : Type}

/-- The surroundings of a program. -/
structure Environment (E : Effect) (σ : Type) where
  /-- Whether a request may be made in a state. -/
  allows : E.Request → σ → Prop
  /-- What a request can be answered in a state, and which state it can leave. -/
  answers : (q : E.Request) → σ → Except Error (E.Reply q) → σ → Prop

/-- Whatever it is answered, the program makes allowed requests only, and its outcome and the last
state are as they should be. -/
def Safe (env : Environment E σ) : Program E α → (Except Error α → σ → Prop) → σ → Prop
  | done outcome, post, s => post outcome s
  | ask q next, post, s =>
    env.allows q s ∧ ∀ r t, env.answers q s r t → (next r).Safe env post t

variable {env : Environment E σ} {p : Program E α} {s : σ}

theorem safe_request {q : E.Request} {post : Except Error (E.Reply q) → σ → Prop}
    (hq : env.allows q s) (hpost : ∀ r t, env.answers q s r t → post r t) :
    (Program.request q).Safe env post s :=
  ⟨hq, hpost⟩

namespace Safe

theorem mono {post post' : Except Error α → σ → Prop} (hp : p.Safe env post s)
    (h : ∀ o t, post o t → post' o t) : p.Safe env post' s := by
  induction p generalizing s with
  | done outcome => exact h _ _ hp
  | ask q next ih =>
    obtain ⟨hq, hnext⟩ := hp
    exact ⟨hq, fun r t ht => ih r (hnext r t ht)⟩

/-- The second of two programs goes on from any state in which the first can end with a result. -/
theorem bind {f : α → Program E β} {mid : Except Error α → σ → Prop}
    {post : Except Error β → σ → Prop} (hp : p.Safe env mid s)
    (hok : ∀ a t, mid (.ok a) t → (f a).Safe env post t)
    (herror : ∀ e t, mid (.error e) t → post (.error e) t) : (p.bind f).Safe env post s := by
  induction p generalizing s with
  | done outcome =>
    cases outcome with
    | ok a => exact hok a s hp
    | error e => exact herror e s hp
  | ask q next ih =>
    obtain ⟨hq, hnext⟩ := hp
    exact ⟨hq, fun r t ht => ih r (hnext r t ht)⟩

/-- An attempt never fails; it hands on what the program ended with. -/
theorem attempt {post : Except Error α → σ → Prop} (hp : p.Safe env post s) :
    p.attempt.Safe env (fun o t => ∃ outcome, o = .ok outcome ∧ post outcome t) s := by
  induction p generalizing s with
  | done outcome => exact ⟨outcome, rfl, hp⟩
  | ask q next ih =>
    obtain ⟨hq, hnext⟩ := hp
    exact ⟨hq, fun r t ht => ih r (hnext r t ht)⟩

theorem mapError {f : Error → Error} {post : Except Error α → σ → Prop}
    (hp : p.Safe env (fun o t => post (o.mapError f) t) s) : (p.mapError f).Safe env post s := by
  induction p generalizing s with
  | done outcome => cases outcome <;> exact hp
  | ask q next ih =>
    obtain ⟨hq, hnext⟩ := hp
    exact ⟨hq, fun r t ht => ih r (hnext r t ht)⟩

theorem within {operation : String} {post : Except Error α → σ → Prop}
    (hp : p.Safe env (fun o t => post (o.mapError (.within operation)) t) s) :
    (p.within operation).Safe env post s :=
  hp.mapError

theorem ifFound {post : Except Error (Option α) → σ → Prop} {mid : Except Error α → σ → Prop}
    (hp : p.Safe env mid s) (hok : ∀ a t, mid (.ok a) t → post (.ok (some a)) t)
    (hmissing : ∀ e t, mid (.error e) t → e.isNotFound = true → post (.ok none) t)
    (herror : ∀ e t, mid (.error e) t → e.isNotFound = false → post (.error e) t) :
    p.ifFound.Safe env post s := by
  refine hp.attempt.bind ?_ ?_
  · rintro outcome t ⟨_, ⟨⟩, ht⟩
    cases outcome with
    | ok a => exact hok a t ht
    | error e =>
      cases he : e.isNotFound with
      | true =>
        simp only [he, if_true]
        exact hmissing e t ht he
      | false =>
        simp only [he]
        exact herror e t ht he
  · rintro e t ⟨_, h, -⟩
    cases h

/-- A run ends as it should if each answer that it gets is one that the environment can give. -/
theorem run {handle : Handler E σ} {post : Except Error α → σ → Prop} (hp : p.Safe env post s)
    (hanswers : ∀ m ∈ p.moments handle s,
      env.answers m.request m.before (handle m.request m.before).1 (m.after handle)) :
    post (p.run handle s).1 (p.run handle s).2 := by
  induction p generalizing s with
  | done outcome => exact hp
  | ask q next ih =>
    obtain ⟨-, hnext⟩ := hp
    obtain ⟨hq, hrest⟩ := List.forall_mem_cons.1 hanswers
    exact ih _ (hnext _ _ hq) hrest

/-- A program of the first effect sees of the surroundings what concerns that effect.  The invariant
says what else holds meanwhile. -/
theorem left {both : Environment (E.sum F) τ} {post : Except Error α → σ → Prop}
    {post' : Except Error α → τ → Prop} {I : τ → Prop} {x : τ} (view : τ → σ)
    (hp : p.Safe env post (view x)) (hx : I x)
    (hallows : ∀ q y, I y → env.allows q (view y) → both.allows (.inl q) y)
    (hanswers : ∀ q y r z, I y → both.answers (.inl q) y r z →
      I z ∧ env.answers q (view y) r (view z))
    (hpost : ∀ o y, I y → post o (view y) → post' o y) :
    (p.left : Program (E.sum F) α).Safe both post' x := by
  induction p generalizing x with
  | done outcome => exact hpost outcome x hx hp
  | ask q next ih =>
    obtain ⟨hq, hnext⟩ := hp
    refine ⟨hallows q x hx hq, fun r z hz => ?_⟩
    obtain ⟨hI, hr⟩ := hanswers q x r z hx hz
    exact ih r (hnext r _ hr) hI

end Safe

/-- What every request keeps holds in the end. -/
theorem Asks.safe {P : E.Request → Prop} {I : σ → Prop} (hp : p.Asks P)
    (hallows : ∀ q t, P q → I t → env.allows q t)
    (hkeep : ∀ q t r u, P q → I t → env.answers q t r u → I u) (hs : I s) :
    p.Safe env (fun _ t => I t) s := by
  induction hp generalizing s with
  | done outcome => exact hs
  | ask hq _ ih => exact ⟨hallows _ s hq hs, fun r t ht => ih r (hkeep _ s r t hq hs ht)⟩

end BalancerSync.Program
