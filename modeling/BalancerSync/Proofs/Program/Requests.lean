import BalancerSync.Program

/-!
# The requests of a program

What a program asks for can be read off the tree: a request is asked if some answers lead to it.
If every request that can be asked keeps an invariant, then every run keeps it, however the requests
are answered.

## Main Definitions

* `Program.Asks` — all requests that a program can ask for have a property
* `Program.Yields` — some answers lead a program to a result

## Main Results

* `Program.Asks.run` — invariants of the requests are invariants of the run
-/

namespace BalancerSync.Program

variable {E : Effect} {α β σ : Type} {P : E.Request → Prop} {p : Program E α}

/-- All requests that a program can ask for have a property. -/
inductive Asks (P : E.Request → Prop) : Program E α → Prop where
  | done (outcome : Except Error α) : Asks P (done outcome)
  | ask {q : E.Request} {next : Except Error (E.Reply q) → Program E α} (hq : P q)
    (hnext : ∀ r, Asks P (next r)) : Asks P (ask q next)

/-- Some answers lead a program to a result. -/
inductive Yields : Program E α → α → Prop where
  | done (a : α) : Yields (done (.ok a)) a
  | ask {q : E.Request} {next : Except Error (E.Reply q) → Program E α} {a : α}
    (r : Except Error (E.Reply q)) : Yields (next r) a → Yields (ask q next) a

theorem yields_ofExcept {outcome : Except Error α} {a : α} :
    (Program.ofExcept outcome : Program E α).Yields a ↔ outcome = .ok a := by
  constructor
  · intro h
    cases h
    rfl
  · rintro rfl
    exact .done a

/-- Two programs in a row lead to a result if the first leads to one and the second goes on from
it. -/
theorem exists_yields_of_bind {f : α → Program E β} {b : β} (h : (p.bind f).Yields b) :
    ∃ a, p.Yields a ∧ (f a).Yields b := by
  induction p with
  | done outcome =>
    cases outcome with
    | ok a => exact ⟨a, .done a, h⟩
    | error e => cases h
  | ask q next ih =>
    cases h with
    | ask r h =>
      obtain ⟨a, ha, hb⟩ := ih r h
      exact ⟨a, .ask r ha, hb⟩

/-- A run ends with a result only if some answers lead to it. -/
theorem yields_of_run {handle : Handler E σ} {s : σ} {a : α} (h : (p.run handle s).1 = .ok a) :
    p.Yields a := by
  induction p generalizing s with
  | done outcome =>
    obtain rfl : outcome = .ok a := h
    exact .done a
  | ask q next ih => exact .ask _ (ih _ h)

namespace Asks

theorem of_forall (h : ∀ q, P q) (p : Program E α) : Asks P p := by
  induction p with
  | done outcome => exact done outcome
  | ask q next ih => exact ask (h q) ih

theorem ofExcept (outcome : Except Error α) : Asks P (Program.ofExcept outcome) := done outcome

theorem request {q : E.Request} (h : P q) : Asks P (Program.request q) :=
  ask h fun r => done r

theorem mono {Q : E.Request → Prop} (hp : Asks P p) (h : ∀ q, P q → Q q) : Asks Q p := by
  induction hp with
  | done outcome => exact done outcome
  | ask hq _ ih => exact ask (h _ hq) ih

/-- The second of two programs only has to be looked at for the results of the first. -/
theorem bind_of_yields {f : α → Program E β} (hp : Asks P p)
    (hf : ∀ a, p.Yields a → Asks P (f a)) : Asks P (p.bind f) := by
  induction hp with
  | done outcome =>
    cases outcome with
    | ok a => exact hf a (.done a)
    | error e => exact done (.error e)
  | ask hq _ ih => exact ask hq fun r => ih r fun a ha => hf a (.ask r ha)

theorem bind {f : α → Program E β} (hp : Asks P p) (hf : ∀ a, Asks P (f a)) :
    Asks P (p.bind f) :=
  hp.bind_of_yields fun a _ => hf a

/-- Catching errors adds no requests. -/
theorem attempt (hp : Asks P p) : Asks P p.attempt := by
  induction hp with
  | done outcome => exact done (.ok outcome)
  | ask hq _ ih => exact ask hq ih

/-- Nor does rewording them. -/
theorem mapError (hp : Asks P p) (f : Error → Error) : Asks P (p.mapError f) := by
  induction hp with
  | done outcome => cases outcome <;> exact done _
  | ask hq _ ih => exact ask hq ih

theorem within (hp : Asks P p) (operation : String) : Asks P (p.within operation) :=
  hp.mapError _

/-- Nor does taking some of them for the answer that there is nothing. -/
theorem ifFound (hp : Asks P p) : Asks P p.ifFound := by
  refine hp.attempt.bind fun outcome => ?_
  cases outcome with
  | ok a => exact done _
  | error e => by_cases h : e.isNotFound <;> simp only [h] <;> exact done _

/-- A second attempt asks for nothing that the first one could not. -/
theorem retryOnce {wait : Program E Unit} (hp : Asks P p) (hwait : Asks P wait) :
    Asks P (p.retryOnce wait) := by
  refine hp.attempt.bind fun outcome => ?_
  cases outcome with
  | ok a => exact done _
  | error e =>
    by_cases h : e.isTransient
    · simp only [h, if_true]
      exact hwait.bind fun _ => hp
    · simp only [h]
      exact done _

/-- What every request keeps, every run keeps. -/
theorem run {handle : Handler E σ} {I : σ → Prop} (hp : Asks P p)
    (hkeep : ∀ q s, P q → I s → I (handle q s).2) {s : σ} (hs : I s) : I (p.run handle s).2 := by
  induction hp generalizing s with
  | done outcome => exact hs
  | ask hq _ ih => exact ih _ (hkeep _ s hq hs)

end Asks

end BalancerSync.Program
