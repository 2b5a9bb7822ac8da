import BalancerSync.Proofs.Program.Requests

/-!
# The moments of a run

A run makes its requests one after the other, each in the state that the one before has left.  What
has to hold all the time, and not only in the end, is said about these moments.

## Main Definitions

* `Program.Moment` — a request and the state in which it is made
* `Program.moments` — the moments of a run in their order

## Main Results

* `Program.moments_bind` — the moments of two programs in a row
* `Program.Asks.moments` — what every request keeps holds at every moment
-/

namespace BalancerSync.Program

variable {E : Effect} {α β σ : Type} {P : E.Request → Prop} {p : Program E α}

/-- A request and the state in which it is made. -/
structure Moment (E : Effect) (σ : Type) where
  before : σ
  request : E.Request

/-- The state after the request. -/
def Moment.after (handle : Handler E σ) (m : Moment E σ) : σ := (handle m.request m.before).2

/-- The moments of a run in their order. -/
def moments (handle : Handler E σ) : Program E α → σ → List (Moment E σ)
  | done _, _ => []
  | ask q next, s => ⟨s, q⟩ :: (next (handle q s).1).moments handle (handle q s).2

@[simp] theorem moments_done (handle : Handler E σ) (outcome : Except Error α) (s : σ) :
    (done outcome).moments handle s = [] := rfl

@[simp] theorem moments_ask (handle : Handler E σ) (q : E.Request)
    (next : Except Error (E.Reply q) → Program E α) (s : σ) :
    (ask q next).moments handle s =
      ⟨s, q⟩ :: (next (handle q s).1).moments handle (handle q s).2 := rfl

/-- The second of two programs goes on from where the first ends, unless the first fails. -/
theorem moments_bind (handle : Handler E σ) (p : Program E α) (f : α → Program E β) (s : σ) :
    (p.bind f).moments handle s = p.moments handle s ++
      match p.run handle s with
      | (.ok a, t) => (f a).moments handle t
      | (.error _, _) => [] := by
  induction p generalizing s with
  | done outcome => cases outcome <;> rfl
  | ask q next ih => simp [ih]

theorem moments_mapError (handle : Handler E σ) (f : Error → Error) (p : Program E α) (s : σ) :
    (p.mapError f).moments handle s = p.moments handle s := by
  induction p generalizing s with
  | done outcome => cases outcome <;> rfl
  | ask q next ih => simp [mapError, ih]

@[simp] theorem moments_within (handle : Handler E σ) (operation : String) (p : Program E α)
    (s : σ) : (p.within operation).moments handle s = p.moments handle s :=
  moments_mapError handle _ p s

@[simp] theorem moments_attempt (handle : Handler E σ) (p : Program E α) (s : σ) :
    p.attempt.moments handle s = p.moments handle s := by
  induction p generalizing s with
  | done outcome => rfl
  | ask q next ih => simp [attempt, ih]

@[simp] theorem moments_ifFound (handle : Handler E σ) (p : Program E α) (s : σ) :
    p.ifFound.moments handle s = p.moments handle s := by
  rw [ifFound, moments_bind, run_attempt, moments_attempt]
  cases (p.run handle s).1 with
  | ok a => simp [result]
  | error e => by_cases h : e.isNotFound <;> simp [h, result, fail]

/-- What holds at every moment of each of two programs holds at every moment of both in a row. -/
theorem forall_moments_bind {handle : Handler E σ} {f : α → Program E β} {s : σ}
    {G : Moment E σ → Prop} (hp : ∀ m ∈ p.moments handle s, G m)
    (hf : ∀ a t, p.run handle s = (.ok a, t) → ∀ m ∈ (f a).moments handle t, G m) :
    ∀ m ∈ (p.bind f).moments handle s, G m := by
  intro m hm
  rw [moments_bind, List.mem_append] at hm
  rcases hm with hm | hm
  · exact hp m hm
  · split at hm
    · rename_i a t hrun
      exact hf a t hrun m hm
    · cases hm

/-- What holds at the beginning and after every request holds in the end. -/
theorem run_of_forall_moments {handle : Handler E σ} {I : σ → Prop} {s : σ} (hs : I s)
    (h : ∀ m ∈ p.moments handle s, I (m.after handle)) : I (p.run handle s).2 := by
  induction p generalizing s with
  | done outcome => exact hs
  | ask q next ih =>
    obtain ⟨hnext, hrest⟩ := List.forall_mem_cons.1 h
    exact ih _ hnext hrest

/-- What every request keeps holds at every moment, and so do the properties of the requests. -/
theorem Asks.moments {handle : Handler E σ} {I : σ → Prop} (hp : Asks P p)
    (hkeep : ∀ q s, P q → I s → I (handle q s).2) {s : σ} (hs : I s) :
    ∀ m ∈ p.moments handle s, P m.request ∧ I m.before ∧ I (m.after handle) := by
  induction hp generalizing s with
  | done outcome => simp
  | ask hq _ ih =>
    have hnext := hkeep _ s hq hs
    intro m hm
    rcases List.mem_cons.1 hm with rfl | hm
    · exact ⟨hq, hs, hnext⟩
    · exact ih _ hnext m hm

end BalancerSync.Program
