import BalancerSync.Error

/-!
# Programs that ask

An operation of the controller is a tree: at each node it asks the outside world for something,
such as a call to the cloud or a wait, and its continuation depends on the answer. The tree itself
does nothing. A *handler* answers the requests from a state, and running a program against a handler
is an ordinary function. The same operation therefore runs against the in-memory cloud, against the
wire, and one request at a time between the steps of others.

A request can fail. Its error reaches the continuation, which usually passes it on. There are two
errors after which an operation goes on: a missing resource, and a resource that is busy.

## Main Definitions

* `Effect` : what can be asked, and how each request is answered
* `Program` : a tree of requests with a result or an error at each leaf
* `Program.attempt`, `Program.within` : handling and labelling errors
* `Program.Handler`, `Program.run` : answering the requests from a state
* `Effect.sum` : the requests of two effects together
* `Program.ifFound` : nothing instead of the error of a missing resource
* `Program.retryOnce` : a second attempt when a resource is busy
-/

namespace BalancerSync

/-- What can be asked of the outside world, and the type of each answer. -/
structure Effect where
  Request : Type
  Reply : Request → Type

/-- A tree of requests with a result or an error at each leaf. -/
inductive Program (E : Effect) (α : Type) : Type where
  | done (outcome : Except Error α)
  | ask (request : E.Request) (next : Except Error (E.Reply request) → Program E α)

namespace Program

variable {E : Effect} {α β γ σ : Type}

/-- The program that ends with a result. -/
def result (a : α) : Program E α := done (.ok a)

/-- The program that ends with an error. -/
def fail (e : Error) : Program E α := done (.error e)

/-- The program that makes one request and ends as the request does. -/
def request (q : E.Request) : Program E (E.Reply q) := ask q done

/-- Goes on with `f` after a result and stops at an error. -/
def bind : Program E α → (α → Program E β) → Program E β
  | done (.ok a), f => f a
  | done (.error e), _ => done (.error e)
  | ask q next, f => ask q fun r => (next r).bind f

instance : Monad (Program E) where
  pure := result
  bind := bind

/-- The outcome of a program as a result: an error is handed on as data. -/
def attempt : Program E α → Program E (Except Error α)
  | done outcome => done (.ok outcome)
  | ask q next => ask q fun r => (next r).attempt

/-- The program with `f` applied to the error it ends with. -/
def mapError (f : Error → Error) : Program E α → Program E α
  | done (.ok a) => done (.ok a)
  | done (.error e) => done (.error (f e))
  | ask q next => ask q fun r => (next r).mapError f

/-- The program as a part of the named operation: its error is wrapped with the name. -/
def within (operation : String) (p : Program E α) : Program E α := p.mapError (.within operation)

/-- The program that ends with a computed outcome. -/
def ofExcept (outcome : Except Error α) : Program E α := done outcome

/-! ### Running -/

/-- A handler answers requests from a state. -/
abbrev Handler (E : Effect) (σ : Type) : Type :=
  (q : E.Request) → σ → Except Error (E.Reply q) × σ

/-- The outcome of a program and the state it leaves. -/
def run (handle : Handler E σ) : Program E α → σ → Except Error α × σ
  | done outcome, s => (outcome, s)
  | ask q next, s => (next (handle q s).1).run handle (handle q s).2

/-! ### Laws -/

@[simp] theorem pure_eq (a : α) : (pure a : Program E α) = done (.ok a) := rfl

@[simp] theorem bind_eq (p : Program E α) (f : α → Program E β) : p >>= f = p.bind f := rfl

@[simp] theorem bind_ok (a : α) (f : α → Program E β) : (done (.ok a)).bind f = f a := rfl

@[simp] theorem bind_error (e : Error) (f : α → Program E β) :
    (done (.error e) : Program E α).bind f = done (.error e) := rfl

@[simp] theorem bind_ask (q : E.Request) (next : Except Error (E.Reply q) → Program E α)
    (f : α → Program E β) : (ask q next).bind f = ask q fun r => (next r).bind f := rfl

/-- Ending with the result changes nothing. -/
@[simp] theorem bind_result (p : Program E α) : p.bind result = p := by
  induction p with
  | done outcome => cases outcome <;> rfl
  | ask q next ih => simp [ih]

/-- Steps may be grouped either way. -/
theorem bind_assoc (p : Program E α) (f : α → Program E β) (g : β → Program E γ) :
    (p.bind f).bind g = p.bind fun a => (f a).bind g := by
  induction p with
  | done outcome => cases outcome <;> rfl
  | ask q next ih => simp [ih]

instance : LawfulMonad (Program E) := LawfulMonad.mk' (Program E)
  (fun p => bind_result p) (fun _ _ => rfl) (fun p f g => bind_assoc p f g)

@[simp] theorem run_done (handle : Handler E σ) (outcome : Except Error α) (s : σ) :
    (done outcome).run handle s = (outcome, s) := rfl

@[simp] theorem run_ask (handle : Handler E σ) (q : E.Request)
    (next : Except Error (E.Reply q) → Program E α) (s : σ) :
    (ask q next).run handle s = (next (handle q s).1).run handle (handle q s).2 := rfl

/-- A run of two programs in a row is the run of the second from where the first ends, unless the
first fails. -/
theorem run_bind (handle : Handler E σ) (p : Program E α) (f : α → Program E β) (s : σ) :
    (p.bind f).run handle s =
      match p.run handle s with
      | (.ok a, t) => (f a).run handle t
      | (.error e, t) => (.error e, t) := by
  induction p generalizing s with
  | done outcome => cases outcome <;> rfl
  | ask q next ih => simp [ih]

/-- Attempting changes neither the requests nor the state. -/
@[simp] theorem run_attempt (handle : Handler E σ) (p : Program E α) (s : σ) :
    p.attempt.run handle s = (.ok (p.run handle s).1, (p.run handle s).2) := by
  induction p generalizing s with
  | done outcome => rfl
  | ask q next ih => simp [attempt, ih]

/-- Labelling an error changes neither the requests nor the state. -/
theorem run_mapError (handle : Handler E σ) (f : Error → Error) (p : Program E α) (s : σ) :
    (p.mapError f).run handle s = ((p.run handle s).1.mapError f, (p.run handle s).2) := by
  induction p generalizing s with
  | done outcome => cases outcome <;> rfl
  | ask q next ih => simp [mapError, ih]

end Program

/-! ### Two effects together -/

/-- The requests of both effects. -/
def Effect.sum (E F : Effect) : Effect where
  Request := E.Request ⊕ F.Request
  Reply := fun
    | .inl q => E.Reply q
    | .inr q => F.Reply q

namespace Program

variable {E F : Effect} {α σ τ : Type}

/-- A program of the first effect as one of both. -/
def left : Program E α → Program (E.sum F) α
  | done outcome => done outcome
  | ask q next => ask (E := E.sum F) (.inl q) fun r => (next r).left

/-- A program of the second effect as one of both. -/
def right : Program F α → Program (E.sum F) α
  | done outcome => done outcome
  | ask q next => ask (E := E.sum F) (.inr q) fun r => (next r).right

/-- Two handlers side by side, each with its own state. -/
def Handler.both (f : Handler E σ) (g : Handler F τ) : Handler (E.sum F) (σ × τ)
  | .inl q, s => ((f q s.1).1, ((f q s.1).2, s.2))
  | .inr q, s => ((g q s.2).1, (s.1, (g q s.2).2))

/-! ### Recovering from errors -/

/-- The result of a program, or nothing if it ends because something is missing. -/
def ifFound (p : Program E α) : Program E (Option α) :=
  p.attempt.bind fun
    | .ok a => result (some a)
    | .error e => if e.isNotFound then result none else fail e

/-- The program, and once more after `wait` if the resource is busy. -/
def retryOnce (p : Program E α) (wait : Program E Unit) : Program E α :=
  p.attempt.bind fun
    | .ok a => result a
    | .error e => if e.isTransient then wait.bind fun _ => p else fail e

theorem run_ifFound (handle : Handler E σ) (p : Program E α) (s : σ) :
    p.ifFound.run handle s =
      match p.run handle s with
      | (.ok a, t) => (.ok (some a), t)
      | (.error e, t) => (if e.isNotFound then .ok none else .error e, t) := by
  rw [ifFound, run_bind, run_attempt]
  rcases p.run handle s with ⟨r, t⟩
  cases r with
  | ok a => rfl
  | error e => by_cases h : e.isNotFound <;> simp [h, result, fail]

/-- What is found was the result. -/
theorem of_run_ifFound_eq_some {handle : Handler E σ} {p : Program E α} {s t : σ} {a : α}
    (h : p.ifFound.run handle s = (.ok (some a), t)) : p.run handle s = (.ok a, t) := by
  rw [run_ifFound] at h
  generalize p.run handle s = result at h
  obtain ⟨r, u⟩ := result
  cases r with
  | ok found =>
    obtain ⟨hfound, rfl⟩ := Prod.mk.inj h
    rw [Option.some.inj (Except.ok.inj hfound)]
  | error e =>
    obtain ⟨hfound, -⟩ := Prod.mk.inj h
    split at hfound <;> cases hfound

theorem run_retryOnce (handle : Handler E σ) (p : Program E α) (wait : Program E Unit) (s : σ) :
    (p.retryOnce wait).run handle s =
      match p.run handle s with
      | (.ok a, t) => (.ok a, t)
      | (.error e, t) =>
        if e.isTransient then (wait.bind fun _ => p).run handle t else (.error e, t) := by
  rw [retryOnce, run_bind, run_attempt]
  rcases p.run handle s with ⟨r, t⟩
  cases r with
  | ok a => rfl
  | error e => by_cases h : e.isTransient <;> simp [h, fail]

end Program

end BalancerSync
