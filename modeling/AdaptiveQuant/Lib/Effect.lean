import Mathlib.Data.List.Basic

/-! Computations that change a state and may fail, where a failure keeps what was changed before it.
-/

/-- A computation on states `σ` that fails with `ε` or returns `α`. -/
def Effect (σ ε α : Type) : Type := σ → Except ε α × σ

namespace Effect

variable {σ ε α β : Type}

instance : Monad (Effect σ ε) where
  pure a := fun s => (.ok a, s)
  bind x f := fun s => match x s with
    | (.ok a, s') => f a s'
    | (.error e, s') => (.error e, s')

def fail (e : ε) : Effect σ ε α := fun s => (.error e, s)

def ofExcept (x : Except ε α) : Effect σ ε α := fun s => (x, s)

/-- A value read from the state. -/
def reads (f : σ → α) : Effect σ ε α := fun s => (.ok (f s), s)

/-- The outcome of a computation as a value: the `try` of a language with exceptions. -/
def attempt (x : Effect σ ε α) : Effect σ ε (Except ε α) := fun s => (.ok (x s).1, (x s).2)

/-- The computation `f` at each element in turn, up to the first failure. -/
def each (f : α → Effect σ ε Unit) : List α → Effect σ ε Unit
  | [] => pure ()
  | a :: rest => do
    f a
    each f rest

variable {x : Effect σ ε α} {f : α → Effect σ ε β} {s s' : σ}

@[simp] theorem pure_run (a : α) : (pure a : Effect σ ε α) s = (.ok a, s) := rfl

@[simp] theorem fail_run (e : ε) : (fail e : Effect σ ε α) s = (.error e, s) := rfl

@[simp] theorem ofExcept_run (r : Except ε α) : (ofExcept r : Effect σ ε α) s = (r, s) := rfl

@[simp] theorem reads_run (g : σ → α) : (reads g : Effect σ ε α) s = (.ok (g s), s) := rfl

@[simp] theorem attempt_run : attempt x s = (.ok (x s).1, (x s).2) := rfl

theorem bind_apply : (x >>= f) s = match x s with
    | (.ok a, s') => f a s'
    | (.error e, s') => (.error e, s') := rfl

theorem bind_ok {a : α} (h : x s = (.ok a, s')) : (x >>= f) s = f a s' := by
  show (match x s with
    | (.ok a, s') => f a s'
    | (.error e, s') => (.error e, s')) = f a s'
  rw [h]

variable {e : ε}

theorem bind_error (h : x s = (.error e, s')) : (x >>= f) s = (.error e, s') := by
  show (match x s with
    | (.ok a, s') => f a s'
    | (.error e, s') => (.error e, s')) = (.error e, s')
  rw [h]

theorem bind_run_eq_ok {b : β} {s'' : σ} :
    (x >>= f) s = (.ok b, s'') ↔ ∃ a s', x s = (.ok a, s') ∧ f a s' = (.ok b, s'') := by
  rcases h : x s with ⟨e | a, s'⟩
  · rw [bind_error h]
    simp
  · rw [bind_ok h]
    constructor
    · intro hf
      exact ⟨a, s', rfl, hf⟩
    · rintro ⟨a', t, heq, hf⟩
      cases heq
      exact hf

theorem bind_bind {γ : Type} (x : Effect σ ε α) (f : α → Effect σ ε β) (g : β → Effect σ ε γ) :
    x >>= f >>= g = x >>= fun a => f a >>= g := by
  funext s
  rcases h : x s with ⟨e | a, s'⟩
  · rw [bind_error h, bind_error (bind_error h)]
  · rw [bind_ok h]
    show ((x >>= f) >>= g) s = (f a >>= g) s'
    rcases hf : f a s' with ⟨e | b, s''⟩
    · rw [bind_error hf, bind_error ((bind_ok h).trans hf)]
    · rw [bind_ok hf, bind_ok ((bind_ok h).trans hf)]

theorem pure_bind_eq (a : α) (f : α → Effect σ ε β) : (pure a : Effect σ ε α) >>= f = f a := rfl

/-- A computation that does not fail with `e`. -/
def Avoids (e : ε) (x : Effect σ ε α) : Prop := ∀ s, (x s).1 ≠ .error e

theorem avoids_pure (e : ε) (a : α) : Avoids e (pure a : Effect σ ε α) := fun _ => nofun

theorem avoids_fail {e e' : ε} (h : e' ≠ e) : Avoids e (fail e' : Effect σ ε α) :=
  fun _ heq => h (Except.error.inj heq)

theorem avoids_ofExcept {r : Except ε α} (h : r ≠ .error e) :
    Avoids e (ofExcept r : Effect σ ε α) := fun _ => h

theorem avoids_reads (e : ε) (g : σ → α) : Avoids e (reads g : Effect σ ε α) := fun _ => nofun

theorem Avoids.bind (h : Avoids e x) (next : ∀ a, Avoids e (f a)) : Avoids e (x >>= f) := by
  intro s
  have hs := h s
  rcases hx : x s with ⟨e' | a, s'⟩
  · rw [bind_error hx]
    rw [hx] at hs
    exact fun heq => hs (by rw [Except.error.inj heq])
  · rw [bind_ok hx]
    exact next a s'

theorem Avoids.each {step : α → Effect σ ε Unit} {items : List α}
    (h : ∀ a ∈ items, Avoids e (step a)) : Avoids e (each step items) := by
  induction items with
  | nil => exact avoids_pure e ()
  | cons a rest ih =>
    rw [List.forall_mem_cons] at h
    exact h.1.bind fun _ => ih h.2

/-- A computation that leaves every state with `I` in a state with `I`, whether or not it fails. -/
def Keeps (I : σ → Prop) (x : Effect σ ε α) : Prop := ∀ s, I s → I (x s).2

variable {I : σ → Prop}

theorem Keeps.pure (a : α) : Keeps I (pure a : Effect σ ε α) := fun _ h => h

theorem Keeps.fail (e : ε) : Keeps I (fail e : Effect σ ε α) := fun _ h => h

theorem Keeps.ofExcept (r : Except ε α) : Keeps I (ofExcept r : Effect σ ε α) := fun _ h => h

theorem Keeps.reads (g : σ → α) : Keeps I (reads g : Effect σ ε α) := fun _ h => h

theorem Keeps.attempt (h : Keeps I x) : Keeps I (attempt x) := h

theorem Keeps.bind_of (h : Keeps I x) (next : ∀ a s s', I s → x s = (.ok a, s') → I s' →
    I (f a s').2) : Keeps I (x >>= f) := by
  intro s hs
  have hs' := h s hs
  rcases hx : x s with ⟨e | a, s'⟩
  · rw [bind_error hx]
    rwa [hx] at hs'
  · rw [bind_ok hx]
    rw [hx] at hs'
    exact next a s s' hs hx hs'

theorem Keeps.bind (h : Keeps I x) (next : ∀ a, Keeps I (f a)) : Keeps I (x >>= f) :=
  h.bind_of fun a _ s' _ _ hs' => next a s' hs'

theorem Keeps.each {step : α → Effect σ ε Unit} {items : List α}
    (h : ∀ a ∈ items, Keeps I (step a)) : Keeps I (each step items) := by
  induction items with
  | nil => exact Keeps.pure ()
  | cons a rest ih =>
    rw [List.forall_mem_cons] at h
    exact h.1.bind fun _ => ih h.2

theorem Keeps.ok {a : α} (h : Keeps I x) (run : x s = (.ok a, s')) (hs : I s) : I s' := by
  have := h s hs
  rwa [run] at this

end Effect

/-- How a program stops without a result: with an exception of its own, or by a crash. -/
inductive Stop (ε : Type)
  | raised (e : ε)
  | crashed

/-- A program on states `σ`, with the changes that it may still make. -/
abbrev Program (σ ε α : Type) : Type := Effect (σ × Option ℕ) (Stop ε) α

namespace Program

variable {σ ε α β : Type}

/-- A computation on the state that changes nothing: it may raise an exception. -/
def ask (f : σ → Except ε α) : Program σ ε α := fun s =>
  match f s.1 with
  | .ok a => (.ok a, s)
  | .error e => (.error (.raised e), s)

def change (f : σ → σ) : Program σ ε Unit := fun s =>
  match s.2 with
  | none => (.ok (), (f s.1, none))
  | some 0 => (.error .crashed, s)
  | some (n + 1) => (.ok (), (f s.1, some n))

/-- The result of a program and the state that it leaves, after at most the changes of its
budget. -/
def run (p : Program σ ε α) (s : σ) (budget : Option ℕ) : Except (Stop ε) α × σ :=
  ((p (s, budget)).1, (p (s, budget)).2.1)

end Program
