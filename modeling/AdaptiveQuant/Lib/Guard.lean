import Mathlib.Data.List.Induction

/-! Guarded computations in `Except ε`: a function that checks its inputs in order and stops at the
first failing check. -/

namespace Guard

open List

universe u v

variable {ε : Type u} {α β : Type v}

/-- Stops with `e` when `bad` holds. -/
def raiseIf (bad : Prop) [Decidable bad] (e : ε) : Except ε Unit :=
  if bad then .error e else .ok ()

variable {bad : Prop} {e : ε}

@[simp] theorem raiseIf_eq_ok [Decidable bad] {u : Unit} : raiseIf bad e = .ok u ↔ ¬bad := by
  unfold raiseIf
  split <;> simp_all

theorem raiseIf_neg [Decidable bad] (e : ε) (h : ¬bad) : raiseIf bad e = .ok () :=
  if_neg h

theorem raiseIf_pos [Decidable bad] (e : ε) (h : bad) : raiseIf bad e = .error e :=
  if_pos h

variable {x : Except ε α} {f : α → Except ε β} {b : β}

@[simp] theorem bind_eq_ok : x >>= f = .ok b ↔ ∃ a, x = .ok a ∧ f a = .ok b := by
  cases x with
  | error e => simp [bind, Except.bind]
  | ok a => simp [bind, Except.bind]

variable {a : α}

@[simp] theorem pure_eq_ok {b : α} : (pure a : Except ε α) = .ok b ↔ a = b := by
  simp [pure, Except.pure]

/-- When a computation of checks and steps succeeds. -/
theorem ok_iff :
    (∀ {ε α β : Type} (x : Except ε α) (f : α → Except ε β) b,
      x >>= f = .ok b ↔ ∃ a, x = .ok a ∧ f a = .ok b) ∧
    (∀ {ε α : Type} (a b : α), (pure a : Except ε α) = .ok b ↔ a = b) ∧
    (∀ {ε : Type} (bad : Prop) [Decidable bad] (e : ε) u, raiseIf bad e = .ok u ↔ ¬bad) ∧
    ∀ p : Prop, (∃ _ : Unit, p) ↔ p :=
  ⟨fun _ _ _ => bind_eq_ok, fun _ _ => pure_eq_ok, fun _ _ _ _ => raiseIf_eq_ok,
    fun _ => exists_const _⟩

@[simp] theorem map_eq_ok {f : α → β} : f <$> x = .ok b ↔ ∃ a, x = .ok a ∧ f a = b := by
  cases x with
  | error e => simp [Functor.map, Except.map]
  | ok a => simp [Functor.map, Except.map]

@[simp] theorem ok_bind (a : α) (f : α → Except ε β) : (Except.ok a >>= f) = f a := rfl

@[simp] theorem error_bind (e : ε) (f : α → Except ε β) :
    ((Except.error e : Except ε α) >>= f) = .error e := rfl

variable {xs : List α} {ys : List β}

theorem mem_of_mapM_eq_ok (h : xs.mapM f = .ok ys) : ∀ y ∈ ys, ∃ x ∈ xs, f x = .ok y := by
  induction xs generalizing ys with
  | nil =>
    rw [mapM_nil, pure_eq_ok] at h
    simp [← h]
  | cons x xs ih =>
    simp only [mapM_cons, bind_eq_ok, pure_eq_ok] at h
    obtain ⟨y, hy, rest, hrest, rfl⟩ := h
    intro z hz
    rcases mem_cons.mp hz with rfl | hz
    · exact ⟨x, mem_cons_self, hy⟩
    · obtain ⟨x', hx', hfx'⟩ := ih hrest z hz
      exact ⟨x', mem_cons_of_mem _ hx', hfx'⟩

theorem exists_of_mapM_eq_ok (h : xs.mapM f = .ok ys) : ∀ x ∈ xs, ∃ y ∈ ys, f x = .ok y := by
  induction xs generalizing ys with
  | nil => simp
  | cons x xs ih =>
    simp only [mapM_cons, bind_eq_ok, pure_eq_ok] at h
    obtain ⟨y, hy, rest, hrest, rfl⟩ := h
    intro z hz
    rcases mem_cons.mp hz with rfl | hz
    · exact ⟨y, mem_cons_self, hy⟩
    · obtain ⟨w, hw, hfw⟩ := ih hrest z hz
      exact ⟨w, mem_cons_of_mem _ hw, hfw⟩

theorem map_of_mapM_eq_ok {γ : Type*} {g : β → γ} {k : α → γ}
    (hf : ∀ x y, f x = .ok y → g y = k x) (h : xs.mapM f = .ok ys) :
    ys.map g = xs.map k := by
  induction xs generalizing ys with
  | nil =>
    rw [mapM_nil, pure_eq_ok] at h
    rw [← h]
    rfl
  | cons x xs ih =>
    simp only [mapM_cons, bind_eq_ok, pure_eq_ok] at h
    obtain ⟨y, hy, rest, hrest, rfl⟩ := h
    rw [map_cons, map_cons, hf x y hy, ih hrest]

theorem mapM_eq_ok {g : α → β} (h : ∀ x ∈ xs, f x = .ok (g x)) : xs.mapM f = .ok (xs.map g) := by
  induction xs with
  | nil => rfl
  | cons x xs ih =>
    rw [forall_mem_cons] at h
    rw [mapM_cons, h.1, ih h.2]
    rfl

theorem mapM_of_forall (h : ∀ x ∈ xs, ∃ y, f x = .ok y) :
    ∃ ys, xs.mapM f = .ok ys ∧ ∀ x ∈ xs, ∃ y ∈ ys, f x = .ok y := by
  induction xs with
  | nil => exact ⟨[], rfl, by simp⟩
  | cons x xs ih =>
    rw [forall_mem_cons] at h
    obtain ⟨y, hy⟩ := h.1
    obtain ⟨ys, hys, hmem⟩ := ih h.2
    refine ⟨y :: ys, by rw [mapM_cons, hy, hys]; rfl, ?_⟩
    intro z hz
    rcases mem_cons.mp hz with rfl | hz
    · exact ⟨y, mem_cons_self, hy⟩
    · obtain ⟨w, hw, hfw⟩ := hmem z hz
      exact ⟨w, mem_cons_of_mem _ hw, hfw⟩

theorem exists_of_any {p : α → Bool} (h : x.toOption.any p = true) :
    ∃ a, x = .ok a ∧ p a = true := by
  cases x with
  | error e => simp [Except.toOption] at h
  | ok a => exact ⟨a, rfl, by simpa [Except.toOption] using h⟩

theorem exists_both_of_any {y : Except ε β} {p : α × β → Bool}
    (h : (x.bind fun a => y.map fun b => (a, b)).toOption.any p = true) :
    ∃ a b, x = .ok a ∧ y = .ok b ∧ p (a, b) = true := by
  obtain ⟨⟨a, b⟩, hok, hp⟩ := exists_of_any h
  obtain ⟨_, hx, hok⟩ := bind_eq_ok.mp hok
  obtain ⟨_, hy, heq⟩ := map_eq_ok.mp hok
  cases heq
  exact ⟨a, b, hx, hy, hp⟩

def failure? : Except ε α → Option ε
  | .error e => some e
  | .ok _ => none

theorem failure?_eq_some : failure? x = some e ↔ x = .error e := by
  cases x with
  | error e' => simp [failure?]
  | ok a => simp [failure?]

variable {r : β}

theorem foldlM_induction {f : β → α → Except ε β}
    (h : xs.foldlM f b = .ok r) (Inv : List α → β → Prop) (start : Inv [] b)
    (step : ∀ pre x acc acc', Inv pre acc → f acc x = .ok acc' → Inv (pre ++ [x]) acc') :
    Inv xs r := by
  induction xs using List.reverseRecOn generalizing r with
  | nil =>
    simp only [foldlM_nil, pure_eq_ok] at h
    exact h ▸ start
  | append_singleton xs x ih =>
    simp only [foldlM_append, foldlM_cons, foldlM_nil, bind_pure, bind_eq_ok] at h
    obtain ⟨acc, hacc, hlast⟩ := h
    exact step xs x acc r (ih hacc) hlast

theorem foldlM_congr_of_inv {f g : β → α → Except ε β} (Inv : List α → β → Prop) (start : Inv [] b)
    (step : ∀ pre x acc acc', Inv pre acc → f acc x = .ok acc' → Inv (pre ++ [x]) acc')
    (agree : ∀ pre x post acc, xs = pre ++ x :: post → Inv pre acc → f acc x = g acc x) :
    xs.foldlM f b = xs.foldlM g b := by
  induction xs using List.reverseRecOn with
  | nil => rfl
  | append_singleton xs x ih =>
    have hxs : xs.foldlM f b = xs.foldlM g b :=
      ih fun pre y post acc hsplit => agree pre y (post ++ [x]) acc (by simp [hsplit])
    rw [foldlM_append, foldlM_append, ← hxs]
    cases hacc : xs.foldlM f b with
    | error e => rfl
    | ok acc =>
      have hlast : f acc x = g acc x :=
        agree xs x [] acc rfl (foldlM_induction hacc Inv start step)
      simp only [foldlM_cons, foldlM_nil, bind, Except.bind, hlast]

/-- A computation that does not fail with `e`. -/
def Avoids (e : ε) (x : Except ε α) : Prop := x ≠ .error e

theorem avoids_ok (e : ε) (a : α) : Avoids e (.ok a) := nofun

theorem avoids_error {e' : ε} (h : e' ≠ e) : Avoids e (.error e' : Except ε α) :=
  fun heq => h (Except.error.inj heq)

theorem avoids_raiseIf [Decidable bad] {e' : ε} (h : e' ≠ e) : Avoids e (raiseIf bad e') := by
  unfold raiseIf
  split
  · exact avoids_error h
  · exact avoids_ok e ()

theorem Avoids.bind_ok (h : Avoids e x)
    (next : ∀ a, x = .ok a → Avoids e (f a)) : Avoids e (x >>= f) := by
  cases x with
  | error e' => exact avoids_error fun heq => h (by rw [heq])
  | ok a => exact next a rfl

theorem Avoids.bind (h : Avoids e x)
    (next : ∀ a, Avoids e (f a)) : Avoids e (x >>= f) := h.bind_ok fun a _ => next a

theorem Avoids.check [Decidable bad] {e' : ε} {β : Type} {f : Unit → Except ε β} (h : e' ≠ e)
    (next : Avoids e (f ())) : Avoids e (raiseIf bad e' >>= f) :=
  (avoids_raiseIf h).bind fun _ => next

theorem avoids_mapM (h : ∀ x ∈ xs, Avoids e (f x)) : Avoids e (xs.mapM f) := by
  induction xs with
  | nil => exact avoids_ok e []
  | cons x xs ih =>
    rw [forall_mem_cons] at h
    rw [mapM_cons]
    exact h.1.bind fun _ => (ih h.2).bind fun _ => avoids_ok e _

theorem avoids_foldlM_of_inv {f : β → α → Except ε β} (Inv : List α → β → Prop) (start : Inv [] b)
    (step : ∀ pre x acc acc', Inv pre acc → f acc x = .ok acc' → Inv (pre ++ [x]) acc')
    (pass : ∀ pre x post acc, xs = pre ++ x :: post → Inv pre acc → Avoids e (f acc x)) :
    Avoids e (xs.foldlM f b) := by
  induction xs using List.reverseRecOn with
  | nil => exact avoids_ok e b
  | append_singleton xs x ih =>
    rw [foldlM_append]
    have hbefore : Avoids e (xs.foldlM f b) := ih fun pre y post acc hsplit hinv =>
      pass pre y (post ++ [x]) acc (by simp [hsplit]) hinv
    refine hbefore.bind_ok fun acc hacc => ?_
    rw [foldlM_cons]
    refine Avoids.bind (pass xs x [] acc rfl ?_) fun _ => avoids_ok e _
    exact foldlM_induction hacc Inv start step

theorem avoids_foldlM {f : β → α → Except ε β}
    (h : ∀ b, ∀ x ∈ xs, Avoids e (f b x)) : Avoids e (xs.foldlM f b) :=
  avoids_foldlM_of_inv (fun _ _ => True) trivial (fun _ _ _ _ _ _ => trivial)
    fun pre x post acc hsplit _ => h acc x (by simp [hsplit])

theorem forM_eq_ok {f : α → Except ε PUnit.{v + 1}} {u : PUnit} :
    xs.forM f = .ok u ↔ ∀ x ∈ xs, f x = .ok PUnit.unit := by
  induction xs with
  | nil => simp [List.forM, pure_eq_ok]
  | cons x xs ih =>
    rw [forall_mem_cons, ← ih]
    exact bind_eq_ok.trans ⟨fun ⟨_, hx, hxs⟩ => ⟨hx, hxs⟩, fun ⟨hx, hxs⟩ => ⟨_, hx, hxs⟩⟩

theorem avoids_forM {f : α → Except ε PUnit}
    (h : ∀ x ∈ xs, Avoids e (f x)) : Avoids e (xs.forM f) := by
  induction xs with
  | nil => exact avoids_ok e PUnit.unit
  | cons x xs ih =>
    rw [forall_mem_cons] at h
    exact h.1.bind fun _ => ih h.2

/-- A value that passed `check`. -/
structure Validated {α : Type v} (check : α → Except ε Unit) where
  val : α
  valid : check val = .ok ()

instance {check : α → Except ε Unit} [DecidableEq α] : DecidableEq (Validated check) := fun a b =>
  decidable_of_iff (a.val = b.val) ⟨fun h => by cases a; cases b; cases h; rfl, fun h => by rw [h]⟩

/-- The value as one that passed `check`, or the failure of the check. -/
def validate (check : α → Except ε Unit) (a : α) : Except ε (Validated check) :=
  match h : check a with
  | .ok () => .ok ⟨a, h⟩
  | .error e => .error e

@[simp] theorem validate_eq_ok {check : α → Except ε Unit} {v : Validated check} :
    validate check a = .ok v ↔ v.val = a := by
  unfold validate
  constructor
  · intro h
    split at h
    · cases h
      rfl
    · cases h
  · rintro rfl
    split
    · rfl
    · rename_i h
      rw [v.valid] at h
      cases h

theorem validate_of_ok {check : α → Except ε Unit} (h : check a = .ok ()) :
    validate check a = .ok ⟨a, h⟩ := validate_eq_ok.mpr rfl

theorem validate_of_error {check : α → Except ε Unit} (h : check a = .error e) :
    validate check a = .error e := by
  unfold validate
  split
  · rename_i hok
    rw [h] at hok
    cases hok
  · rename_i e' herror
    rw [h] at herror
    rw [Except.error.inj herror]

theorem avoids_validate {check : α → Except ε Unit} (h : Avoids e (check a)) :
    Avoids e (validate check a) := by
  intro heq
  cases hcheck : check a with
  | ok u => rw [validate_of_ok hcheck] at heq; cases heq
  | error e' =>
    rw [validate_of_error hcheck] at heq
    exact h (hcheck.trans (congrArg _ (Except.error.inj heq)))

/-- The computation returns a value. -/
def Succeeds (x : Except ε α) : Prop := ∃ a, x = .ok a

theorem foldlM_concat_eq_ok {f : β → α → Except ε β} {x : α} :
    (xs ++ [x]).foldlM f b = .ok r ↔ ∃ acc, xs.foldlM f b = .ok acc ∧ f acc x = .ok r := by
  simp only [foldlM_append, foldlM_cons, foldlM_nil, bind_pure, bind_eq_ok]

theorem foldlM_ok_congr {f g : β → α → Except ε β} (h : ∀ b a r, f b a = .ok r ↔ g b a = .ok r)
    : xs.foldlM f b = .ok r ↔ xs.foldlM g b = .ok r := by
  induction xs using List.reverseRecOn generalizing r with
  | nil => rfl
  | append_singleton xs x ih => simp only [foldlM_concat_eq_ok, ih, h]

theorem foldlM_take {f : β → α → Except ε β} (n : Nat)
    (h : xs.foldlM f b = .ok r) : ∃ acc, (xs.take n).foldlM f b = .ok acc := by
  rw [← take_append_drop n xs, foldlM_append, bind_eq_ok] at h
  obtain ⟨acc, hacc, -⟩ := h
  exact ⟨acc, hacc⟩

end Guard
