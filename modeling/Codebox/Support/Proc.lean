import Mathlib.Logic.Basic

/-! # Computations over a state that may fail or be cut by a crash

A procedure transforms a state and ends in one of three ways: it returns a value,
it returns an error that its caller may handle, or the process dies in the middle.
A crash keeps the state reached so far and no handler sees it, so that what a
procedure left behind on durable storage stays visible to a later process.

The predicate transformer `wp` takes one postcondition for each way of ending. It is
an equivalence for every operation below, so a proof can follow a program in either
direction.
-/

namespace Codebox.Support

/-- How a procedure ended. -/
inductive Outcome (ε α : Type) where
  | ok (value : α)
  | error (reason : ε)
  | crashed
  deriving Repr, DecidableEq

def Outcome.toOption {ε α : Type} : Outcome ε α → Option α
  | .ok value => some value
  | .error _ | .crashed => none

def Outcome.mapError {ε ε' α : Type} (f : ε → ε') : Outcome ε α → Outcome ε' α
  | .ok value => .ok value
  | .error reason => .error (f reason)
  | .crashed => .crashed

@[simp] theorem Outcome.toOption_eq_some {ε α : Type} {outcome : Outcome ε α} {value : α} :
    outcome.toOption = some value ↔ outcome = .ok value := by
  cases outcome <;> simp [Outcome.toOption]

/-- A deterministic state transformer; the environment's choices are part of the state. -/
def Proc (σ ε α : Type) : Type := σ → Outcome ε α × σ

namespace Proc

variable {σ τ ε ε' α β : Type} {p : Proc σ ε α} {f : α → Proc σ ε β} {s' : σ}

protected def pure (value : α) : Proc σ ε α := fun s => (.ok value, s)

protected def bind (p : Proc σ ε α) (f : α → Proc σ ε β) : Proc σ ε β := fun s =>
  match p s with
  | (.ok value, s') => f value s'
  | (.error reason, s') => (.error reason, s')
  | (.crashed, s') => (.crashed, s')

instance : Monad (Proc σ ε) where
  pure := Proc.pure
  bind := Proc.bind

protected theorem pure_bind (value : α) (f : α → Proc σ ε β) : Pure.pure value >>= f = f value := rfl

protected theorem bind_assoc {γ : Type} (p : Proc σ ε α) (f : α → Proc σ ε β) (g : β → Proc σ ε γ) :
    p >>= f >>= g = p >>= fun value => f value >>= g := by
  funext s
  simp only [Bind.bind, Proc.bind]
  rcases p s with ⟨_ | _ | _, s'⟩ <;> rfl

theorem bind_eq_ok {s : σ} {result : β} (ran : (p >>= f) s = (.ok result, s')) :
    ∃ value between, p s = (.ok value, between) ∧ f value between = (.ok result, s') := by
  simp only [Bind.bind, Proc.bind] at ran
  rcases first : p s with ⟨value | _ | _, between⟩ <;> rw [first] at ran
  · exact ⟨value, between, rfl, ran⟩
  · cases ran
  · cases ran

/-- Leave with an error; the state reached so far is kept. -/
def fail (reason : ε) : Proc σ ε α := fun s => (.error reason, s)

def get : Proc σ ε σ := fun s => (.ok s, s)

def modify (f : σ → σ) : Proc σ ε Unit := fun s => (.ok (), f s)

def crash : Proc σ ε α := fun s => (.crashed, s)

/-- Run a procedure and hand its error to the caller as a value; a crash passes through. -/
def attempt (p : Proc σ ε α) : Proc σ ε' (Except ε α) := fun s =>
  match p s with
  | (.ok value, s') => (.ok (.ok value), s')
  | (.error reason, s') => (.ok (.error reason), s')
  | (.crashed, s') => (.crashed, s')

def mapError (f : ε → ε') (p : Proc σ ε α) : Proc σ ε' α := fun s =>
  match p s with
  | (.ok value, s') => (.ok value, s')
  | (.error reason, s') => (.error (f reason), s')
  | (.crashed, s') => (.crashed, s')

theorem mapError_apply (f : ε → ε') (p : Proc σ ε α) (s : σ) :
    mapError f p s = ((p s).1.mapError f, (p s).2) := by
  unfold mapError
  rcases p s with ⟨_ | _ | _, s'⟩ <;> rfl

theorem mapError_mapError {ε'' : Type} (f : ε → ε') (g : ε' → ε'') (p : Proc σ ε α) :
    mapError g (mapError f p) = mapError (fun reason => g (f reason)) p := by
  funext s
  simp only [mapError]
  rcases p s with ⟨_ | _ | _, s'⟩ <;> rfl

theorem mapError_bind (f : ε → ε') (p : Proc σ ε α) (rest : α → Proc σ ε β) :
    mapError f (p >>= rest) = mapError f p >>= fun value => mapError f (rest value) := by
  funext s
  simp only [mapError, Bind.bind, Proc.bind]
  rcases p s with ⟨_ | _ | _, s'⟩ <;> rfl

/-- A pure computation with the same errors. -/
def ofExcept : Except ε α → Proc σ ε α
  | .ok value => Proc.pure value
  | .error reason => fail reason

theorem mapError_ofExcept (f : ε → ε') (result : Except ε α) :
    mapError f (ofExcept result : Proc σ ε α) = ofExcept (result.mapError f) := by
  cases result <;> rfl

/-- Run a procedure on one part of a larger state. -/
def on (part : τ → σ) (replace : τ → σ → τ) (p : Proc σ ε α) : Proc τ ε α := fun t =>
  match p (part t) with
  | (outcome, s') => (outcome, replace t s')

/-- The weakest precondition for a returned value, an error and a crash. -/
def wp (p : Proc σ ε α) (onOk : α → σ → Prop) (onError : ε → σ → Prop)
    (onCrash : σ → Prop) (s : σ) : Prop :=
  match p s with
  | (.ok value, s') => onOk value s'
  | (.error reason, s') => onError reason s'
  | (.crashed, s') => onCrash s'

variable {onOk onOk' : α → σ → Prop} {onError onError' : ε → σ → Prop} {onCrash onCrash' inv : σ → Prop} {s : σ}
  {q : Proc σ ε α} {replace : τ → σ → τ} {reason : ε}

@[simp] theorem wp_pure (value : α) :
    wp (Pure.pure value : Proc σ ε α) onOk onError onCrash s = onOk value s := rfl

@[simp] theorem wp_fail (reason : ε) :
    wp (fail reason : Proc σ ε α) onOk onError onCrash s = onError reason s := rfl

@[simp] theorem wp_crash :
    wp (crash : Proc σ ε α) onOk onError onCrash s = onCrash s := rfl

@[simp] theorem wp_get {onOk : σ → σ → Prop} :
    wp (get : Proc σ ε σ) onOk onError onCrash s = onOk s s := rfl

@[simp] theorem wp_modify (f : σ → σ) {onOk : Unit → σ → Prop} :
    wp (modify f : Proc σ ε Unit) onOk onError onCrash s = onOk () (f s) := rfl

@[simp] theorem wp_bind (p : Proc σ ε α) (f : α → Proc σ ε β) {onOk : β → σ → Prop} :
    wp (p >>= f) onOk onError onCrash s =
      wp p (fun value s' => wp (f value) onOk onError onCrash s') onError onCrash s := by
  simp only [wp, Bind.bind, Proc.bind]
  rcases p s with ⟨_ | _ | _, s'⟩ <;> rfl

@[simp] theorem wp_attempt (p : Proc σ ε α) {onOk : Except ε α → σ → Prop}
    {onError : ε' → σ → Prop} :
    wp (attempt p) onOk onError onCrash s =
      wp p (fun value => onOk (.ok value)) (fun reason => onOk (.error reason)) onCrash s := by
  simp only [wp, attempt]
  rcases p s with ⟨_ | _ | _, s'⟩ <;> rfl

@[simp] theorem wp_mapError (f : ε → ε') (p : Proc σ ε α) {onError : ε' → σ → Prop} :
    wp (mapError f p) onOk onError onCrash s =
      wp p onOk (fun reason => onError (f reason)) onCrash s := by
  simp only [wp, mapError]
  rcases p s with ⟨_ | _ | _, s'⟩ <;> rfl

@[simp] theorem wp_ofExcept_ok (value : α) :
    wp (ofExcept (.ok value) : Proc σ ε α) onOk onError onCrash s = onOk value s := rfl

@[simp] theorem wp_ofExcept_error (reason : ε) :
    wp (ofExcept (.error reason) : Proc σ ε α) onOk onError onCrash s = onError reason s := rfl

@[simp] theorem wp_on (part : τ → σ) (replace : τ → σ → τ) (p : Proc σ ε α) {t : τ}
    {onOk : α → τ → Prop} {onError : ε → τ → Prop} {onCrash : τ → Prop} :
    wp (on part replace p) onOk onError onCrash t =
      wp p (fun value s' => onOk value (replace t s')) (fun reason s' => onError reason (replace t s'))
        (fun s' => onCrash (replace t s')) (part t) := by
  simp only [wp, on]
  rcases p (part t) with ⟨_ | _ | _, s'⟩ <;> rfl

@[simp] theorem wp_ite (c : Prop) [Decidable c] (p q : Proc σ ε α) :
    wp (if c then p else q) onOk onError onCrash s =
      if c then wp p onOk onError onCrash s else wp q onOk onError onCrash s := by
  split <;> rfl

theorem wp_congr {p : Proc σ ε α} {s : σ} {onOk : α → σ → Prop} {onError : ε → σ → Prop} {onCrash : σ → Prop}
    (same : p s = q s) : p.wp onOk onError onCrash s = q.wp onOk onError onCrash s := by
  rw [wp, same, wp]

/-- The rule of consequence. -/
theorem wp_mono (holds : wp p onOk onError onCrash s) (okay : ∀ value s', onOk value s' → onOk' value s')
    (failed : ∀ reason s', onError reason s' → onError' reason s') (died : ∀ s', onCrash s' → onCrash' s') :
    wp p onOk' onError' onCrash' s := by
  revert holds
  simp only [wp]
  rcases p s with ⟨_ | _ | _, s'⟩
  · exact okay _ _
  · exact failed _ _
  · exact died _

/-- Two specifications of one run hold together. -/
theorem wp_and (first : wp p onOk onError onCrash s) (second : wp p onOk' onError' onCrash' s) :
    wp p (fun value s' => onOk value s' ∧ onOk' value s')
      (fun reason s' => onError reason s' ∧ onError' reason s')
      (fun s' => onCrash s' ∧ onCrash' s') s := by
  revert first second
  simp only [wp]
  rcases p s with ⟨_ | _ | _, s'⟩ <;> exact And.intro

/-- The strongest postconditions: the run itself. -/
theorem wp_run (p : Proc σ ε α) (s : σ) :
    wp p (fun value s' => p s = (.ok value, s')) (fun reason s' => p s = (.error reason, s'))
      (fun s' => p s = (.crashed, s')) s := by
  simp only [wp]
  rcases p s with ⟨_ | _ | _, s'⟩ <;> rfl

/-- Postconditions that hold of every value, error and state need no look at the run. -/
theorem wp_any (okay : ∀ value s', onOk value s') (failed : ∀ reason s', onError reason s')
    (died : ∀ s', onCrash s') : wp p onOk onError onCrash s :=
  wp_mono (wp_run p s) (fun value s' _ => okay value s') (fun reason s' _ => failed reason s')
    (fun s' _ => died s')

/-- The run from this state returns a value. -/
def Succeeds (p : Proc σ ε α) (s : σ) : Prop := ∃ value s', p s = (.ok value, s')

theorem succeeds_iff : Succeeds p s ↔ wp p (fun _ _ => True) (fun _ _ => False) (fun _ => False) s := by
  simp only [Succeeds, wp]
  rcases p s with ⟨_ | _ | _, s'⟩ <;> simp

instance {p : Proc σ ε α} : Decidable (Succeeds p s) :=
  decidable_of_iff ((p s).1.toOption.isSome = true) (by
    simp only [Succeeds]
    rcases p s with ⟨_ | _ | _, s'⟩ <;> simp [Outcome.toOption])

theorem not_succeeds_iff : ¬ Succeeds p s ↔ wp p (fun _ _ => False) (fun _ _ => True) (fun _ => True) s := by
  simp only [Succeeds, wp]
  rcases p s with ⟨_ | _ | _, s'⟩ <;> simp

/-- What is known of returned values is known of a run that succeeds. -/
theorem Succeeds.wp (success : Succeeds p s)
    (known : wp p onOk (fun _ _ => True) (fun _ => True) s) : wp p onOk onError onCrash s :=
  wp_mono (wp_and (succeeds_iff.mp success) known) (fun _ _ both => both.2)
    (fun _ _ both => both.1.elim) (fun _ both => both.1.elim)

theorem succeeds_bind (first : Succeeds p s)
    (rest : wp p (fun value s' => Succeeds (f value) s') (fun _ _ => True) (fun _ => True) s) :
    Succeeds (p >>= f) s := by
  rw [succeeds_iff, wp_bind]
  exact first.wp (wp_mono rest (fun _ _ next => succeeds_iff.mp next) (fun _ _ => id) (fun _ => id))

/-- A run that can neither fail nor crash returns. -/
theorem wp_returns (spec : wp p onOk (fun _ _ => False) (fun _ => False) s) :
    ∃ value s', p s = (.ok value, s') ∧ onOk value s' := by
  revert spec
  simp only [wp]
  rcases p s with ⟨_ | _ | _, s'⟩
  · exact fun spec => ⟨_, _, rfl, spec⟩
  · exact False.elim
  · exact False.elim

/-- Read the postcondition off a run. -/
theorem wp_ok {value : α} (spec : wp p onOk onError onCrash s) (run : p s = (.ok value, s')) : onOk value s' := by
  simpa only [wp, run] using spec

theorem wp_of_ok {value : α} (run : p s = (.ok value, s')) (holds : onOk value s') : wp p onOk onError onCrash s := by
  simpa only [wp, run] using holds

theorem wp_of_error (run : p s = (.error reason, s')) (holds : onError reason s') : wp p onOk onError onCrash s := by
  simpa only [wp, run] using holds

theorem wp_error (spec : wp p onOk onError onCrash s) (refused : (p s).1 = .error reason) :
    onError reason (p s).2 := by
  revert spec refused
  simp only [wp]
  rcases p s with ⟨_ | _ | _, s'⟩
  · nofun
  · rintro spec ⟨⟩
    exact spec
  · nofun

/-- A procedure that keeps `inv` however it ends. -/
def Keeps (inv : σ → Prop) (p : Proc σ ε α) : Prop := ∀ s, inv s → inv (p s).2

/-- A postcondition that does not look at the outcome is one on the state left behind. -/
theorem wp_always : wp p (fun _ => inv) (fun _ => inv) inv s ↔ inv (p s).2 := by
  simp only [wp]
  rcases p s with ⟨_ | _ | _, s'⟩ <;> rfl

theorem keeps_iff : Keeps inv p ↔ ∀ s, inv s → wp p (fun _ => inv) (fun _ => inv) inv s :=
  forall_congr' fun _ => imp_congr_right fun _ => wp_always.symm

theorem keeps_pure (value : α) : Keeps inv (Pure.pure value : Proc σ ε α) := fun _ kept => kept

theorem keeps_fail (reason : ε) : Keeps inv (fail reason : Proc σ ε α) := fun _ kept => kept

theorem keeps_get : Keeps inv (get : Proc σ ε σ) := fun _ kept => kept

theorem keeps_modify {f : σ → σ} (step : ∀ s, inv s → inv (f s)) :
    Keeps inv (modify f : Proc σ ε Unit) := step

theorem keeps_bind (first : Keeps inv p) (rest : ∀ value, Keeps inv (f value)) : Keeps inv (p >>= f) := by
  rw [keeps_iff]
  intro s kept
  rw [wp_bind]
  exact wp_mono (keeps_iff.mp first s kept) (fun value s' => keeps_iff.mp (rest value) s')
    (fun _ _ => id) (fun _ => id)

theorem keeps_attempt (kept : Keeps inv p) : Keeps inv (attempt p : Proc σ ε' (Except ε α)) := by
  rw [keeps_iff] at kept ⊢
  simpa only [wp_attempt] using kept

theorem keeps_mapError {f : ε → ε'} (kept : Keeps inv p) : Keeps inv (mapError f p) := by
  rw [keeps_iff] at kept ⊢
  simpa only [wp_mapError] using kept

theorem keeps_ofExcept (result : Except ε α) : Keeps inv (ofExcept result : Proc σ ε α) := by
  cases result with
  | ok value => exact keeps_pure value
  | error reason => exact keeps_fail reason

theorem keeps_on {part : τ → σ} {inv : τ → Prop} (kept : ∀ t, inv t → inv (replace t (p (part t)).2)) :
    Keeps inv (on part replace p) := kept

section Projects

variable {part : τ → σ}

/-- Seen through `part`, the run of `p` is a run of `q`: the rest of the larger state is a record
that `p` keeps and never reads. -/
def Projects (part : τ → σ) (p : Proc τ ε α) (q : Proc σ ε α) : Prop :=
  ∀ t, q (part t) = ((p t).1, part (p t).2)

theorem projects_pure (value : α) :
    Projects part (Pure.pure value : Proc τ ε α) (Pure.pure value) := fun _ => rfl

theorem projects_fail (reason : ε) : Projects part (fail reason : Proc τ ε α) (fail reason) := fun _ => rfl

theorem projects_on (replaced : ∀ t s, part (replace t s) = s) (q : Proc σ ε α) :
    Projects part (on part replace q) q := by
  intro t
  simp only [on, replaced]

theorem projects_ofExcept (result : Except ε α) :
    Projects part (ofExcept result : Proc τ ε α) (ofExcept result) := by
  cases result with
  | ok value => exact projects_pure value
  | error reason => exact projects_fail reason

theorem projects_bind {p : Proc τ ε α} {f : α → Proc τ ε β} {g : α → Proc σ ε β} (first : Projects part p q)
    (rest : ∀ value, Projects part (f value) (g value)) : Projects part (p >>= f) (q >>= g) := by
  intro t
  simp only [Bind.bind, Proc.bind, first t]
  rcases p t with ⟨value | _ | _, t'⟩
  · exact rest value t'
  · rfl
  · rfl

theorem projects_mapError {p : Proc τ ε α} (f : ε → ε') (run : Projects part p q) :
    Projects part (mapError f p) (mapError f q) := by
  intro t
  simp only [mapError, run t]
  rcases p t with ⟨_ | _ | _, t'⟩ <;> rfl

/-- An update of the record alone is no step of the smaller run. -/
theorem projects_modify {f : τ → τ} (kept : ∀ t, part (f t) = part t) {p : Proc τ ε α} (rest : Projects part p q) :
    Projects part (modify f >>= fun _ => p) q := by
  intro t
  have next := rest (f t)
  rw [kept t] at next
  exact next

end Projects

end Proc

end Codebox.Support
