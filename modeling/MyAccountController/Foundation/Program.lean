import MyAccountController.Foundation.Interleaving

/-! # Programs with await points

A program runs without interruption up to its next await point. Run alone it is
a handler, and the rules below compute that handler. Between two await points
the state may be changed by others, so a relation that holds at every step is
stated of the program itself.
-/

namespace Foundation

/-- A computation in steps. What is left of it depends on the state the step
was taken in. -/
inductive Program (ε σ α : Type) where
  | done (result : Except ε α)
  | await (effect : σ → σ) (rest : σ → Program ε σ α)

namespace Program

variable {ε σ τ α β : Type}

protected def bind : Program ε σ α → (α → Program ε σ β) → Program ε σ β
  | .done (.ok a), f => f a
  | .done (.error e), _ => .done (.error e)
  | .await effect rest, f => .await effect fun s => (rest s).bind f

instance : Monad (Program ε σ) where
  pure a := .done (.ok a)
  bind := Program.bind

/-- Stop with an exception. -/
def raise (e : ε) : Program ε σ α := .done (.error e)

/-- Take a computed result: its value, or its exception. -/
def ofExcept (result : Except ε α) : Program ε σ α := .done result

/-- One step that runs the handler. -/
def atomic (x : Handler ε σ α) : Program ε σ α :=
  .await (fun s => (x s).2) fun s => .done (x s).1

/-- Continue with a recovery program after an exception. -/
def recover : Program ε σ α → (ε → Program ε σ α) → Program ε σ α
  | .done (.ok a), _ => .done (.ok a)
  | .done (.error e), h => h e
  | .await effect rest, h => .await effect fun s => (rest s).recover h

/-- A task's turns, one step each, at most the given number of them. -/
def ofTurns {Phase : Type} (turn : Phase → Handler ε σ (Option Phase)) :
    Nat → Phase → Program ε σ Unit
  | 0, _ => pure ()
  | count + 1, phase => do
      match ← atomic (turn phase) with
      | none => pure ()
      | some next => ofTurns turn count next

/-! ## A program that runs alone -/

/-- All the steps in a row. -/
def alone : Program ε σ α → Handler ε σ α
  | .done result => fun s => (result, s)
  | .await effect rest => fun s => (rest s).alone (effect s)

@[simp] theorem alone_pure (a : α) : alone (pure a : Program ε σ α) = pure a := rfl

@[simp] theorem alone_raise (e : ε) : alone (raise e : Program ε σ α) = Handler.raise e := rfl

@[simp] theorem alone_ofExcept (result : Except ε α) :
    alone (ofExcept result : Program ε σ α) = Handler.ofExcept result := rfl

@[simp] theorem alone_atomic (x : Handler ε σ α) : alone (atomic x) = x := rfl

theorem alone_bind (x : Program ε σ α) (f : α → Program ε σ β) :
    alone (x >>= f) = alone x >>= fun a => alone (f a) := by
  induction x with
  | done result => cases result <;> rfl
  | await effect rest ih =>
      funext s
      exact congrFun (ih s) (effect s)

theorem alone_recover (x : Program ε σ α) (h : ε → Program ε σ α) :
    alone (recover x h) = Handler.recover (alone x) fun e => alone (h e) := by
  induction x with
  | done result => cases result <;> rfl
  | await effect rest ih =>
      funext s
      exact congrFun (ih s) (effect s)

theorem alone_ofTurns {Phase : Type} {turn : Phase → Handler ε σ (Option Phase)} (count : Nat)
    (phase : Phase) : alone (ofTurns turn count phase) = inRow turn count phase := by
  induction count generalizing phase with
  | zero => rfl
  | succ count ih =>
      rw [ofTurns, alone_bind, alone_atomic, inRow]
      refine congrArg (turn phase >>= ·) (funext fun next => ?_)
      cases next with
      | none => rfl
      | some next => exact ih next

/-! ## What holds at every step -/

/-- Every step is in the relation, in whatever state it is taken. -/
def Always (related : σ → σ → Prop) : Program ε σ α → Prop
  | .done _ => True
  | .await effect rest => ∀ s, related s (effect s) ∧ Always related (rest s)

section Always

variable {related : σ → σ → Prop}

theorem always_atomic {x : Handler ε σ α} (hx : Handler.Keeps related x) :
    Always related (atomic x) :=
  fun s => ⟨hx s, trivial⟩

theorem always_bind {x : Program ε σ α} {f : α → Program ε σ β} (hx : Always related x)
    (hf : ∀ a, Always related (f a)) : Always related (x >>= f) := by
  induction x with
  | done result =>
      cases result with
      | ok a => exact hf a
      | error e => trivial
  | await effect rest ih => exact fun s => ⟨(hx s).1, ih s (hx s).2⟩

theorem always_recover {x : Program ε σ α} {h : ε → Program ε σ α} (hx : Always related x)
    (hh : ∀ e, Always related (h e)) : Always related (recover x h) := by
  induction x with
  | done result =>
      cases result with
      | ok a => trivial
      | error e => exact hh e
  | await effect rest ih => exact fun s => ⟨(hx s).1, ih s (hx s).2⟩

theorem always_forM {items : List β} {f : β → Program ε σ PUnit}
    (hf : ∀ item ∈ items, Always related (f item)) : Always related (items.forM f) := by
  induction items with
  | nil => trivial
  | cons item items ih =>
      apply always_bind (hf item List.mem_cons_self)
      exact fun _ => ih fun other hother => hf other (List.mem_cons_of_mem _ hother)

theorem always_ofTurns {Phase : Type} {turn : Phase → Handler ε σ (Option Phase)}
    (hturn : ∀ phase, Handler.Keeps related (turn phase)) (count : Nat) (phase : Phase) :
    Always related (ofTurns turn count phase) := by
  induction count generalizing phase with
  | zero => trivial
  | succ count ih =>
      apply always_bind (always_atomic (hturn phase))
      intro next
      cases next with
      | none => trivial
      | some next => exact ih next

end Always

/-! ## Handlers with a state of their own -/

/-- The handler does on its shared part what the program does alone. -/
def Simulates (shared : τ → σ) (x : Handler ε τ α) (p : Program ε σ α) : Prop :=
  ∀ t, (x t).1 = (p.alone (shared t)).1 ∧ shared (x t).2 = (p.alone (shared t)).2

section Simulates

variable {shared : τ → σ}

/-- A change of the state of one's own is no step. -/
theorem simulates_modify {f : τ → τ} (hf : ∀ t, shared (f t) = shared t) :
    Simulates shared (Handler.modify f : Handler ε τ Unit) (pure ()) :=
  fun t => ⟨rfl, hf t⟩

theorem simulates_zoom {set : τ → σ → τ} (hset : ∀ t s, shared (set t s) = s)
    (x : Handler ε σ α) : Simulates shared (Handler.zoom shared set x) (atomic x) :=
  fun t => ⟨rfl, hset t _⟩

theorem simulates_pure (a : α) :
    Simulates shared (pure a : Handler ε τ α) (pure a : Program ε σ α) :=
  fun _ => ⟨rfl, rfl⟩

theorem simulates_raise (e : ε) :
    Simulates shared (Handler.raise e : Handler ε τ α) (raise e : Program ε σ α) :=
  fun _ => ⟨rfl, rfl⟩

theorem simulates_ofExcept (result : Except ε α) :
    Simulates shared (Handler.ofExcept result : Handler ε τ α) (ofExcept result) :=
  fun _ => ⟨rfl, rfl⟩

theorem simulates_bind {x : Handler ε τ α} {p : Program ε σ α} {f : α → Handler ε τ β}
    {g : α → Program ε σ β} (hx : Simulates shared x p)
    (hf : ∀ a, Simulates shared (f a) (g a)) : Simulates shared (x >>= f) (p >>= g) := by
  intro t
  obtain ⟨hresult, hstate⟩ := hx t
  rw [alone_bind, Handler.bind_run, Handler.bind_run]
  rcases hown : x t with ⟨e | a, t'⟩
  · rcases hp : p.alone (shared t) with ⟨result, s⟩
    rw [hown, hp] at hresult hstate
    obtain rfl : Except.error e = result := hresult
    exact ⟨rfl, hstate⟩
  · rcases hp : p.alone (shared t) with ⟨result, s⟩
    rw [hown, hp] at hresult hstate
    obtain rfl : Except.ok a = result := hresult
    obtain rfl : shared t' = s := hstate
    exact hf a t'

theorem simulates_recover {x : Handler ε τ α} {p : Program ε σ α} {h : ε → Handler ε τ α}
    {g : ε → Program ε σ α} (hx : Simulates shared x p)
    (hh : ∀ e, Simulates shared (h e) (g e)) :
    Simulates shared (Handler.recover x h) (recover p g) := by
  intro t
  obtain ⟨hresult, hstate⟩ := hx t
  rw [alone_recover]
  unfold Handler.recover
  rcases hown : x t with ⟨e | a, t'⟩
  · rcases hp : p.alone (shared t) with ⟨result, s⟩
    rw [hown, hp] at hresult hstate
    obtain rfl : Except.error e = result := hresult
    obtain rfl : shared t' = s := hstate
    exact hh e t'
  · rcases hp : p.alone (shared t) with ⟨result, s⟩
    rw [hown, hp] at hresult hstate
    obtain rfl : Except.ok a = result := hresult
    exact ⟨rfl, hstate⟩

theorem simulates_forM {items : List β} {f : β → Handler ε τ PUnit} {g : β → Program ε σ PUnit}
    (hf : ∀ item ∈ items, Simulates shared (f item) (g item)) :
    Simulates shared (items.forM f) (items.forM g) := by
  induction items with
  | nil => exact simulates_pure _
  | cons item items ih =>
      apply simulates_bind (hf item List.mem_cons_self)
      exact fun _ => ih fun other hother => hf other (List.mem_cons_of_mem _ hother)

end Simulates

end Program

end Foundation
