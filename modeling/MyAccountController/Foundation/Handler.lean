import Mathlib.Tactic.SplitIfs
import Mathlib.Tactic.TypeStar

/-! # Handlers that fail and keep their state

A handler runs to a value or to an exception. The state reached at an
exception is kept, unlike in a transaction, which restores the state it was
entered with. The rules below take a run apart at each bind.
-/

namespace Foundation

/-- A computation on a state that ends in a value or an exception and keeps
the state it has reached in both cases. -/
def Handler (ε σ α : Type) : Type := σ → Except ε α × σ

namespace Handler

variable {ε σ τ α β : Type}

instance : Monad (Handler ε σ) where
  pure a := fun s => (.ok a, s)
  bind x f := fun s =>
    match x s with
    | (.ok a, s') => f a s'
    | (.error e, s') => (.error e, s')

/-- Stop with an exception. -/
def raise (e : ε) : Handler ε σ α := fun s => (.error e, s)

/-- Read the state. -/
def state : Handler ε σ σ := fun s => (.ok s, s)

/-- Replace the state by a function of it. -/
def modify (f : σ → σ) : Handler ε σ Unit := fun s => (.ok (), f s)

/-- Go on only when the condition holds. -/
def ensure (condition : Prop) [Decidable condition] (e : ε) : Handler ε σ Unit :=
  if condition then pure () else raise e

/-- Take the value of an option or stop. -/
def expect (value : Option α) (e : ε) : Handler ε σ α :=
  match value with
  | some a => pure a
  | none => raise e

/-- Take a computed result: its value, or its exception. -/
def ofExcept (result : Except ε α) : Handler ε σ α := fun s => (result, s)

/-- Continue with a recovery handler after an exception, from the state reached. -/
def recover (x : Handler ε σ α) (h : ε → Handler ε σ α) : Handler ε σ α := fun s =>
  match x s with
  | (.ok a, s') => (.ok a, s')
  | (.error e, s') => h e s'

/-- Run as one unit: an exception restores the state at entry. -/
def transaction (x : Handler ε σ α) : Handler ε σ α := fun s =>
  match x s with
  | (.ok a, s') => (.ok a, s')
  | (.error e, _) => (.error e, s)

/-- Run on a component of a larger state. -/
def zoom (get : τ → σ) (set : τ → σ → τ) (x : Handler ε σ α) : Handler ε τ α := fun t =>
  ((x (get t)).1, set t (x (get t)).2)

/-! ## Evaluation -/

@[simp] theorem pure_run (a : α) (s : σ) :
    (pure a : Handler ε σ α) s = (.ok a, s) := rfl

theorem bind_run (x : Handler ε σ α) (f : α → Handler ε σ β) (s : σ) :
    (x >>= f) s = match x s with
      | (.ok a, s') => f a s'
      | (.error e, s') => (.error e, s') := rfl

@[simp] theorem raise_run (e : ε) (s : σ) :
    (raise e : Handler ε σ α) s = (.error e, s) := rfl

@[simp] theorem state_run (s : σ) : (state : Handler ε σ σ) s = (.ok s, s) := rfl

@[simp] theorem modify_run (f : σ → σ) (s : σ) :
    (modify f : Handler ε σ Unit) s = (.ok (), f s) := rfl

@[simp] theorem ofExcept_run (result : Except ε α) (s : σ) :
    (ofExcept result : Handler ε σ α) s = (result, s) := rfl

theorem ensure_run (condition : Prop) [Decidable condition] (e : ε) (s : σ) :
    (ensure condition e : Handler ε σ Unit) s =
      if condition then (.ok (), s) else (.error e, s) := by
  unfold ensure
  split <;> rfl

@[simp] theorem expect_some_run (a : α) (e : ε) (s : σ) :
    (expect (some a) e : Handler ε σ α) s = (.ok a, s) := rfl

@[simp] theorem expect_none_run (e : ε) (s : σ) :
    (expect none e : Handler ε σ α) s = (.error e, s) := rfl

@[simp] theorem zoom_run (get : τ → σ) (set : τ → σ → τ) (x : Handler ε σ α) (t : τ) :
    zoom get set x t = ((x (get t)).1, set t (x (get t)).2) := rfl

/-- A run with a given result ends in some state. -/
theorem exists_run {x : Handler ε σ α} {s : σ} {result : Except ε α}
    (hresult : (x s).1 = result) : ∃ s', x s = (result, s') :=
  ⟨(x s).2, Prod.ext hresult rfl⟩

@[simp] theorem pure_bind_run (a : α) (f : α → Handler ε σ β) (s : σ) :
    ((pure a : Handler ε σ α) >>= f) s = f a s := rfl

@[simp] theorem raise_bind (e : ε) (f : α → Handler ε σ β) (s : σ) :
    ((raise e : Handler ε σ α) >>= f) s = (.error e, s) := rfl

@[simp] theorem state_bind (f : σ → Handler ε σ β) (s : σ) :
    ((state : Handler ε σ σ) >>= f) s = f s s := rfl

@[simp] theorem modify_bind (g : σ → σ) (f : Unit → Handler ε σ β) (s : σ) :
    ((modify g : Handler ε σ Unit) >>= f) s = f () (g s) := rfl

@[simp] theorem ofExcept_ok_bind (a : α) (f : α → Handler ε σ β) (s : σ) :
    ((ofExcept (.ok a) : Handler ε σ α) >>= f) s = f a s := rfl

@[simp] theorem ofExcept_error_bind (e : ε) (f : α → Handler ε σ β) (s : σ) :
    ((ofExcept (.error e) : Handler ε σ α) >>= f) s = (.error e, s) := rfl

@[simp] theorem expect_some_bind (a : α) (e : ε) (f : α → Handler ε σ β) (s : σ) :
    ((expect (some a) e : Handler ε σ α) >>= f) s = f a s := rfl

@[simp] theorem expect_none_bind (e : ε) (f : α → Handler ε σ β) (s : σ) :
    ((expect none e : Handler ε σ α) >>= f) s = (.error e, s) := rfl

theorem ensure_bind (condition : Prop) [Decidable condition] (e : ε)
    (f : Unit → Handler ε σ β) (s : σ) :
    ((ensure condition e : Handler ε σ Unit) >>= f) s =
      if condition then f () s else (.error e, s) := by
  rw [bind_run, ensure_run]
  split_ifs <;> rfl

/-- A bind continues in the state its first part ended in. -/
theorem bind_of_ok {x : Handler ε σ α} {f : α → Handler ε σ β} {s s' : σ} {a : α}
    (hx : x s = (.ok a, s')) : (x >>= f) s = f a s' := by
  rw [bind_run, hx]

/-- A bind stops where its first part stopped. -/
theorem bind_of_error {x : Handler ε σ α} {f : α → Handler ε σ β} {s s' : σ} {e : ε}
    (hx : x s = (.error e, s')) : (x >>= f) s = (.error e, s') := by
  rw [bind_run, hx]

/-- Handlers obey the monad laws. -/
theorem lawfulMonad : LawfulMonad (Handler ε σ) := by
  refine LawfulMonad.mk' _ ?_ ?_ ?_
  · intro α x
    funext s
    show (x >>= fun a => pure a) s = x s
    rw [bind_run]
    rcases x s with ⟨_ | _, _⟩ <;> rfl
  · intro α β a f
    rfl
  · intro α β γ x f g
    funext s
    rw [bind_run, bind_run, bind_run]
    rcases x s with ⟨_ | _, _⟩ <;> rfl

/-- An answer computed from the result leaves the state as it is. -/
theorem bind_pure_state (x : Handler ε σ α) (f : α → β) (s : σ) :
    ((x >>= fun a => pure (f a)) s).2 = (x s).2 := by
  rw [bind_run]
  rcases x s with ⟨_ | _, _⟩ <;> rfl

/-! ## Loops -/

theorem forM_append (items items' : List β) (f : β → Handler ε σ PUnit) :
    (items ++ items').forM f = items.forM f >>= fun _ => items'.forM f := by
  induction items with
  | nil => rfl
  | cons item items ih =>
      have hlaws : LawfulMonad (Handler ε σ) := lawfulMonad
      calc (f item >>= fun _ => (items ++ items').forM f)
          = f item >>= fun _ => items.forM f >>= fun _ => items'.forM f := by rw [ih]
        _ = (f item >>= fun _ => items.forM f) >>= fun _ => items'.forM f :=
          (bind_assoc _ _ _).symm

theorem forM_map {γ : Type} (items : List γ) (g : γ → β) (f : β → Handler ε σ PUnit) :
    (items.map g).forM f = items.forM fun item => f (g item) := by
  induction items with
  | nil => rfl
  | cons item items ih =>
      show (f (g item) >>= fun _ => (items.map g).forM f) = _
      rw [ih]
      rfl

/-- Nested loops are one loop over all the pairs. -/
theorem forM_flatMap {γ : Type} (items : List γ) (g : γ → List β) (f : β → Handler ε σ PUnit) :
    (items.flatMap g).forM f = items.forM fun item => (g item).forM f := by
  induction items with
  | nil => rfl
  | cons item items ih =>
      rw [List.flatMap_cons, forM_append, ih]
      rfl

/-! ## Inversion -/

/-- A bind succeeds exactly when both parts do. -/
theorem bind_ok_iff {x : Handler ε σ α} {f : α → Handler ε σ β} {s s'' : σ} {b : β} :
    (x >>= f) s = (.ok b, s'') ↔
      ∃ a s', x s = (.ok a, s') ∧ f a s' = (.ok b, s'') := by
  rw [bind_run]
  cases hx : x s with
  | mk result s' =>
      cases result with
      | ok a => simp [and_assoc]
      | error e => simp

/-- A bind fails in its first part or, after that has succeeded, in its second. -/
theorem bind_error_iff {x : Handler ε σ α} {f : α → Handler ε σ β} {s s'' : σ} {e : ε} :
    (x >>= f) s = (.error e, s'') ↔
      x s = (.error e, s'') ∨ ∃ a s', x s = (.ok a, s') ∧ f a s' = (.error e, s'') := by
  rw [bind_run]
  cases hx : x s with
  | mk result s' =>
      cases result with
      | ok a => simp [and_assoc]
      | error e' => simp

@[simp] theorem ensure_ok_iff {condition : Prop} [Decidable condition] {e : ε} {s s' : σ}
    {u : Unit} : (ensure condition e : Handler ε σ Unit) s = (.ok u, s') ↔
      condition ∧ s = s' := by
  rw [ensure_run]
  split <;> simp_all

@[simp] theorem ensure_error_iff {condition : Prop} [Decidable condition] {e e' : ε}
    {s s' : σ} : (ensure condition e : Handler ε σ Unit) s = (.error e', s') ↔
      ¬ condition ∧ e = e' ∧ s = s' := by
  rw [ensure_run]
  split <;> simp_all

@[simp] theorem expect_ok_iff {value : Option α} {e : ε} {s s' : σ} {a : α} :
    (expect value e : Handler ε σ α) s = (.ok a, s') ↔ value = some a ∧ s = s' := by
  cases value <;> simp

/-- What answers from the result of its first part fails only there. -/
theorem bind_pure_error_iff {x : Handler ε σ α} {f : α → β} {s s' : σ} {e : ε} :
    (x >>= fun a => pure (f a)) s = (.error e, s') ↔ x s = (.error e, s') := by
  rw [bind_run]
  rcases x s with ⟨_ | _, _⟩ <;> simp

@[simp] theorem expect_error_iff {value : Option α} {e e' : ε} {s s' : σ} :
    (expect value e : Handler ε σ α) s = (.error e', s') ↔
      value = none ∧ e = e' ∧ s = s' := by
  cases value <;> simp

theorem transaction_ok_iff {x : Handler ε σ α} {s s' : σ} {a : α} :
    transaction x s = (.ok a, s') ↔ x s = (.ok a, s') := by
  unfold transaction
  rcases hx : x s with ⟨_ | _, s''⟩ <;> simp

/-- A transaction that fails leaves no write behind. -/
theorem transaction_error_iff {x : Handler ε σ α} {s s' : σ} {e : ε} :
    transaction x s = (.error e, s') ↔ (∃ s'', x s = (.error e, s'')) ∧ s = s' := by
  unfold transaction
  rcases hx : x s with ⟨_ | _, s''⟩ <;> simp

theorem recover_ok_iff {x : Handler ε σ α} {h : ε → Handler ε σ α} {s s' : σ} {a : α} :
    recover x h s = (.ok a, s') ↔ x s = (.ok a, s') ∨
      ∃ e middle, x s = (.error e, middle) ∧ h e middle = (.ok a, s') := by
  unfold recover
  rcases hx : x s with ⟨_ | _, s''⟩ <;> simp [and_assoc]

theorem recover_error_iff {x : Handler ε σ α} {h : ε → Handler ε σ α} {s s' : σ} {e : ε} :
    recover x h s = (.error e, s') ↔
      ∃ e' middle, x s = (.error e', middle) ∧ h e' middle = (.error e, s') := by
  unfold recover
  rcases hx : x s with ⟨_ | _, s''⟩ <;> simp [and_assoc]

/-! ## What a handler leaves unchanged -/

/-- The state after the handler is related to the state before it, whether it
succeeds or not. -/
def Keeps (related : σ → σ → Prop) (x : Handler ε σ α) : Prop :=
  ∀ s, related s (x s).2

section Keeps

variable {related : σ → σ → Prop}

theorem Keeps.of_run {x : Handler ε σ α} (hx : Keeps related x) {s s' : σ} {result : Except ε α}
    (hrun : x s = (result, s')) : related s s' := by
  have hrelated := hx s
  rw [hrun] at hrelated
  exact hrelated

theorem Keeps.of_state_eq (hrefl : ∀ s, related s s) {x : Handler ε σ α}
    (hx : ∀ s, (x s).2 = s) : Keeps related x := by
  intro s
  rw [hx s]
  exact hrefl s

theorem Keeps.mono {weaker : σ → σ → Prop} (hmono : ∀ s s', related s s' → weaker s s')
    {x : Handler ε σ α} (hx : Keeps related x) : Keeps weaker x :=
  fun s => hmono _ _ (hx s)

theorem keeps_pure (hrefl : ∀ s, related s s) (a : α) :
    Keeps related (pure a : Handler ε σ α) :=
  fun s => hrefl s

theorem keeps_raise (hrefl : ∀ s, related s s) (e : ε) :
    Keeps related (raise e : Handler ε σ α) :=
  fun s => hrefl s

theorem keeps_bind (htrans : ∀ a b c, related a b → related b c → related a c)
    {x : Handler ε σ α} {f : α → Handler ε σ β} (hx : Keeps related x)
    (hf : ∀ a s s', x s = (.ok a, s') → related s' (f a s').2) :
    Keeps related (x >>= f) := by
  intro s
  have hfirst := hx s
  rw [bind_run]
  cases hrun : x s with
  | mk result s' =>
      rw [hrun] at hfirst
      cases result with
      | ok a => exact htrans _ _ _ hfirst (hf a s s' hrun)
      | error e => exact hfirst

theorem keeps_recover (htrans : ∀ a b c, related a b → related b c → related a c)
    {x : Handler ε σ α} {h : ε → Handler ε σ α} (hx : Keeps related x)
    (hh : ∀ e, Keeps related (h e)) : Keeps related (recover x h) := by
  intro s
  have hfirst := hx s
  unfold recover
  cases hrun : x s with
  | mk result s' =>
      rw [hrun] at hfirst
      cases result with
      | ok a => exact hfirst
      | error e => exact htrans _ _ _ hfirst (hh e s')

theorem keeps_transaction (hrefl : ∀ s, related s s) {x : Handler ε σ α}
    (hx : Keeps related x) : Keeps related (transaction x) := by
  intro s
  have hfirst := hx s
  unfold transaction
  cases hrun : x s with
  | mk result s' =>
      rw [hrun] at hfirst
      cases result with
      | ok a => exact hfirst
      | error e => exact hrefl s

theorem keeps_forM (hrefl : ∀ s, related s s)
    (htrans : ∀ a b c, related a b → related b c → related a c)
    {items : List β} {f : β → Handler ε σ PUnit} (hf : ∀ item ∈ items, Keeps related (f item)) :
    Keeps related (items.forM f) := by
  induction items with
  | nil => exact keeps_pure hrefl _
  | cons item rest ih =>
      have hrest := ih fun other hother => hf other (List.mem_cons_of_mem _ hother)
      refine keeps_bind htrans (hf item List.mem_cons_self) ?_
      intro _ _ s' _
      exact hrest s'

theorem keeps_foldlM (hrefl : ∀ s, related s s)
    (htrans : ∀ a b c, related a b → related b c → related a c)
    {items : List β} {f : α → β → Handler ε σ α} {a : α}
    (hf : ∀ a, ∀ item ∈ items, Keeps related (f a item)) : Keeps related (items.foldlM f a) := by
  induction items generalizing a with
  | nil => exact keeps_pure hrefl a
  | cons item rest ih =>
      rw [List.foldlM_cons]
      refine keeps_bind htrans (hf a item List.mem_cons_self) ?_
      intro b _ s' _
      exact ih (fun a other hother => hf a other (List.mem_cons_of_mem _ hother)) s'

/-- When the steps of a loop only grow the state, and a part of a related growth is related, the
loop is related if and only if each step is whose turn comes. -/
theorem related_foldlM_iff {grows : σ → σ → Prop} (hrefl : ∀ s, related s s)
    (htrans : ∀ a b c, related a b → related b c → related a c)
    (hbetween : ∀ a b c, grows a b → grows b c → related a c → related a b ∧ related b c)
    (hgrefl : ∀ s, grows s s) (hgtrans : ∀ a b c, grows a b → grows b c → grows a c)
    {items : List β} {f : α → β → Handler ε σ α} (hgrows : ∀ a item, Keeps grows (f a item))
    {a : α} {s : σ} : related s (items.foldlM f a s).2 ↔
      ∀ before item after, items = before ++ item :: after → ∀ b t,
        before.foldlM f a s = (.ok b, t) → related t (f b item t).2 := by
  induction items generalizing a s with
  | nil =>
      constructor
      · intro _ before item after hitems
        exact absurd hitems (by simp)
      · exact fun _ => hrefl s
  | cons item rest ih =>
      have hfirst := hgrows a item s
      rw [List.foldlM_cons, bind_run]
      rcases hrun : f a item s with ⟨e | b, t⟩
      · -- The loop ends with its first step.
        constructor
        · intro hloop before other after hitems c u hbefore
          cases before with
          | nil =>
              obtain ⟨rfl, rfl⟩ := List.cons.inj hitems
              obtain ⟨hc, rfl⟩ := Prod.mk.inj hbefore
              obtain rfl := Except.ok.inj hc
              rwa [hrun]
          | cons head before =>
              obtain ⟨rfl, rfl⟩ := List.cons.inj hitems
              rw [List.foldlM_cons, bind_of_error hrun] at hbefore
              exact absurd (congrArg Prod.fst hbefore) (by simp)
        · intro hsteps
          have hstep := hsteps [] item rest rfl a s rfl
          rwa [hrun] at hstep
      · rw [hrun] at hfirst
        have hrest : grows t (rest.foldlM f b t).2 :=
          keeps_foldlM hgrefl hgtrans (fun c other _ => hgrows c other) t
        constructor
        · intro hloop before other after hitems c u hbefore
          obtain ⟨hhead, htail⟩ := hbetween _ _ _ hfirst hrest hloop
          cases before with
          | nil =>
              obtain ⟨rfl, rfl⟩ := List.cons.inj hitems
              obtain ⟨hc, rfl⟩ := Prod.mk.inj hbefore
              obtain rfl := Except.ok.inj hc
              rwa [hrun]
          | cons head before =>
              obtain ⟨rfl, rfl⟩ := List.cons.inj hitems
              rw [List.foldlM_cons, bind_of_ok hrun] at hbefore
              exact ih.mp htail before other after rfl c u hbefore
        · intro hsteps
          have hstep := hsteps [] item rest rfl a s rfl
          rw [hrun] at hstep
          refine htrans _ _ _ hstep (ih.mpr fun before other after hitems c u hbefore => ?_)
          apply hsteps (item :: before) other after (by rw [hitems]; rfl)
          rw [List.foldlM_cons, bind_of_ok hrun]
          exact hbefore

end Keeps

end Handler

end Foundation
