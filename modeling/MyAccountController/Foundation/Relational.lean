import Mathlib.Data.List.Forall2
import MyAccountController.Foundation.Handler

/-! # Two handlers side by side

Two handlers on different states agree when they end alike from related states:
both with related values, or both with the same exception. The rules below
follow the handlers through their binds, their recoveries and their loops, so
that two implementations of one method are compared step by step.
-/

namespace Foundation

namespace Handler

variable {ε σ τ α β γ δ : Type}

/-- Two computed results in a row are one. -/
theorem ofExcept_bind_ofExcept (result : Except ε α) (f : α → Except ε β)
    (g : β → Handler ε σ γ) :
    (do let a ← Handler.ofExcept result; let b ← Handler.ofExcept (f a); g b) =
      (Handler.ofExcept (result >>= f) >>= g : Handler ε σ γ) := by
  cases result <;> rfl

/-- Two outcomes are alike. -/
inductive SameOutcome (post : α → β → σ → τ → Prop) (fail : σ → τ → Prop) :
    Except ε α × σ → Except ε β × τ → Prop where
  | ok {a : α} {b : β} {s : σ} {t : τ} (hpost : post a b s t) :
      SameOutcome post fail (.ok a, s) (.ok b, t)
  | error {e : ε} {s : σ} {t : τ} (hfail : fail s t) :
      SameOutcome post fail (.error e, s) (.error e, t)

/-- From states related by `pre` both handlers end alike: with values and states related by
`post`, or with one exception in states related by `fail`. -/
def Agrees (pre : σ → τ → Prop) (x : Handler ε σ α) (y : Handler ε τ β)
    (post : α → β → σ → τ → Prop) (fail : σ → τ → Prop) : Prop :=
  ∀ s t, pre s t → SameOutcome post fail (x s) (y t)

/-- Both handlers keep the states related and answer with related values. -/
abbrev Simulates (related : σ → τ → Prop) (x : Handler ε σ α) (y : Handler ε τ β)
    (onValue : α → β → Prop) : Prop :=
  Agrees related x y (fun a b s t => onValue a b ∧ related s t) related

theorem SameOutcome.mono {post post' : α → β → σ → τ → Prop} {fail fail' : σ → τ → Prop}
    {out : Except ε α × σ} {out' : Except ε β × τ} (hout : SameOutcome post fail out out')
    (hpost : ∀ a b s t, post a b s t → post' a b s t) (hfail : ∀ s t, fail s t → fail' s t) :
    SameOutcome post' fail' out out' := by
  cases hout with
  | ok h => exact .ok (hpost _ _ _ _ h)
  | error h => exact .error (hfail _ _ h)

/-- Handlers that agree on their values end with one result. -/
theorem SameOutcome.result_eq {related fail : σ → τ → Prop} {out : Except ε α × σ}
    {out' : Except ε α × τ}
    (hout : SameOutcome (fun a b s t => b = a ∧ related s t) fail out out') : out'.1 = out.1 := by
  cases hout with
  | ok hpost => exact congrArg Except.ok hpost.1
  | error => rfl

/-- What the first handler says about its own outcome. -/
theorem SameOutcome.of_first {extra : α → σ → Prop} {post : α → β → σ → τ → Prop}
    {fail : σ → τ → Prop} {out : Except ε α × σ} {out' : Except ε β × τ}
    (hout : SameOutcome post fail out out') (hextra : ∀ a s, out = (.ok a, s) → extra a s) :
    SameOutcome (fun a b s t => post a b s t ∧ extra a s) fail out out' := by
  cases hout with
  | ok hpost => exact .ok ⟨hpost, hextra _ _ rfl⟩
  | error hfail => exact .error hfail

/-- Transactions that fail are back where they were entered. -/
theorem SameOutcome.transaction {post : α → β → σ → τ → Prop} {fail : σ → τ → Prop}
    {x : Handler ε σ α} {y : Handler ε τ β} {s : σ} {t : τ}
    (hout : SameOutcome post fail (x s) (y t)) :
    SameOutcome post (fun s' t' => s' = s ∧ t' = t) (transaction x s) (transaction y t) := by
  unfold Handler.transaction
  generalize x s = out at hout
  generalize y t = out' at hout
  cases hout with
  | ok hpost => exact .ok hpost
  | error => exact .error ⟨rfl, rfl⟩

/-- Handlers on components of larger states. -/
theorem SameOutcome.zoom {σ' τ' : Type} {get : σ' → σ} {set : σ' → σ → σ'} {get' : τ' → τ}
    {set' : τ' → τ → τ'} {post : α → β → σ → τ → Prop} {fail : σ → τ → Prop} {x : Handler ε σ α}
    {y : Handler ε τ β} {s : σ'} {t : τ'} (hout : SameOutcome post fail (x (get s)) (y (get' t))) :
    SameOutcome (fun a b s' t' => ∃ part part', post a b part part' ∧
        s' = set s part ∧ t' = set' t part')
      (fun s' t' => ∃ part part', fail part part' ∧ s' = set s part ∧ t' = set' t part')
      (zoom get set x s) (zoom get' set' y t) := by
  rw [zoom_run, zoom_run]
  generalize x (get s) = out at hout
  generalize y (get' t) = out' at hout
  cases hout with
  | ok hpost => exact .ok ⟨_, _, hpost, rfl, rfl⟩
  | error hfail => exact .error ⟨_, _, hfail, rfl, rfl⟩

theorem SameOutcome.bind {mid : α → β → σ → τ → Prop} {post : γ → δ → σ → τ → Prop}
    {fail : σ → τ → Prop} {x : Handler ε σ α} {y : Handler ε τ β} {f : α → Handler ε σ γ}
    {g : β → Handler ε τ δ} {s : σ} {t : τ} (hfirst : SameOutcome mid fail (x s) (y t))
    (hrest : ∀ a b, Agrees (mid a b) (f a) (g b) post fail) :
    SameOutcome post fail ((x >>= f) s) ((y >>= g) t) := by
  rw [bind_run, bind_run]
  generalize x s = out at hfirst
  generalize y t = out' at hfirst
  cases hfirst with
  | ok hmid => exact hrest _ _ _ _ hmid
  | error hfail => exact .error hfail

namespace Agrees

variable {pre : σ → τ → Prop} {post mid : α → β → σ → τ → Prop}
  {fail fail' : σ → τ → Prop} {x : Handler ε σ α} {y : Handler ε τ β}

theorem of_first {extra : α → σ → Prop} (hagrees : Agrees pre x y post fail)
    (hextra : ∀ s t a s', pre s t → x s = (.ok a, s') → extra a s') :
    Agrees pre x y (fun a b s t => post a b s t ∧ extra a s) fail :=
  fun s t h => (hagrees s t h).of_first fun a s' => hextra s t a s' h

theorem pure {a : α} {b : β} (hpost : ∀ s t, pre s t → post a b s t) :
    Agrees (ε := ε) pre (Pure.pure a) (Pure.pure b) post fail :=
  fun s t h => .ok (hpost s t h)

theorem raise {e : ε} (hfail : ∀ s t, pre s t → fail s t) :
    Agrees pre (raise e : Handler ε σ α) (Handler.raise e : Handler ε τ β) post fail :=
  fun s t h => .error (hfail s t h)

theorem modify {f : σ → σ} {g : τ → τ} {post : Unit → Unit → σ → τ → Prop}
    (hpost : ∀ s t, pre s t → post () () (f s) (g t)) :
    Agrees (ε := ε) pre (modify f) (Handler.modify g) post fail :=
  fun s t h => .ok (hpost s t h)

/-- The first parts agree, and so do the second parts from where they end. -/
theorem bind {f : α → Handler ε σ γ} {g : β → Handler ε τ δ} {post : γ → δ → σ → τ → Prop}
    (hfirst : Agrees pre x y mid fail)
    (hrest : ∀ a b, Agrees (mid a b) (f a) (g b) post fail) :
    Agrees pre (x >>= f) (y >>= g) post fail :=
  fun s t h => (hfirst s t h).bind hrest

/-- The recoveries agree from where the handlers have failed. -/
theorem recover {h : ε → Handler ε σ α} {k : ε → Handler ε τ β}
    (hfirst : Agrees pre x y post fail') (hrecovery : ∀ e, Agrees fail' (h e) (k e) post fail) :
    Agrees pre (recover x h) (Handler.recover y k) post fail := by
  intro s t hpre
  have hout := hfirst s t hpre
  unfold Handler.recover
  generalize x s = out at hout
  generalize y t = out' at hout
  cases hout with
  | ok hpost => exact .ok hpost
  | error hfail => exact hrecovery _ _ _ hfail

end Agrees

/-! ## States that stay related -/

namespace Simulates

variable {related : σ → τ → Prop} {onValue : α → β → Prop} {onResult : γ → δ → Prop}
  {x : Handler ε σ α} {y : Handler ε τ β}

theorem pure {a : α} {b : β} (h : onValue a b) :
    Simulates (ε := ε) related (Pure.pure a) (Pure.pure b) onValue :=
  Agrees.pure fun _ _ hrelated => ⟨h, hrelated⟩

theorem raise {e : ε} : Simulates related (Handler.raise e) (Handler.raise e) onValue :=
  Agrees.raise fun _ _ hrelated => hrelated

theorem bind {f : α → Handler ε σ γ} {g : β → Handler ε τ δ}
    (hfirst : Simulates related x y onValue)
    (hrest : ∀ a b, onValue a b → Simulates related (f a) (g b) onResult) :
    Simulates related (x >>= f) (y >>= g) onResult :=
  Agrees.bind hfirst fun a b s t h => hrest a b h.1 s t h.2

/-- A computed result, and its image. -/
theorem ofExcept (onValue : α → β → Prop) {result : Except ε α} {g : α → β}
    (hvalue : ∀ a, result = .ok a → onValue a (g a)) :
    Simulates related (Handler.ofExcept result) (Handler.ofExcept (result.map g)) onValue := by
  intro s t h
  cases result with
  | ok a => exact .ok ⟨hvalue a rfl, h⟩
  | error e => exact .error h

/-- One computed result. -/
theorem ofExcept_self {result : Except ε α} :
    Simulates (σ := σ) (τ := τ) related (Handler.ofExcept result) (Handler.ofExcept result)
      fun a b => b = a ∧ result = .ok a := by
  intro s t h
  cases result with
  | ok a => exact .ok ⟨⟨rfl, rfl⟩, h⟩
  | error e => exact .error h

/-- One option. -/
theorem expect_self {value : Option α} {e : ε} :
    Simulates (σ := σ) (τ := τ) related (Handler.expect value e) (Handler.expect value e)
      fun a b => b = a ∧ value = some a := by
  intro s t h
  cases value with
  | some a => exact .ok ⟨⟨rfl, rfl⟩, h⟩
  | none => exact .error h

/-- One condition. -/
theorem ensure_self {condition : Prop} [Decidable condition] {e : ε} :
    Simulates (σ := σ) (τ := τ) related (Handler.ensure condition e) (Handler.ensure condition e)
      fun _ _ => condition := by
  intro s t h
  rw [ensure_run, ensure_run]
  split
  next hcondition => exact .ok ⟨hcondition, h⟩
  next => exact .error h

theorem recover {h : ε → Handler ε σ α} {k : ε → Handler ε τ β}
    (hfirst : Simulates related x y onValue)
    (hrecovery : ∀ e, Simulates related (h e) (k e) onValue) :
    Simulates related (Handler.recover x h) (Handler.recover y k) onValue :=
  Agrees.recover hfirst hrecovery

end Simulates

/-! ## Loops -/

/-- Loops over paired lists. The invariant may read the items that are still to come. -/
theorem Agrees.forM {items : List γ} {items' : List δ} {paired : γ → δ → Prop}
    {invariant : List γ → σ → τ → Prop} {fail : σ → τ → Prop} {f : γ → Handler ε σ PUnit}
    {g : δ → Handler ε τ PUnit} (hitems : List.Forall₂ paired items items')
    (hbody : ∀ item item' rest, paired item item' →
      Agrees (invariant (item :: rest)) (f item) (g item') (fun _ _ => invariant rest) fail) :
    Agrees (invariant items) (items.forM f) (items'.forM g) (fun _ _ => invariant []) fail := by
  induction hitems with
  | nil => exact Agrees.pure fun _ _ h => h
  | cons hpair _ ih => exact Agrees.bind (hbody _ _ _ hpair) fun _ _ => ih

/-- A loop with an accumulator over one list. -/
theorem Simulates.foldlM {related : σ → τ → Prop} {onValue : α → β → Prop} {items : List γ}
    {f : α → γ → Handler ε σ α} {g : β → γ → Handler ε τ β}
    (hbody : ∀ a b, onValue a b → ∀ item ∈ items, Simulates related (f a item) (g b item) onValue)
    {a : α} {b : β} (hab : onValue a b) :
    Simulates related (items.foldlM f a) (items.foldlM g b) onValue := by
  induction items generalizing a b with
  | nil => exact Agrees.pure fun _ _ h => ⟨hab, h⟩
  | cons item rest ih =>
      rw [List.foldlM_cons, List.foldlM_cons]
      refine Agrees.bind (hbody a b hab item List.mem_cons_self) fun c d s t hcd => ?_
      have hrest : ∀ a b, onValue a b → ∀ other ∈ rest,
          Simulates related (f a other) (g b other) onValue :=
        fun a b hab other hother => hbody a b hab other (List.mem_cons_of_mem _ hother)
      exact ih hrest hcd.1 s t hcd.2

end Handler

end Foundation
