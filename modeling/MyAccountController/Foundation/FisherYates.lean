import Mathlib.Data.List.Nodup
import Mathlib.Data.Set.Function

/-! # The Fisher–Yates loop

From the last position down to the second, each entry changes places with one at
or before it. A round fixes its position for good, so the draws can be read off
the result: the loop maps the draw sequences one-to-one onto the orders of a list
without repetitions.
-/

namespace Foundation

namespace FisherYates

variable {α β : Type}

/-- The entries at the two positions change places. -/
def swap (xs : List α) (i j : Nat) : List α :=
  if _ : i < xs.length then
    if _ : j < xs.length then (xs.set i xs[j]).set j xs[i] else xs
  else xs

/-- The rounds from position `i` down to 1, with their draws in turn. -/
def shuffle : (i : Nat) → List Nat → List α → List α
  | 0, _, xs => xs
  | _ + 1, [], xs => xs
  | i + 1, j :: draws, xs => shuffle i draws (swap xs (i + 1) j)

/-- A draw for every position from `i` down to 1, none beyond its position. -/
def IsDraws : (i : Nat) → List Nat → Prop
  | 0, draws => draws = []
  | _ + 1, [] => False
  | i + 1, j :: draws => j ≤ i + 1 ∧ IsDraws i draws

theorem isDraws_succ_iff {i : Nat} {draws : List Nat} :
    IsDraws (i + 1) draws ↔ ∃ j rest, draws = j :: rest ∧ j ≤ i + 1 ∧ IsDraws i rest := by
  cases draws with
  | nil => simp [IsDraws]
  | cons j rest => simp [IsDraws]

/-! ## One round -/

theorem swap_perm (xs : List α) (i j : Nat) : (swap xs i j).Perm xs := by
  unfold swap
  split
  next hi =>
    split
    next hj => exact List.set_set_perm hi hj
    next => exact .refl xs
  next => exact .refl xs

theorem getElem?_swap {xs : List α} {i j : Nat} (hi : i < xs.length) (hj : j < xs.length)
    (k : Nat) : (swap xs i j)[k]? = if k = j then xs[i]? else if k = i then xs[j]? else xs[k]? := by
  rw [swap, dif_pos hi, dif_pos hj, List.getElem?_set, List.getElem?_set]
  by_cases hkj : k = j
  · subst hkj
    simp [hi, hj]
  · by_cases hki : k = i
    · subst hki
      simp [hi, hj, hkj, Ne.symm hkj]
    · simp [hkj, hki, Ne.symm hkj, Ne.symm hki]

theorem getElem?_swap_left {xs : List α} {i j : Nat} (hi : i < xs.length) (hj : j < xs.length) :
    (swap xs i j)[i]? = xs[j]? := by
  rw [getElem?_swap hi hj, if_pos rfl]
  split
  next hij => rw [hij]
  next => rfl

theorem swap_map (f : α → β) (xs : List α) (i j : Nat) :
    swap (xs.map f) i j = (swap xs i j).map f := by
  unfold swap
  simp only [List.length_map]
  split
  next hi =>
    split
    next hj => simp only [List.map_set, List.getElem_map]
    next => rfl
  next => rfl

/-! ## The loop -/

theorem shuffle_perm : ∀ (i : Nat) (draws : List Nat) (xs : List α),
    (shuffle i draws xs).Perm xs
  | 0, _, xs => .refl xs
  | _ + 1, [], xs => .refl xs
  | i + 1, j :: draws, xs => (shuffle_perm i draws _).trans (swap_perm xs (i + 1) j)

theorem shuffle_map (f : α → β) : ∀ (i : Nat) (draws : List Nat) (xs : List α),
    shuffle i draws (xs.map f) = (shuffle i draws xs).map f
  | 0, _, _ => rfl
  | _ + 1, [], _ => rfl
  | i + 1, j :: draws, xs => by
      rw [shuffle, swap_map, shuffle_map f i draws]
      rfl

/-- The rounds from `i` down leave the positions beyond `i` alone. -/
theorem getElem?_shuffle {i k : Nat} (hk : i < k) {draws : List Nat} (hdraws : IsDraws i draws)
    {xs : List α} (hlength : i < xs.length) : (shuffle i draws xs)[k]? = xs[k]? := by
  induction i generalizing draws xs with
  | zero => rfl
  | succ i ih =>
      obtain ⟨j, rest, rfl, hj, hrest⟩ := isDraws_succ_iff.mp hdraws
      have hswapped : i < (swap xs (i + 1) j).length := by
        rw [(swap_perm xs (i + 1) j).length_eq]
        omega
      rw [shuffle, ih (by omega) hrest hswapped, getElem?_swap hlength (by omega),
        if_neg (by omega), if_neg (by omega)]

/-- The position of the first round holds the entry that was drawn. -/
theorem getElem?_shuffle_last {i j : Nat} (hj : j ≤ i + 1) {draws : List Nat}
    (hdraws : IsDraws i draws) {xs : List α} (hlength : i + 1 < xs.length) :
    (shuffle (i + 1) (j :: draws) xs)[i + 1]? = xs[j]? := by
  have hswapped : i < (swap xs (i + 1) j).length := by
    rw [(swap_perm xs (i + 1) j).length_eq]
    omega
  rw [shuffle, getElem?_shuffle (by omega) hdraws hswapped,
    getElem?_swap_left hlength (by omega)]

/-! ## Every order from one draw sequence -/

/-- Two draw sequences that give a list without repetitions the same order are the same. -/
theorem shuffle_inj {i : Nat} {xs : List α} (hnodup : xs.Nodup) (hlength : i < xs.length)
    {draws draws' : List Nat} (hdraws : IsDraws i draws) (hdraws' : IsDraws i draws')
    (hsame : shuffle i draws xs = shuffle i draws' xs) : draws = draws' := by
  induction i generalizing draws draws' xs with
  | zero => exact hdraws.trans hdraws'.symm
  | succ i ih =>
      obtain ⟨j, rest, rfl, hj, hrest⟩ := isDraws_succ_iff.mp hdraws
      obtain ⟨j', rest', rfl, hj', hrest'⟩ := isDraws_succ_iff.mp hdraws'
      have hlast : xs[j]? = xs[j']? := by
        rw [← getElem?_shuffle_last hj hrest hlength, hsame,
          getElem?_shuffle_last hj' hrest' hlength]
      obtain rfl := (List.getElem?_inj (by omega) hnodup).mp hlast
      have hperm := swap_perm xs (i + 1) j
      rw [ih (hperm.nodup_iff.mpr hnodup) (by rw [hperm.length_eq]; omega) hrest hrest' hsame]

/-- An order of the list that keeps what lies beyond `i` comes from some draws. -/
theorem exists_shuffle {i : Nat} {xs ys : List α} (hnodup : xs.Nodup) (hlength : i < xs.length)
    (hperm : ys.Perm xs) (hbeyond : ∀ k, i < k → ys[k]? = xs[k]?) :
    ∃ draws, IsDraws i draws ∧ shuffle i draws xs = ys := by
  induction i generalizing xs with
  | zero =>
      refine ⟨[], rfl, ?_⟩
      have hnodup' := hperm.nodup_iff.mpr hnodup
      cases xs with
      | nil => contradiction
      | cons x xs =>
          cases ys with
          | nil => exact absurd hperm.length_eq (by simp)
          | cons y ys =>
              have htail : ys = xs := List.ext_getElem? fun k => hbeyond (k + 1) (by omega)
              subst htail
              have hy : y ∈ x :: ys := hperm.mem_iff.mp List.mem_cons_self
              cases List.mem_cons.mp hy with
              | inl hsame => rw [hsame, shuffle]
              | inr hmem => exact absurd hmem (List.nodup_cons.mp hnodup').1
  | succ i ih =>
      have hlength' : i + 1 < ys.length := by rw [hperm.length_eq]; exact hlength
      have hlast := List.getElem?_eq_getElem hlength'
      obtain ⟨j, hj⟩ := List.mem_iff_getElem?.mp (hperm.mem_iff.mp (List.getElem_mem hlength'))
      -- an entry from beyond is still there, and would stand twice in the order
      have hle : j ≤ i + 1 := by
        by_contra hbeyond'
        have htwice : ys[i + 1]? = ys[j]? := by
          rw [hlast, hbeyond j (by omega), hj]
        have hindex := (List.getElem?_inj hlength' (hperm.nodup_iff.mpr hnodup)).mp htwice
        omega
      have hswap := swap_perm xs (i + 1) j
      have hbeyond' : ∀ k, i < k → ys[k]? = (swap xs (i + 1) j)[k]? := by
        intro k hk
        by_cases hkey : k = i + 1
        · rw [hkey, getElem?_swap_left hlength (by omega), hlast, hj]
        · rw [getElem?_swap hlength (by omega), if_neg (by omega), if_neg hkey,
            hbeyond k (by omega)]
      obtain ⟨rest, hrest, horder⟩ := ih (hswap.nodup_iff.mpr hnodup)
        (by rw [hswap.length_eq]; omega) (hperm.trans hswap.symm) hbeyond'
      exact ⟨j :: rest, ⟨hle, hrest⟩, horder⟩

/-- The loop over a list without repetitions maps the draw sequences one-to-one onto its orders. -/
theorem shuffle_bijOn {xs : List α} (hnodup : xs.Nodup) (hnonempty : xs ≠ []) :
    Set.BijOn (fun draws => shuffle (xs.length - 1) draws xs)
      {draws | IsDraws (xs.length - 1) draws} {ys | ys.Perm xs} := by
  have hpos := List.length_pos_of_ne_nil hnonempty
  refine ⟨fun draws _ => shuffle_perm _ draws xs, ?_, ?_⟩
  · intro draws hdraws draws' hdraws' hsame
    exact shuffle_inj hnodup (by omega) hdraws hdraws' hsame
  · intro ys hperm
    refine exists_shuffle hnodup (by omega) hperm fun k hk => ?_
    rw [List.getElem?_eq_none (by rw [hperm.length_eq]; omega),
      List.getElem?_eq_none (by omega)]

end FisherYates

end Foundation
