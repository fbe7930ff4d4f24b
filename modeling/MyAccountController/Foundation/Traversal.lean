import Mathlib.Data.List.Perm.Basic

/-! # Lists gone through by a function that may fail

The results are those of the items, one for one; so they are there when every
item has one, and their order follows that of the items.
-/

namespace Foundation

variable {ε α β : Type} {f : α → Except ε β} {items items' : List α} {results : List β}

theorem mapM_cons_ok_iff {item : α} :
    (item :: items).mapM f = .ok results ↔
      ∃ result rest, f item = .ok result ∧ items.mapM f = .ok rest ∧ results = result :: rest := by
  rw [List.mapM_cons]
  cases hfirst : f item with
  | error e =>
      constructor
      · intro herror
        contradiction
      · rintro ⟨_, _, hresult, -⟩
        contradiction
  | ok result =>
      cases hrest : items.mapM f with
      | error e =>
          constructor
          · intro herror
            contradiction
          · rintro ⟨_, _, -, hresults, -⟩
            contradiction
      | ok rest =>
          constructor
          · intro hall
            exact ⟨result, rest, rfl, rfl, (Except.ok.inj hall).symm⟩
          · rintro ⟨result', rest', hresult, hresults, rfl⟩
            rw [Except.ok.inj hresult, Except.ok.inj hresults]
            rfl

/-- The results are those of the items, one for one. -/
theorem mapM_ok_iff :
    items.mapM f = .ok results ↔
      List.Forall₂ (fun item result => f item = .ok result) items results := by
  induction items generalizing results with
  | nil =>
      rw [List.forall₂_nil_left_iff]
      constructor
      · intro hnil
        exact (Except.ok.inj hnil).symm
      · rintro rfl
        rfl
  | cons item items ih =>
      rw [mapM_cons_ok_iff, List.forall₂_cons_left_iff]
      simp only [ih]

theorem mapM_returns_iff :
    (∃ results, items.mapM f = .ok results) ↔ ∀ item ∈ items, ∃ result, f item = .ok result := by
  induction items with
  | nil => exact ⟨fun _ item hitem => absurd hitem List.not_mem_nil, fun _ => ⟨[], rfl⟩⟩
  | cons item items ih =>
      rw [List.forall_mem_cons, ← ih]
      simp only [mapM_cons_ok_iff]
      constructor
      · rintro ⟨_, result, rest, hresult, hrest, -⟩
        exact ⟨⟨result, hresult⟩, rest, hrest⟩
      · rintro ⟨⟨result, hresult⟩, rest, hrest⟩
        exact ⟨_, result, rest, hresult, hrest, rfl⟩

theorem exists_of_mem_mapM {result : β} (hmap : items.mapM f = .ok results)
    (hmem : result ∈ results) : ∃ item ∈ items, f item = .ok result := by
  induction items generalizing results with
  | nil =>
      obtain rfl := Except.ok.inj hmap
      contradiction
  | cons item items ih =>
      obtain ⟨first, rest, hfirst, hrest, rfl⟩ := mapM_cons_ok_iff.mp hmap
      rcases List.mem_cons.mp hmem with rfl | hmem
      · exact ⟨item, List.mem_cons_self, hfirst⟩
      · obtain ⟨found, hfound, hresult⟩ := ih hrest hmem
        exact ⟨found, List.mem_cons_of_mem _ hfound, hresult⟩

/-- In another order the items have the same results, in that order. -/
theorem mapM_perm (hperm : items.Perm items') (hmap : items.mapM f = .ok results) :
    ∃ results', items'.mapM f = .ok results' ∧ results.Perm results' := by
  obtain ⟨results', hresults, hsame⟩ :=
    List.perm_comp_forall₂ hperm.symm (mapM_ok_iff.mp hmap)
  exact ⟨results', mapM_ok_iff.mpr hresults, hsame.symm⟩

end Foundation
