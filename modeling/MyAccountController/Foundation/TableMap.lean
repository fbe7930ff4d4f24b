import MyAccountController.Foundation.Table

/-! # Tables seen through a function on rows

A function on rows that leaves every index entry in place maps a table to a
table. Every operation on tables commutes with it, so a table and its image
answer alike.
-/

namespace Foundation

namespace Table

variable {Row Key : Type} [Entity Row Key] {f : Row → Row}

/-- Apply an unindexed column update to every row. -/
def mapRows (f : Row → Row) (hf : Unindexed f) (table : Table Row) : Table Row :=
  table.updateWhere (fun _ => true) f hf

@[simp] theorem rows_mapRows (hf : Unindexed f) (table : Table Row) :
    (table.mapRows f hf).rows = table.rows.map f := by
  simp [mapRows]

theorem clash_map (hf : Unindexed f) (a b : Row) : Clash (f a) (f b) ↔ Clash a b :=
  (hf.2 a (f b)).trans (hf.right a b)

theorem filter_mapRows (hf : Unindexed f) (table : Table Row) {select select' : Row → Bool}
    (hselect : ∀ row ∈ table.rows, select' (f row) = select row) :
    (table.mapRows f hf).rows.filter select' = (table.rows.filter select).map f := by
  rw [rows_mapRows, List.filter_map]
  congr 1
  exact List.filter_congr hselect

theorem findRow_mapRows (hf : Unindexed f) (table : Table Row) {select select' : Row → Bool}
    (hselect : ∀ row ∈ table.rows, select' (f row) = select row) :
    (table.mapRows f hf).rows.find? select' = (table.rows.find? select).map f := by
  rw [← List.head?_filter, filter_mapRows hf table hselect, List.head?_map, List.head?_filter]

/-- A row is taken by the image exactly when it is taken. -/
theorem insert?_mapRows (hf : Unindexed f) (table : Table Row) (row : Row) :
    (table.mapRows f hf).insert? (f row) = (table.insert? row).map (mapRows f hf) := by
  cases hinsert : table.insert? row with
  | none =>
      obtain ⟨other, hother, hclash⟩ := insert?_eq_none_iff.mp hinsert
      refine insert?_eq_none_iff.mpr ⟨f other, ?_, (clash_map hf other row).mpr hclash⟩
      rw [rows_mapRows]
      exact List.mem_map_of_mem hother
  | some table' =>
      obtain ⟨hfree, hrows⟩ := insert?_eq_some_iff.mp hinsert
      refine insert?_eq_some_iff.mpr ⟨?_, ?_⟩
      · intro other hother hclash
        rw [rows_mapRows] at hother
        obtain ⟨before, hbefore, rfl⟩ := List.mem_map.mp hother
        exact hfree before hbefore ((clash_map hf before row).mp hclash)
      · rw [rows_mapRows, rows_mapRows, hrows, List.map_append]
        rfl

variable [DecidableEq Key]

theorem find?_mapRows (hf : Unindexed f) (table : Table Row) (id : Key) :
    (table.mapRows f hf).find? id = (table.find? id).map f :=
  findRow_mapRows hf table fun row _ => by rw [hf.1]

theorem delete_mapRows (hf : Unindexed f) (table : Table Row) (id : Key) :
    (table.mapRows f hf).delete id = (table.delete id).mapRows f hf := by
  ext1
  rw [rows_delete, rows_mapRows, rows_mapRows, rows_delete, List.filter_map]
  congr 1
  refine List.filter_congr fun row _ => ?_
  simp [hf.1]

/-- An update of one row of the image, where the other rows look the same through `f'`. -/
theorem modify_mapRows {f' : Row → Row} (hf : Unindexed f) (hf' : Unindexed f') (table : Table Row)
    (id : Key) {g g' : Row → Row} (hg : Unindexed g) (hg' : Unindexed g')
    (hrow : ∀ row ∈ table.rows, key row = id → g' (f row) = f' (g row))
    (hothers : ∀ row ∈ table.rows, key row ≠ id → f row = f' row) :
    (table.mapRows f hf).modify id g' hg' = (table.modify id g hg).mapRows f' hf' := by
  ext1
  rw [rows_modify, rows_mapRows, rows_mapRows, rows_modify, List.map_map, List.map_map]
  refine List.map_congr_left fun row hmem => ?_
  simp only [Function.comp_apply, hf.1]
  split
  next hid => exact hrow row hmem hid
  next hne => exact hothers row hmem hne

/-- A replacement is accepted by the image exactly when it is accepted. -/
theorem replace?_mapRows (hf : Unindexed f) (table : Table Row) (id : Key) {g g' : Row → Row}
    (hcommutes : ∀ row ∈ table.rows, key row = id → g' (f row) = f (g row)) :
    (table.mapRows f hf).replace? id g' = (table.replace? id g).map (mapRows f hf) := by
  have hrows : ((table.mapRows f hf).rows.map fun row => if key row = id then g' row else row) =
      (table.rows.map fun row => if key row = id then g row else row).map f := by
    rw [rows_mapRows, List.map_map, List.map_map]
    refine List.map_congr_left fun row hrow => ?_
    simp only [Function.comp_apply, hf.1]
    split
    next hid => exact hcommutes row hrow hid
    next => rfl
  have hdistinct : (((table.mapRows f hf).rows.map fun row =>
      if key row = id then g' row else row).Pairwise fun a b => ¬ Clash a b) ↔
        (table.rows.map fun row => if key row = id then g row else row).Pairwise
          fun a b => ¬ Clash a b := by
    rw [hrows, List.pairwise_map]
    simp only [clash_map hf]
  unfold replace?
  by_cases h : (table.rows.map fun row => if key row = id then g row else row).Pairwise
      fun a b => ¬ Clash a b
  · rw [dif_pos h, dif_pos (hdistinct.mpr h), Option.map_some, Option.some.injEq]
    ext1
    exact hrows.trans (rows_mapRows hf ⟨_, h⟩).symm
  · rw [dif_neg h, dif_neg fun h' => h (hdistinct.mp h')]
    rfl

end Table

end Foundation
