import Mathlib.Data.List.Basic
import Mathlib.Data.List.Pairwise

/-! # Tables with unique indexes

A table is a list of rows no two of which agree on a unique index, so a state
with duplicate keys cannot be built. Inserting and updating are partial: they
are refused when they would break an index. Row order is the insertion order.
-/

namespace Foundation

/-- The primary key of a row and the pairs of rows that a unique index forbids.
The primary key is one of the indexes. -/
class Entity (Row : Type) (Key : outParam Type) where
  key : Row → Key
  Clash : Row → Row → Prop
  clash_of_key_eq : ∀ {a b : Row}, key a = key b → Clash a b
  clash_symm : ∀ {a b : Row}, Clash a b → Clash b a
  decidableClash : DecidableRel Clash

export Entity (key Clash)

instance {Row Key : Type} [Entity Row Key] : DecidableRel (Clash : Row → Row → Prop) :=
  Entity.decidableClash

/-- The stored rows of one entity. -/
@[ext] structure Table (Row : Type) {Key : Type} [Entity Row Key] where
  rows : List Row
  distinct : rows.Pairwise fun a b => ¬ Clash a b

namespace Table

variable {Row Key : Type} [Entity Row Key]

/-- The table without rows. -/
def empty : Table Row := ⟨[], List.Pairwise.nil⟩

/-- A column update that leaves every index entry of the row in place. -/
def Unindexed (f : Row → Row) : Prop :=
  (∀ a, key (f a) = key a) ∧ ∀ a b, Clash (f a) b ↔ Clash a b

theorem Unindexed.right {f : Row → Row} (hf : Unindexed f) (a b : Row) :
    Clash a (f b) ↔ Clash a b :=
  ⟨fun h => Entity.clash_symm ((hf.2 b a).mp (Entity.clash_symm h)),
    fun h => Entity.clash_symm ((hf.2 b a).mpr (Entity.clash_symm h))⟩

/-- Delete the rows that satisfy the predicate. -/
def deleteWhere (table : Table Row) (drop : Row → Bool) : Table Row :=
  ⟨table.rows.filter fun row => !drop row, table.distinct.filter _⟩

/-- Update unindexed columns of the selected rows. -/
def updateWhere (table : Table Row) (select : Row → Bool) (f : Row → Row)
    (hf : Unindexed f) : Table Row :=
  ⟨table.rows.map fun row => if select row then f row else row, by
    rw [List.pairwise_map]
    refine table.distinct.imp ?_
    intro a b hclash
    split <;> split <;> simp_all [hf.2, hf.right]⟩

variable [DecidableEq Key]

/-- The row with the given primary key. -/
def find? (table : Table Row) (id : Key) : Option Row :=
  table.rows.find? fun row => key row = id

/-- Delete the row with the given primary key. -/
def delete (table : Table Row) (id : Key) : Table Row :=
  table.deleteWhere fun row => key row = id

/-- Update unindexed columns of the row with the given primary key. -/
def modify (table : Table Row) (id : Key) (f : Row → Row) (hf : Unindexed f) : Table Row :=
  table.updateWhere (fun row => key row = id) f hf

/-- Insert a row at the end, or refuse it when an index already has its entry. -/
def insert? (table : Table Row) (row : Row) : Option (Table Row) :=
  if h : ∀ other ∈ table.rows, ¬ Clash other row then
    some ⟨table.rows ++ [row], by
      rw [List.pairwise_append]
      exact ⟨table.distinct, List.pairwise_singleton _ _, by simpa using h⟩⟩
  else none

/-- Replace the row with the given primary key, or refuse when the new row
breaks an index. -/
def replace? (table : Table Row) (id : Key) (f : Row → Row) : Option (Table Row) :=
  if h : (table.rows.map fun row => if key row = id then f row else row).Pairwise
      fun a b => ¬ Clash a b then
    some ⟨_, h⟩
  else none

/-! ## Rows after a write -/

section Rows

omit [DecidableEq Key]

@[simp] theorem rows_empty : (empty : Table Row).rows = [] := rfl

@[simp] theorem rows_deleteWhere (table : Table Row) (drop : Row → Bool) :
    (table.deleteWhere drop).rows = table.rows.filter fun row => !drop row := rfl

@[simp] theorem rows_updateWhere (table : Table Row) (select : Row → Bool) (f : Row → Row)
    (hf : Unindexed f) : (table.updateWhere select f hf).rows =
      table.rows.map fun row => if select row then f row else row := rfl

/-- Two rows of a table with the same index entry are the same row. -/
theorem eq_of_clash (table : Table Row) {a b : Row} (ha : a ∈ table.rows)
    (hb : b ∈ table.rows) (hclash : Clash a b) : a = b := by
  have : Std.Symm fun a b : Row => ¬ Clash a b :=
    ⟨fun _ _ h h' => h (Entity.clash_symm h')⟩
  by_contra hne
  exact table.distinct.forall ha hb hne hclash

/-- Primary keys do not repeat. -/
theorem nodup_keys (table : Table Row) : (table.rows.map key).Nodup := by
  rw [List.Nodup, List.pairwise_map]
  exact table.distinct.imp fun hclash heq => hclash (Entity.clash_of_key_eq heq)

theorem eq_of_key_eq (table : Table Row) {a b : Row} (ha : a ∈ table.rows)
    (hb : b ∈ table.rows) (hkey : key a = key b) : a = b :=
  table.eq_of_clash ha hb (Entity.clash_of_key_eq hkey)

end Rows

@[simp] theorem rows_delete (table : Table Row) (id : Key) :
    (table.delete id).rows = table.rows.filter fun row => !decide (key row = id) := rfl

@[simp] theorem rows_modify (table : Table Row) (id : Key) (f : Row → Row)
    (hf : Unindexed f) : (table.modify id f hf).rows =
      table.rows.map fun row => if key row = id then f row else row := by
  simp [modify]

/-! ## Lookup -/

theorem find?_eq_some_iff {table : Table Row} {id : Key} {row : Row} :
    table.find? id = some row ↔ row ∈ table.rows ∧ key row = id := by
  constructor
  · intro hfind
    exact ⟨List.mem_of_find?_eq_some hfind, by simpa using List.find?_some hfind⟩
  · rintro ⟨hmem, rfl⟩
    have hsome : (table.find? (key row)).isSome := by
      rw [find?, List.find?_isSome]
      exact ⟨row, hmem, by simp⟩
    obtain ⟨other, hother⟩ := Option.isSome_iff_exists.mp hsome
    have hkey : key other = key row := by simpa using List.find?_some hother
    rw [hother, table.eq_of_key_eq (List.mem_of_find?_eq_some hother) hmem hkey]

/-- Only one row has the primary key. -/
theorem filter_key {table : Table Row} {id : Key} {row : Row} (hfind : table.find? id = some row) :
    (table.rows.filter fun other => key other = id) = [row] := by
  obtain ⟨hmem, hkey⟩ := find?_eq_some_iff.mp hfind
  obtain ⟨before, after, hrows⟩ := List.append_of_mem hmem
  have hdistinct := table.distinct
  rw [hrows, List.pairwise_append, List.pairwise_cons] at hdistinct
  obtain ⟨-, ⟨hafter, -⟩, hbefore⟩ := hdistinct
  have hnone : ∀ other, other ∈ before ∨ other ∈ after → key other ≠ id := by
    intro other hother heq
    rcases hother with hother | hother
    · exact hbefore other hother row List.mem_cons_self
        (Entity.clash_of_key_eq (heq.trans hkey.symm))
    · exact hafter other hother (Entity.clash_of_key_eq (hkey.trans heq.symm))
  rw [hrows, List.filter_append, List.filter_cons_of_pos (by simpa using hkey),
    List.filter_eq_nil_iff.mpr fun other hother => by simpa using hnone other (.inl hother),
    List.filter_eq_nil_iff.mpr fun other hother => by simpa using hnone other (.inr hother)]
  rfl

/-- A deletion takes one row of those the row is among. -/
theorem length_filter_delete {table : Table Row} {id : Key} {row : Row} {select : Row → Bool}
    (hfind : table.find? id = some row) (hselect : select row = true) :
    ((table.rows.filter fun other => !decide (key other = id)).filter select).length + 1 =
      (table.rows.filter select).length := by
  have hrow : ((table.rows.filter fun other => key other = id).filter select).length = 1 := by
    rw [filter_key hfind, List.filter_singleton, hselect]
    rfl
  have hsplit := @List.length_eq_length_filter_add _ (table.rows.filter select)
    fun other => decide (key other = id)
  rw [List.filter_filter, List.filter_congr fun _ _ => Bool.and_comm _ _, ← List.filter_filter,
    hrow, List.filter_filter, List.filter_congr fun _ _ => Bool.and_comm _ _,
    ← List.filter_filter] at hsplit
  rw [hsplit, Nat.add_comm]

/-- The first row with the primary key and a further property. -/
theorem find?_where {table : Table Row} {id : Key} {select : Row → Prop} [DecidablePred select]
    {row : Row} : (table.rows.find? fun row => key row = id ∧ select row) = some row ↔
      table.find? id = some row ∧ select row := by
  rw [find?_eq_some_iff]
  constructor
  · intro hfind
    have hselected := List.find?_some hfind
    obtain ⟨hkey, hselect⟩ := of_decide_eq_true hselected
    exact ⟨⟨List.mem_of_find?_eq_some hfind, hkey⟩, hselect⟩
  · rintro ⟨⟨hmem, hkey⟩, hselect⟩
    cases hfound : table.rows.find? fun row => key row = id ∧ select row with
    | none => exact absurd (decide_eq_true ⟨hkey, hselect⟩) (List.find?_eq_none.mp hfound row hmem)
    | some other =>
        have hselected := List.find?_some hfound
        obtain ⟨hkey', -⟩ := of_decide_eq_true hselected
        rw [table.eq_of_key_eq (List.mem_of_find?_eq_some hfound) hmem (hkey'.trans hkey.symm)]

theorem find?_eq_none_iff {table : Table Row} {id : Key} :
    table.find? id = none ↔ ∀ row ∈ table.rows, key row ≠ id := by
  simp [find?]

theorem find?_modify_of_ne {table : Table Row} {id other : Key} {f : Row → Row}
    (hf : Unindexed f) (hne : other ≠ id) :
    (table.modify id f hf).find? other = table.find? other := by
  rw [find?, find?, rows_modify, List.find?_map]
  have hpred : ((fun row : Row => decide (key row = other)) ∘
      fun row => if key row = id then f row else row) = fun row => decide (key row = other) := by
    funext row
    by_cases hid : key row = id
    · simp [hid, hf.1]
    · simp [hid]
  rw [hpred]
  cases hfind : List.find? (fun row : Row => decide (key row = other)) table.rows with
  | none => rfl
  | some row =>
      have hkey : key row = other := by simpa using List.find?_some hfind
      simp [hkey, hne]

theorem find?_modify {table : Table Row} {id : Key} {f : Row → Row} (hf : Unindexed f)
    {row : Row} (hfind : table.find? id = some row) :
    (table.modify id f hf).find? id = some (f row) := by
  obtain ⟨hmem, rfl⟩ := find?_eq_some_iff.mp hfind
  refine find?_eq_some_iff.mpr ⟨?_, hf.1 row⟩
  rw [rows_modify, List.mem_map]
  exact ⟨row, hmem, by simp⟩

/-- A column update neither adds nor removes a row. -/
theorem find?_modify_isSome (table : Table Row) (id other : Key) {f : Row → Row}
    (hf : Unindexed f) :
    ((table.modify id f hf).find? other).isSome = (table.find? other).isSome := by
  by_cases hid : other = id
  · subst hid
    cases hfind : table.find? other with
    | some row => rw [find?_modify hf hfind]; rfl
    | none =>
        have hnone : (table.modify other f hf).find? other = none := by
          rw [find?_eq_none_iff, rows_modify]
          intro row hrow
          obtain ⟨before, hbefore, rfl⟩ := List.mem_map.mp hrow
          rw [if_neg (find?_eq_none_iff.mp hfind before hbefore)]
          exact find?_eq_none_iff.mp hfind before hbefore
        rw [hnone]
  · rw [find?_modify_of_ne hf hid]

theorem find?_deleteWhere {table : Table Row} {drop : Row → Bool} {id : Key} {row : Row} :
    (table.deleteWhere drop).find? id = some row ↔
      table.find? id = some row ∧ drop row = false := by
  simp only [find?_eq_some_iff, rows_deleteWhere, List.mem_filter, Bool.not_eq_true',
    and_right_comm]

/-! ## Partial writes -/

omit [DecidableEq Key] in
theorem insert?_eq_some_iff {table table' : Table Row} {row : Row} :
    table.insert? row = some table' ↔
      (∀ other ∈ table.rows, ¬ Clash other row) ∧ table'.rows = table.rows ++ [row] := by
  unfold insert?
  split
  next hfree =>
    simp only [Option.some.injEq]
    exact ⟨fun h => ⟨hfree, h ▸ rfl⟩, fun h => Table.ext h.2.symm⟩
  next hfree => simp [hfree]

omit [DecidableEq Key] in
theorem insert?_eq_none_iff {table : Table Row} {row : Row} :
    table.insert? row = none ↔ ∃ other ∈ table.rows, Clash other row := by
  unfold insert?
  split
  next hfree => simpa using hfree
  next hfree => simpa using hfree

theorem replace?_eq_some {table table' : Table Row} {id : Key} {f : Row → Row}
    (h : table.replace? id f = some table') :
    table'.rows = table.rows.map fun row => if key row = id then f row else row := by
  unfold replace? at h
  split at h
  · exact (Option.some.inj h) ▸ rfl
  · contradiction

/-- A replacement that keeps the key of the row is found in its place. -/
theorem find?_replace {table table' : Table Row} {id : Key} {f : Row → Row} {row : Row}
    (hreplace : table.replace? id f = some table') (hfind : table.find? id = some row)
    (hkey : key (f row) = id) : table'.find? id = some (f row) := by
  obtain ⟨hmem, rfl⟩ := find?_eq_some_iff.mp hfind
  refine find?_eq_some_iff.mpr ⟨?_, hkey⟩
  rw [replace?_eq_some hreplace]
  exact List.mem_map.mpr ⟨row, hmem, if_pos rfl⟩

/-- The other rows are found as before. -/
theorem find?_replace_of_ne {table table' : Table Row} {id other : Key} {f : Row → Row}
    (hreplace : table.replace? id f = some table') (hkey : ∀ row, key row = id → key (f row) = id)
    (hne : other ≠ id) : table'.find? other = table.find? other := by
  rw [find?, find?, replace?_eq_some hreplace]
  induction table.rows with
  | nil => rfl
  | cons row rows ih =>
      rw [List.map_cons, List.find?_cons, List.find?_cons, ih]
      by_cases hrow : key row = id
      · rw [if_pos hrow, hkey row hrow, hrow, decide_eq_false hne.symm]
      · rw [if_neg hrow]

/-- An insertion keeps every lookup that succeeded before. -/
theorem find?_of_insert {table table' : Table Row} {row found : Row} {id : Key}
    (hinsert : table.insert? row = some table') (hfind : table.find? id = some found) :
    table'.find? id = some found := by
  obtain ⟨hmem, hkey⟩ := find?_eq_some_iff.mp hfind
  rw [find?_eq_some_iff, (insert?_eq_some_iff.mp hinsert).2]
  exact ⟨List.mem_append_left _ hmem, hkey⟩

theorem find?_inserted {table table' : Table Row} {row : Row}
    (hinsert : table.insert? row = some table') : table'.find? (key row) = some row := by
  rw [find?_eq_some_iff, (insert?_eq_some_iff.mp hinsert).2]
  exact ⟨List.mem_append_right _ (List.mem_singleton_self _), rfl⟩

/-- A row that is found after an insertion was stored before, or is the new one. -/
theorem find?_insert_cases {table table' : Table Row} {row found : Row} {id : Key}
    (hinsert : table.insert? row = some table') (hfind : table'.find? id = some found) :
    table.find? id = some found ∨ table.find? id = none ∧ found = row := by
  obtain ⟨hmem, hkey⟩ := find?_eq_some_iff.mp hfind
  obtain ⟨hfree, hrows⟩ := insert?_eq_some_iff.mp hinsert
  rw [hrows] at hmem
  rcases List.mem_append.mp hmem with hold | hnew
  · exact .inl (find?_eq_some_iff.mpr ⟨hold, hkey⟩)
  · obtain rfl := List.mem_singleton.mp hnew
    refine .inr ⟨find?_eq_none_iff.mpr fun other hother hsame => ?_, rfl⟩
    exact hfree other hother (Entity.clash_of_key_eq (hsame.trans hkey.symm))

end Table

end Foundation
