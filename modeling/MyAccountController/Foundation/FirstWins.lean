import Mathlib.Data.List.Basic
import Mathlib.Data.List.Nodup

/-! # Collecting by key, the first entry wins

Entries arrive one after the other and an entry whose key is already present is
dropped. So collecting again, or starting again after a stop, changes nothing
that one full pass would not have changed.
-/

namespace Foundation

variable {Entry Index : Type} [DecidableEq Index] {index : Entry → Index}

/-- Add the entry at the end unless its key is present. -/
def addNew (index : Entry → Index) (stored : List Entry) (entry : Entry) : List Entry :=
  if index entry ∈ stored.map index then stored else stored ++ [entry]

/-- The key of the entry is not present. -/
def isNew (index : Entry → Index) (stored : List Entry) (entry : Entry) : Bool :=
  index entry ∉ stored.map index

theorem isNew_iff {stored : List Entry} {entry : Entry} :
    isNew index stored entry = true ↔ index entry ∉ stored.map index :=
  decide_eq_true_iff

/-- Add every entry in turn. -/
def collect (index : Entry → Index) (stored entries : List Entry) : List Entry :=
  entries.foldl (addNew index) stored

theorem addNew_of_mem {stored : List Entry} {entry : Entry}
    (hmem : index entry ∈ stored.map index) : addNew index stored entry = stored :=
  if_pos hmem

theorem addNew_of_not_mem {stored : List Entry} {entry : Entry}
    (hnot : index entry ∉ stored.map index) : addNew index stored entry = stored ++ [entry] :=
  if_neg hnot

@[simp] theorem collect_nil (stored : List Entry) : collect index stored [] = stored := rfl

@[simp] theorem collect_cons (stored : List Entry) (entry : Entry) (entries : List Entry) :
    collect index stored (entry :: entries) =
      collect index (addNew index stored entry) entries := rfl

theorem collect_append (stored entries entries' : List Entry) :
    collect index stored (entries ++ entries') =
      collect index (collect index stored entries) entries' :=
  List.foldl_append

theorem mem_of_mem_addNew {stored : List Entry} {entry other : Entry}
    (hmem : other ∈ addNew index stored entry) : other ∈ stored ∨ other = entry := by
  unfold addNew at hmem
  split at hmem
  · exact .inl hmem
  · simpa using hmem

theorem forall_mem_addNew {P : Entry → Prop} {stored : List Entry} {entry : Entry}
    (hstored : ∀ other ∈ stored, P other) (hentry : P entry) :
    ∀ other ∈ addNew index stored entry, P other := by
  intro other hother
  rcases mem_of_mem_addNew hother with hold | rfl
  · exact hstored other hold
  · exact hentry

/-! ## The keys that are present -/

theorem mem_map_addNew {stored : List Entry} {entry : Entry} {i : Index} :
    i ∈ (addNew index stored entry).map index ↔ i ∈ stored.map index ∨ i = index entry := by
  by_cases hmem : index entry ∈ stored.map index
  · rw [addNew_of_mem hmem]
    constructor
    · exact Or.inl
    · intro h
      rcases h with h | h
      · exact h
      · rw [h]
        exact hmem
  · rw [addNew_of_not_mem hmem]
    simp

theorem mem_map_collect {stored entries : List Entry} {i : Index} :
    i ∈ (collect index stored entries).map index ↔
      i ∈ stored.map index ∨ i ∈ entries.map index := by
  induction entries generalizing stored with
  | nil => simp
  | cons entry entries ih =>
      rw [collect_cons, ih, mem_map_addNew, List.map_cons, List.mem_cons]
      exact or_assoc

theorem prefix_collect (stored entries : List Entry) :
    stored <+: collect index stored entries := by
  induction entries generalizing stored with
  | nil => exact List.prefix_refl stored
  | cons entry entries ih =>
      apply List.IsPrefix.trans _ (ih (addNew index stored entry))
      by_cases hmem : index entry ∈ stored.map index
      · simp only [addNew_of_mem hmem, List.prefix_rfl]
      · rw [addNew_of_not_mem hmem]
        exact List.prefix_append stored [entry]

theorem nodup_collect {stored entries : List Entry} (hnodup : (stored.map index).Nodup) :
    ((collect index stored entries).map index).Nodup := by
  induction entries generalizing stored with
  | nil => exact hnodup
  | cons entry entries ih =>
      apply ih
      by_cases hmem : index entry ∈ stored.map index
      · rw [addNew_of_mem hmem]
        exact hnodup
      · rw [addNew_of_not_mem hmem, List.map_append]
        exact List.nodup_append'.mpr ⟨hnodup, List.nodup_singleton _, by simpa using hmem⟩

/-! ## Views of the entries -/

/-- A view that separates the entries just as their keys do can be taken at the
end. -/
theorem map_collect {View ViewIndex : Type} [DecidableEq ViewIndex] {view : Entry → View}
    {viewIndex : View → ViewIndex} {P : Entry → Prop}
    (hview : ∀ entry other, P entry → P other →
      (viewIndex (view entry) = viewIndex (view other) ↔ index entry = index other))
    {stored entries : List Entry} (hstored : ∀ entry ∈ stored, P entry)
    (hentries : ∀ entry ∈ entries, P entry) :
    (collect index stored entries).map view =
      collect viewIndex (stored.map view) (entries.map view) := by
  induction entries generalizing stored with
  | nil => rfl
  | cons entry entries ih =>
      have hentry := hentries entry List.mem_cons_self
      have hadded : ∀ other ∈ addNew index stored entry, P other :=
        forall_mem_addNew hstored hentry
      have hkeys : viewIndex (view entry) ∈ (stored.map view).map viewIndex ↔
          index entry ∈ stored.map index := by
        rw [List.map_map, List.mem_map, List.mem_map]
        apply exists_congr
        intro other
        apply and_congr_right
        intro hother
        exact hview other entry (hstored other hother) hentry
      rw [collect_cons, ih hadded fun other hother => hentries other (List.mem_cons_of_mem _ hother),
        List.map_cons, collect_cons]
      congr 1
      by_cases hmem : index entry ∈ stored.map index
      · rw [addNew_of_mem hmem, addNew_of_mem (hkeys.mpr hmem)]
      · rw [addNew_of_not_mem hmem, addNew_of_not_mem (mt hkeys.mp hmem), List.map_append]
        rfl

/-- A selection that the keys decide can be taken at the end. -/
theorem filter_collect {select : Entry → Bool} {P : Entry → Prop}
    (hselect : ∀ entry other, P entry → P other → index entry = index other →
      select entry = select other)
    {stored entries : List Entry} (hstored : ∀ entry ∈ stored, P entry)
    (hentries : ∀ entry ∈ entries, P entry) :
    (collect index stored entries).filter select =
      collect index (stored.filter select) (entries.filter select) := by
  induction entries generalizing stored with
  | nil => rfl
  | cons entry entries ih =>
      have hentry := hentries entry List.mem_cons_self
      have hadded : ∀ other ∈ addNew index stored entry, P other :=
        forall_mem_addNew hstored hentry
      rw [collect_cons, ih hadded fun other hother => hentries other (List.mem_cons_of_mem _ hother)]
      by_cases hsel : select entry
      · have hkeys : index entry ∈ (stored.filter select).map index ↔
            index entry ∈ stored.map index := by
          constructor
          · intro hmem
            exact List.map_subset index List.filter_sublist.subset hmem
          · intro hmem
            obtain ⟨other, hother, hindex⟩ := List.mem_map.mp hmem
            refine List.mem_map.mpr ⟨other, List.mem_filter.mpr ⟨hother, ?_⟩, hindex⟩
            rw [hselect other entry (hstored other hother) hentry hindex]
            exact hsel
        rw [List.filter_cons_of_pos hsel, collect_cons]
        congr 1
        by_cases hmem : index entry ∈ stored.map index
        · rw [addNew_of_mem hmem, addNew_of_mem (hkeys.mpr hmem)]
        · rw [addNew_of_not_mem hmem, addNew_of_not_mem (mt hkeys.mp hmem), List.filter_append,
            List.filter_cons_of_pos hsel, List.filter_nil]
      · rw [List.filter_cons_of_neg hsel]
        congr 1
        by_cases hmem : index entry ∈ stored.map index
        · rw [addNew_of_mem hmem]
        · rw [addNew_of_not_mem hmem, List.filter_append, List.filter_cons_of_neg hsel,
            List.filter_nil, List.append_nil]

/-- What is added are the first entries of the keys that were not present. -/
theorem collect_eq_append (stored entries : List Entry) :
    collect index stored entries = stored ++
      collect index [] (entries.filter (isNew index stored)) := by
  suffices hsuffices : ∀ added : List Entry, (∀ entry ∈ added, index entry ∉ stored.map index) →
      collect index (stored ++ added) entries = stored ++
        collect index added (entries.filter (isNew index stored)) by
    simpa using hsuffices []
  induction entries with
  | nil =>
      intro added _
      rfl
  | cons entry entries ih =>
      intro added hadded
      rw [collect_cons]
      by_cases hmem : index entry ∈ stored.map index
      · rw [addNew_of_mem (by simpa using .inl (List.mem_map.mp hmem)),
          List.filter_cons_of_neg (by simpa [isNew] using List.mem_map.mp hmem)]
        exact ih added hadded
      · rw [List.filter_cons_of_pos (by simpa [isNew] using hmem), collect_cons]
        by_cases hmem' : index entry ∈ added.map index
        · rw [addNew_of_mem hmem', addNew_of_mem (by
            rw [List.map_append]
            exact List.mem_append_right _ hmem')]
          exact ih added hadded
        · rw [addNew_of_not_mem hmem', addNew_of_not_mem (by
            rw [List.map_append, List.mem_append, not_or]
            exact ⟨hmem, hmem'⟩), List.append_assoc]
          apply ih
          intro other hother
          rcases List.mem_append.mp hother with hold | hnew
          · exact hadded other hold
          · rw [List.mem_singleton.mp hnew]
            exact hmem

theorem mem_of_mem_collect {stored entries : List Entry} {entry : Entry}
    (hmem : entry ∈ collect index stored entries) : entry ∈ stored ∨ entry ∈ entries := by
  induction entries generalizing stored with
  | nil => exact .inl hmem
  | cons first entries ih =>
      rcases ih hmem with hadded | hrest
      · rcases mem_of_mem_addNew hadded with hold | rfl
        · exact .inl hold
        · exact .inr List.mem_cons_self
      · exact .inr (List.mem_cons_of_mem _ hrest)

/-! ## Collecting again -/

/-- Entries whose keys are present change nothing. -/
theorem collect_of_mem {stored entries : List Entry}
    (hmem : ∀ entry ∈ entries, index entry ∈ stored.map index) :
    collect index stored entries = stored := by
  induction entries with
  | nil => rfl
  | cons entry entries ih =>
      rw [collect_cons, addNew_of_mem (hmem entry List.mem_cons_self)]
      exact ih fun other hother => hmem other (List.mem_cons_of_mem _ hother)

theorem collect_collect (stored entries : List Entry) :
    collect index (collect index stored entries) entries = collect index stored entries := by
  apply collect_of_mem
  intro entry hentry
  exact mem_map_collect.mpr (.inr (List.mem_map_of_mem hentry))

/-- A pass that stopped anywhere is made good by a full one. -/
theorem collect_restart {stored entries done : List Entry} (hdone : done <+: entries) :
    collect index (collect index stored done) entries = collect index stored entries := by
  obtain ⟨rest, rfl⟩ := hdone
  rw [collect_append, collect_collect, ← collect_append]

/-! ## The entry that is kept -/

/-- The entry found under a key is the stored one, else the first that arrived. -/
theorem find?_collect (stored entries : List Entry) (i : Index) :
    (collect index stored entries).find? (fun entry => index entry = i) =
      (stored.find? fun entry => index entry = i).or
        (entries.find? fun entry => index entry = i) := by
  induction entries generalizing stored with
  | nil => simp
  | cons entry entries ih =>
      rw [collect_cons, ih]
      by_cases hmem : index entry ∈ stored.map index
      · rw [addNew_of_mem hmem]
        by_cases hi : index entry = i
        · obtain ⟨other, hother, hindex⟩ := List.mem_map.mp hmem
          have hfound : (stored.find? fun entry => index entry = i).isSome := by
            rw [List.find?_isSome]
            exact ⟨other, hother, by simp [hindex, hi]⟩
          obtain ⟨found, hfound⟩ := Option.isSome_iff_exists.mp hfound
          rw [hfound]
          rfl
        · rw [List.find?_cons_of_neg (by simpa using hi)]
      · rw [addNew_of_not_mem hmem, List.find?_append, Option.or_assoc]
        congr 1
        by_cases hi : index entry = i
        · simp [hi]
        · simp [hi]

/-! ## Two collections -/

omit [DecidableEq Index] in
/-- Collections without repeated keys that hold the same views are the same up
to their order. -/
theorem perm_map_of_mutual {View : Type} {view : Entry → View} {viewIndex : View → Index}
    (hview : ∀ entry, viewIndex (view entry) = index entry) {xs ys : List Entry}
    (hxs : (xs.map index).Nodup) (hys : (ys.map index).Nodup)
    (hxy : ∀ x ∈ xs, ∃ y ∈ ys, view y = view x) (hyx : ∀ y ∈ ys, ∃ x ∈ xs, view x = view y) :
    (xs.map view).Perm (ys.map view) := by
  have hnodup : ∀ zs : List Entry, (zs.map index).Nodup → (zs.map view).Nodup := by
    intro zs hzs
    apply List.Nodup.of_map viewIndex
    rw [List.map_map]
    rwa [show viewIndex ∘ view = index from funext hview]
  rw [List.perm_ext_iff_of_nodup (hnodup xs hxs) (hnodup ys hys)]
  intro v
  constructor
  · intro hv
    obtain ⟨x, hx, rfl⟩ := List.mem_map.mp hv
    obtain ⟨y, hy, heq⟩ := hxy x hx
    exact List.mem_map.mpr ⟨y, hy, heq⟩
  · intro hv
    obtain ⟨y, hy, rfl⟩ := List.mem_map.mp hv
    obtain ⟨x, hx, heq⟩ := hyx y hy
    exact List.mem_map.mpr ⟨x, hx, heq⟩

end Foundation
