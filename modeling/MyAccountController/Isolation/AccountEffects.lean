import MyAccountController.Isolation.OthersAccounts

/-! # What an account request does to the table

A request whose body names declared fields only writes one row of its user: it
adds one, rewrites columns of one that are not its id or its owner, or removes
one. So the owner of a row never changes, and the size of a vault changes by what
the request says.
-/

namespace MyAccountController

open Foundation AccountsService Database

variable {R : Runtime}

namespace VaultOp

/-- The id of the row that the operation inserts. -/
def drawn : VaultOp R → Option String
  | create _ fresh => some fresh.id
  | _ => none

/-- How many accounts there are more when the operation has succeeded. -/
def gain : VaultOp R → Int
  | create _ _ => 1
  | update _ _ _ => 0
  | remove _ => -1

/-- A row of the user is added, the columns of one are rewritten, or one is gone. -/
def Writes (userId : String) (before after : Table Account) : VaultOp R → Prop
  | create _ fresh => ∃ row, row.userId = userId ∧ row.id = fresh.id ∧
      after.rows = before.rows ++ [row]
  | update _ _ _ => ∃ f : Account → Account,
      (∀ row, (f row).id = row.id ∧ (f row).userId = row.userId) ∧ after.rows = before.rows.map f
  | remove id => (∃ row, before.find? id = some row ∧ row.userId = userId) ∧
      after = before.delete id

section Effects

variable {userId : String} {key : R.Key} {now : Int} {op : VaultOp R} {db db' : Database}

theorem create_writes {body : JsObject} {fresh : FreshAccount R} {row : Account}
    (hbody : ∀ name ∈ body.names, name ∈ declaredFields)
    (hrun : AccountsService.create userId key now fresh body db = (.ok row, db')) :
    (VaultOp.create body fresh).Writes userId db.accounts db'.accounts := by
  have hop : (VaultOp.create body fresh).Declared := hbody
  obtain ⟨huser, -, accounts, rfl, hrows⟩ := create_row hop.ownColumns hrun
  obtain ⟨plaintext, -, haccount, -⟩ := create_ok_iff.mp hrun
  have hid := (AccountInput.account_ok_iff.mp haccount).2.1
  -- A declared body names no id, so it is the default.
  rw [AccountInput.textOr, createData, JsObject.get_spread, JsObject.get_spread,
    JsObject.get_cons_of_ne (by decide), JsObject.get_cons_of_ne (by decide), JsObject.get_nil,
    JsObject.get_without_of_ne _ (by decide), declared_absent hbody (by decide)] at hid
  exact ⟨row, huser, (Except.ok.inj hid).symm, hrows⟩

theorem update_writes {id : String} {body : JsObject} {iv : R.Iv} {row : Account}
    (hbody : ∀ name ∈ body.names, name ∈ declaredFields)
    (hrun : AccountsService.update userId id key now iv body db = (.ok row, db')) :
    (VaultOp.update id body iv).Writes userId db.accounts db'.accounts := by
  have hop : (VaultOp.update id body iv).Declared := hbody
  obtain ⟨before, columns, changes, -, hcolumns, hchanges, hwrite⟩ := update_ok_iff.mp hrun
  rw [update_replaces hcolumns hchanges hop.ownColumns.2] at hwrite
  obtain ⟨-, accounts, -, -, -, hreplace, rfl⟩ := (Model.replace_ok_iff _).mp hwrite
  have hid : changes.id = none := by
    have hnamed := (AccountInput.changes_ok_iff.mp hchanges).2.1
    have habsent : columns.get "id" = none :=
      (updateData_get hcolumns (by decide) (by decide)).trans (declared_absent hbody (by decide))
    exact (Except.ok.inj ((AccountInput.textUpdate_of_absent habsent).symm.trans hnamed)).symm
  refine ⟨fun row => if row.id = id then changes.apply now row else row, fun row => ?_,
    Table.replace?_eq_some hreplace⟩
  by_cases hrow : row.id = id
  · simp only [if_pos hrow]
    refine ⟨?_, (apply_changes hop.ownColumns.1 hcolumns hchanges row).1⟩
    rw [AccountInput.Changes.apply, hid]
    rfl
  · simp only [if_neg hrow, and_self]

/-- A request that fails changes nothing, and one that succeeds writes one row. -/
theorem service_cases (hop : op.Declared) (db : Database) :
    ((op.request.service userId key now db).1.isOk = false ∧
        (op.request.service userId key now db).2 = db) ∨
      (op.request.service userId key now db).1.isOk = true ∧
        op.Writes userId db.accounts (op.request.service userId key now db).2.accounts := by
  rcases hrun : op.request.service userId key now db with ⟨e | u, db'⟩
  · left
    refine ⟨rfl, ?_⟩
    cases op with
    | create body fresh => exact create_error (Handler.bind_pure_error_iff.mp hrun)
    | update id body iv => exact update_error (Handler.bind_pure_error_iff.mp hrun)
    | remove id => exact remove_error hrun
  · right
    refine ⟨rfl, ?_⟩
    cases op with
    | create body fresh =>
        obtain ⟨row, after, hcreate, hpure⟩ := Handler.bind_ok_iff.mp hrun
        obtain ⟨-, rfl⟩ := Prod.mk.inj hpure
        exact create_writes hop hcreate
    | update id body iv =>
        obtain ⟨row, after, hupdate, hpure⟩ := Handler.bind_ok_iff.mp hrun
        obtain ⟨-, rfl⟩ := Prod.mk.inj hpure
        exact update_writes hop hupdate
    | remove id =>
        obtain ⟨howned, rfl⟩ := remove_ok_iff.mp hrun
        exact ⟨howned, rfl⟩

/-- The row of an id keeps its owner, unless the id is drawn for a new row. -/
theorem Writes.owner {before after : Table Account} (hwrites : op.Writes userId before after)
    {id : String} (hid : id ∉ op.drawn) {row' : Account} (hrow' : after.find? id = some row') :
    ∃ row, before.find? id = some row ∧ row.userId = row'.userId := by
  obtain ⟨hmem, hkey⟩ := Table.find?_eq_some_iff.mp hrow'
  cases op with
  | create body fresh =>
      obtain ⟨row, -, hfresh, hrows⟩ := hwrites
      rw [hrows] at hmem
      rcases List.mem_append.mp hmem with hold | hnew
      · exact ⟨row', Table.find?_eq_some_iff.mpr ⟨hold, hkey⟩, rfl⟩
      · obtain rfl := List.mem_singleton.mp hnew
        exact absurd (congrArg some (hfresh.symm.trans hkey)) hid
  | update target body iv =>
      obtain ⟨f, hf, hrows⟩ := hwrites
      rw [hrows] at hmem
      obtain ⟨row, hrow, rfl⟩ := List.mem_map.mp hmem
      refine ⟨row, Table.find?_eq_some_iff.mpr ⟨hrow, (hf row).1.symm.trans hkey⟩, ?_⟩
      exact (hf row).2.symm
  | remove target =>
      obtain ⟨-, rfl⟩ := hwrites
      exact ⟨row', (Table.find?_deleteWhere.mp hrow').1, rfl⟩

/-- The vault of the user has as many accounts more as the operation says. -/
theorem Writes.length {before after : Table Account} (hwrites : op.Writes userId before after) :
    ((after.rows.filter fun row => row.userId = userId).length : Int) =
      (before.rows.filter fun row => row.userId = userId).length + op.gain := by
  cases op with
  | create body fresh =>
      obtain ⟨row, huser, -, hrows⟩ := hwrites
      simp [hrows, huser, gain]
  | update id body iv =>
      obtain ⟨f, hf, hrows⟩ := hwrites
      simp [hrows, List.filter_map, Function.comp_def, hf, gain]
  | remove id =>
      obtain ⟨⟨row, hfind, huser⟩, rfl⟩ := hwrites
      have hlength := @Table.length_filter_delete _ _ _ _ before id row
        (fun row => decide (row.userId = userId)) hfind (decide_eq_true huser)
      rw [gain, Table.rows_delete, ← hlength]
      omega

/-- A request with a declared body names no other owner. -/
theorem service_sameForOthers (hop : op.Declared) (db : Database) :
    SameForOthers userId db (op.request.service userId key now db).2 := by
  cases op with
  | create body fresh =>
      have howner : body.get "userId" = none := declared_absent hop (by decide)
      refine (Handler.bind_pure_state _ _ db).symm ▸ create_sameForOthers_iff.mpr fun _ => ?_
      simp [NamesOwner, howner]
  | update id body iv =>
      have howner : body.get "userId" = none := declared_absent hop (by decide)
      refine (Handler.bind_pure_state _ _ db).symm ▸
        (update_columns_sameForOthers_iff hop.ownColumns.2).mpr fun _ => ?_
      simp [SetsOwner, howner]
  | remove id => exact remove_sameForOthers

end Effects

end VaultOp

end MyAccountController
