import MyAccountController.Common.Exception
import MyAccountController.Prisma.Schema

/-! # Prisma queries

Each call of the Prisma client is one atomic query. A write that is refused
throws a known request error and changes nothing.
-/

namespace MyAccountController

open Foundation

/-- The values of an `Int` column, which is a 32-bit `INTEGER`. -/
def Prisma.Int4 (value : Int) : Prop := -2147483648 ≤ value ∧ value ≤ 2147483647

instance (value : Int) : Decidable (Prisma.Int4 value) :=
  inferInstanceAs (Decidable (_ ∧ _))

/-- A method that only uses the database. -/
abbrev Query (α : Type) := Handler Exception Database α

/-- A model of the Prisma client: where its table is in the database, and
whether the rows that the foreign keys of a row name are there. -/
structure Model (Row : Type) [Entity Row String] where
  table : Database → Table Row
  withTable : Database → Table Row → Database
  references : Database → Row → Bool

namespace Model

variable {Row : Type} [Entity Row String] (model : Model Row)

/-- `findUnique({ where: { id } })`. -/
def findUnique (id : String) : Query (Option Row) := fun db =>
  (.ok ((model.table db).find? id), db)

/-- `findMany({ where })`, in the order the rows were inserted. -/
def findMany (select : Row → Bool) : Query (List Row) := fun db =>
  (.ok ((model.table db).rows.filter select), db)

/-- `findFirst({ where })`. -/
def findFirst (select : Row → Bool) : Query (Option Row) := fun db =>
  (.ok ((model.table db).rows.find? select), db)

/-- `create({ data })`: P2002 when a unique index already has the entry, else
P2003 when a foreign key has no target. -/
def create (row : Row) : Query Row := fun db =>
  match (model.table db).insert? row with
  | some table =>
      if model.references db row then (.ok row, model.withTable db table)
      else (.error .p2003, db)
  | none => (.error .p2002, db)

/-- `update({ where: { id }, data })` of columns outside every unique index:
P2025 when there is no such row. -/
def update (id : String) (f : Row → Row) (hf : Table.Unindexed f) : Query Row := fun db =>
  match (model.table db).find? id with
  | some row => (.ok (f row), model.withTable db ((model.table db).modify id f hf))
  | none => (.error .p2025, db)

/-- `update({ where: { id }, data })` of any columns. -/
def replace (id : String) (f : Row → Row) : Query Row := fun db =>
  match (model.table db).find? id with
  | some row =>
      match (model.table db).replace? id f with
      | some table =>
          if model.references db (f row) then (.ok (f row), model.withTable db table)
          else (.error .p2003, db)
      | none => (.error .p2002, db)
  | none => (.error .p2025, db)

/-- `delete({ where: { id } })` of a row no other table refers to. -/
def delete (id : String) : Query Row := fun db =>
  match (model.table db).find? id with
  | some row => (.ok row, model.withTable db ((model.table db).delete id))
  | none => (.error .p2025, db)

/-- `deleteMany({ where })`, answering the number of deleted rows. -/
def deleteMany (select : Row → Bool) : Query Nat := fun db =>
  (.ok ((model.table db).rows.countP select),
    model.withTable db ((model.table db).deleteWhere select))

@[simp] theorem findUnique_run (id : String) (db : Database) :
    model.findUnique id db = (.ok ((model.table db).find? id), db) := rfl

@[simp] theorem findMany_run (select : Row → Bool) (db : Database) :
    model.findMany select db = (.ok ((model.table db).rows.filter select), db) := rfl

@[simp] theorem findFirst_run (select : Row → Bool) (db : Database) :
    model.findFirst select db = (.ok ((model.table db).rows.find? select), db) := rfl

@[simp] theorem deleteMany_run (select : Row → Bool) (db : Database) :
    model.deleteMany select db = (.ok ((model.table db).rows.countP select),
      model.withTable db ((model.table db).deleteWhere select)) := rfl

/-! Reading answers at once and leaves the database as it is. -/

theorem findUnique_bind {β : Type} (id : String) (rest : Option Row → Query β) (db : Database) :
    (model.findUnique id >>= rest) db = rest ((model.table db).find? id) db := rfl

theorem findMany_bind {β : Type} (select : Row → Bool) (rest : List Row → Query β)
    (db : Database) :
    (model.findMany select >>= rest) db = rest ((model.table db).rows.filter select) db := rfl

theorem findFirst_bind {β : Type} (select : Row → Bool) (rest : Option Row → Query β)
    (db : Database) :
    (model.findFirst select >>= rest) db = rest ((model.table db).rows.find? select) db := rfl

theorem create_ok_iff {row created : Row} {db db' : Database} :
    model.create row db = (.ok created, db') ↔
      created = row ∧ model.references db row = true ∧
        ∃ table, (model.table db).insert? row = some table ∧ db' = model.withTable db table := by
  unfold create
  cases hinsert : (model.table db).insert? row with
  | none => simp
  | some table =>
      cases hreferences : model.references db row with
      | false => simp
      | true => simp [eq_comm]

/-- A refused insertion changes nothing. -/
theorem create_error {row : Row} {db db' : Database} {e : Exception}
    (hrun : model.create row db = (.error e, db')) :
    db' = db ∧ ((model.table db).insert? row = none ∧ e = .p2002 ∨
      (model.table db).insert? row ≠ none ∧ model.references db row = false ∧ e = .p2003) := by
  unfold create at hrun
  cases hinsert : (model.table db).insert? row with
  | none =>
      rw [hinsert] at hrun
      obtain ⟨he, rfl⟩ := Prod.mk.inj hrun
      exact ⟨rfl, .inl ⟨rfl, (Except.error.inj he).symm⟩⟩
  | some table =>
      cases hreferences : model.references db row with
      | true => simp [hinsert, hreferences] at hrun
      | false =>
          simp only [hinsert, hreferences, Bool.false_eq_true, if_false] at hrun
          obtain ⟨he, rfl⟩ := Prod.mk.inj hrun
          exact ⟨rfl, .inr ⟨by simp, rfl, (Except.error.inj he).symm⟩⟩

theorem replace_ok_iff {id : String} {f : Row → Row} {row : Row} {db db' : Database} :
    model.replace id f db = (.ok row, db') ↔
      ∃ before table, (model.table db).find? id = some before ∧ row = f before ∧
        model.references db (f before) = true ∧
        (model.table db).replace? id f = some table ∧ db' = model.withTable db table := by
  unfold replace
  cases hfind : (model.table db).find? id with
  | none => simp
  | some before =>
      cases hreplace : (model.table db).replace? id f with
      | none => simp
      | some table =>
          cases hreferences : model.references db (f before) with
          | false => simp [hreferences]
          | true =>
              simp only [hreferences, if_true, Prod.mk.injEq, Except.ok.injEq]
              constructor
              · rintro ⟨rfl, rfl⟩
                exact ⟨before, table, rfl, rfl, hreferences, rfl, rfl⟩
              · rintro ⟨_, _, heq, rfl, -, htable, rfl⟩
                obtain rfl := Option.some.inj heq
                obtain rfl := Option.some.inj htable
                exact ⟨rfl, rfl⟩

/-- A refused update changes nothing. -/
theorem replace_error {id : String} {f : Row → Row} {e : Exception} {db db' : Database}
    (hrun : model.replace id f db = (.error e, db')) : db' = db := by
  unfold replace at hrun
  cases hfind : (model.table db).find? id with
  | none =>
      rw [hfind] at hrun
      exact (Prod.mk.inj hrun).2.symm
  | some before =>
      rw [hfind] at hrun
      cases hreplace : (model.table db).replace? id f with
      | none =>
          simp only [hreplace] at hrun
          exact (Prod.mk.inj hrun).2.symm
      | some table =>
          simp only [hreplace] at hrun
          split at hrun
          · exact absurd (congrArg Prod.fst hrun) (by simp)
          · exact (Prod.mk.inj hrun).2.symm

theorem update_ok_iff {id : String} {f : Row → Row} {hf : Table.Unindexed f} {row : Row}
    {db db' : Database} :
    model.update id f hf db = (.ok row, db') ↔
      (∃ before, (model.table db).find? id = some before ∧ row = f before) ∧
        db' = model.withTable db ((model.table db).modify id f hf) := by
  unfold update
  cases hfind : (model.table db).find? id with
  | none => simp
  | some before => simp [eq_comm]

theorem update_error_iff {id : String} {f : Row → Row} {hf : Table.Unindexed f}
    {e : Exception} {db db' : Database} :
    model.update id f hf db = (.error e, db') ↔
      (model.table db).find? id = none ∧ e = .p2025 ∧ db' = db := by
  unfold update
  cases hfind : (model.table db).find? id with
  | none => simp [eq_comm]
  | some before => simp

theorem delete_ok_iff {id : String} {row : Row} {db db' : Database} :
    model.delete id db = (.ok row, db') ↔
      (model.table db).find? id = some row ∧
        db' = model.withTable db ((model.table db).delete id) := by
  unfold delete
  cases hfind : (model.table db).find? id with
  | none => simp
  | some before => simp [eq_comm]

theorem delete_error_iff {id : String} {e : Exception} {db db' : Database} :
    model.delete id db = (.error e, db') ↔
      (model.table db).find? id = none ∧ e = .p2025 ∧ db' = db := by
  unfold delete
  cases hfind : (model.table db).find? id with
  | none => simp [eq_comm]
  | some before => simp

end Model

namespace Prisma

/-- `prisma.user`. -/
def user : Model User :=
  ⟨Database.users, fun db users => { db with users }, fun _ _ => true⟩

/-- `prisma.trustedDevice`. -/
def trustedDevice : Model TrustedDevice :=
  ⟨Database.trustedDevices, fun db trustedDevices => { db with trustedDevices },
    fun db device => (db.users.find? device.userId).isSome⟩

/-- `prisma.account`. -/
def account : Model Account :=
  ⟨Database.accounts, fun db accounts => { db with accounts },
    fun db account => (db.users.find? account.userId).isSome⟩

/-- `prisma.emailAccount`. -/
def emailAccount : Model EmailAccount :=
  ⟨Database.emailAccounts, fun db emailAccounts => { db with emailAccounts },
    fun db emailAccount => (db.users.find? emailAccount.userId).isSome⟩

/-- `prisma.emailRule`. -/
def emailRule : Model EmailRule :=
  ⟨Database.emailRules, fun db emailRules => { db with emailRules },
    fun db rule => (db.emailAccounts.find? rule.emailAccountId).isSome⟩

/-- `prisma.emailRuleCondition`. -/
def emailRuleCondition : Model EmailRuleCondition :=
  ⟨Database.emailRuleConditions, fun db emailRuleConditions => { db with emailRuleConditions },
    fun db condition => (db.emailRules.find? condition.ruleId).isSome⟩

/-- `prisma.emailCandidate`. -/
def emailCandidate : Model EmailCandidate :=
  ⟨Database.emailCandidates, fun db emailCandidates => { db with emailCandidates },
    fun db candidate => (db.emailRules.find? candidate.ruleId).isSome &&
      (db.emailAccounts.find? candidate.emailAccountId).isSome⟩

end Prisma

end MyAccountController
