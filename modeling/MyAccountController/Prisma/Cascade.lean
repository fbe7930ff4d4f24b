import MyAccountController.Prisma.Client

/-! # Deletions that cascade

The foreign keys of the schema say `onDelete: Cascade`: deleting an email
account deletes its rules and candidates, and deleting a rule deletes its
conditions and candidates.
-/

namespace MyAccountController

open Foundation

namespace Database

/-- The rule of the id is one of the email account. -/
def isRuleOf (db : Database) (emailAccountId ruleId : String) : Bool :=
  (db.emailRules.find? ruleId).any fun rule => rule.emailAccountId = emailAccountId

/-- Delete a rule with its conditions and candidates. -/
def deleteRule (db : Database) (id : String) : Database :=
  { db with
    emailRules := db.emailRules.delete id
    emailRuleConditions := db.emailRuleConditions.deleteWhere fun row => row.ruleId = id
    emailCandidates := db.emailCandidates.deleteWhere fun row => row.ruleId = id }

/-- Delete an email account with its rules, their conditions and the candidates
of either. -/
def deleteEmailAccount (db : Database) (id : String) : Database :=
  { db with
    emailAccounts := db.emailAccounts.delete id
    emailRules := db.emailRules.deleteWhere fun row => row.emailAccountId = id
    emailRuleConditions := db.emailRuleConditions.deleteWhere fun row => db.isRuleOf id row.ruleId
    emailCandidates := db.emailCandidates.deleteWhere fun row =>
      row.emailAccountId = id ∨ db.isRuleOf id row.ruleId }

theorem isRuleOf_iff {db : Database} {emailAccountId ruleId : String} :
    db.isRuleOf emailAccountId ruleId = true ↔
      ∃ rule ∈ db.emailRules.rows, rule.id = ruleId ∧ rule.emailAccountId = emailAccountId := by
  unfold isRuleOf
  rw [Option.any_eq_true]
  constructor
  · rintro ⟨rule, hfind, haccount⟩
    obtain ⟨hmem, hid⟩ := Table.find?_eq_some_iff.mp hfind
    exact ⟨rule, hmem, hid, of_decide_eq_true haccount⟩
  · rintro ⟨rule, hmem, hid, haccount⟩
    exact ⟨rule, Table.find?_eq_some_iff.mpr ⟨hmem, hid⟩, decide_eq_true haccount⟩

theorem mem_deleteRule_candidates {db : Database} {id : String} {row : EmailCandidate} :
    row ∈ (db.deleteRule id).emailCandidates.rows ↔
      row ∈ db.emailCandidates.rows ∧ row.ruleId ≠ id := by
  simp [deleteRule]

theorem mem_deleteRule_rules {db : Database} {id : String} {row : EmailRule} :
    row ∈ (db.deleteRule id).emailRules.rows ↔ row ∈ db.emailRules.rows ∧ row.id ≠ id := by
  simp [deleteRule, Entity.key]

theorem mem_deleteEmailAccount_candidates {db : Database} {id : String} {row : EmailCandidate} :
    row ∈ (db.deleteEmailAccount id).emailCandidates.rows ↔
      row ∈ db.emailCandidates.rows ∧ row.emailAccountId ≠ id ∧
        db.isRuleOf id row.ruleId = false := by
  simp [deleteEmailAccount]

theorem mem_deleteEmailAccount_rules {db : Database} {id : String} {row : EmailRule} :
    row ∈ (db.deleteEmailAccount id).emailRules.rows ↔
      row ∈ db.emailRules.rows ∧ row.emailAccountId ≠ id := by
  simp [deleteEmailAccount]

end Database

namespace Prisma

/-- `prisma.emailRule.delete({ where: { id } })`. -/
def deleteEmailRule (id : String) : Query EmailRule := fun db =>
  match db.emailRules.find? id with
  | some row => (.ok row, db.deleteRule id)
  | none => (.error .p2025, db)

/-- `prisma.emailAccount.delete({ where: { id } })`. -/
def deleteEmailAccount (id : String) : Query EmailAccount := fun db =>
  match db.emailAccounts.find? id with
  | some row => (.ok row, db.deleteEmailAccount id)
  | none => (.error .p2025, db)

theorem deleteEmailRule_ok_iff {id : String} {row : EmailRule} {db db' : Database} :
    deleteEmailRule id db = (.ok row, db') ↔
      db.emailRules.find? id = some row ∧ db' = db.deleteRule id := by
  unfold deleteEmailRule
  cases hfind : db.emailRules.find? id with
  | none => simp
  | some before => simp [eq_comm]

theorem deleteEmailRule_error {id : String} {e : Exception} {db db' : Database}
    (hrun : deleteEmailRule id db = (.error e, db')) : db' = db := by
  unfold deleteEmailRule at hrun
  split at hrun
  · exact absurd (congrArg Prod.fst hrun) (by simp)
  · exact (Prod.mk.inj hrun).2.symm

theorem deleteEmailAccount_ok_iff {id : String} {row : EmailAccount} {db db' : Database} :
    deleteEmailAccount id db = (.ok row, db') ↔
      db.emailAccounts.find? id = some row ∧ db' = db.deleteEmailAccount id := by
  unfold deleteEmailAccount
  cases hfind : db.emailAccounts.find? id with
  | none => simp
  | some before => simp [eq_comm]

theorem deleteEmailAccount_error {id : String} {e : Exception} {db db' : Database}
    (hrun : deleteEmailAccount id db = (.error e, db')) : db' = db := by
  unfold deleteEmailAccount at hrun
  split at hrun
  · exact absurd (congrArg Prod.fst hrun) (by simp)
  · exact (Prod.mk.inj hrun).2.symm

end Prisma

end MyAccountController
