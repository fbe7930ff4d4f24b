import MyAccountController.Prisma.Client

/-! # `NotificationsService`

The summary counts the pending candidates of each email account. It has no
parameter, and its route has no guard.
-/

namespace MyAccountController

open Foundation

/-- `{ emailAccountId, count }`. -/
structure NotificationCount where
  emailAccountId : String
  count : Nat
  deriving DecidableEq, Repr

namespace NotificationsService

/-- `groupBy` of the pending candidates. -/
def summary : Query (List NotificationCount) := do
  let pending ← Prisma.emailCandidate.findMany fun row => row.status = .PENDING
  pure ((pending.map EmailCandidate.emailAccountId).eraseDups.map fun emailAccountId =>
    { emailAccountId
      count := pending.countP fun row => row.emailAccountId = emailAccountId })

theorem mem_summary {db db' : Database} {counts : List NotificationCount}
    (hrun : summary db = (.ok counts, db')) {emailAccountId : String} :
    emailAccountId ∈ counts.map NotificationCount.emailAccountId ↔
      ∃ row ∈ db.emailCandidates.rows, row.status = .PENDING ∧
        row.emailAccountId = emailAccountId := by
  obtain ⟨hcounts, -⟩ := Prod.mk.inj hrun
  obtain rfl := Except.ok.inj hcounts
  rw [List.map_map]
  show _ ∈ List.map id _ ↔ _
  rw [List.map_id, List.mem_eraseDups, List.mem_map]
  simp only [List.mem_filter, decide_eq_true_eq, and_assoc]
  rfl

end NotificationsService

end MyAccountController
