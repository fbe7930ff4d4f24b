import MyAccountController.Common.Runtime
import MyAccountController.Prisma.Cascade

/-! # `EmailAccountsService`

An email account stores the tokens of a Gmail mailbox under the key of the
server. The list of accounts leaves the tokens out.
-/

namespace MyAccountController

open Foundation

/-- What Google gives for an authorization code. -/
structure GmailTokens where
  email : String
  accessToken : String
  refreshToken : String
  expiryDate : Option Int

/-- The random values of a connection: the id and a nonce for each token. -/
structure FreshEmailAccount (R : Runtime) where
  id : String
  accessIv : R.Iv
  refreshIv : R.Iv

/-- The selected columns of an email account. -/
structure EmailAccountView where
  id : String
  providerType : String
  displayName : String
  isActive : Bool
  connectedAt : Int
  deriving DecidableEq, Repr

def EmailAccount.view (row : EmailAccount) : EmailAccountView where
  id := row.id
  providerType := row.providerType
  displayName := row.displayName
  isActive := row.isActive
  connectedAt := row.connectedAt

namespace EmailAccountsService

variable {R : Runtime}

def emailAccountNotFound : Exception := .notFound "연결된 메일 계정을 찾을 수 없습니다."

/-- The latest connection first. -/
def findAll (userId : String) : Query (List EmailAccountView) := do
  let rows ← Prisma.emailAccount.findMany fun row => row.userId = userId
  let sorted := rows.mergeSort fun a b => b.connectedAt ≤ a.connectedAt
  pure (sorted.map EmailAccount.view)

def createFromGmail (tokenKey : R.Key) (now : Int) (fresh : FreshEmailAccount R) (userId : String)
    (tokens : GmailTokens) : Query EmailAccount :=
  Prisma.emailAccount.create
    { id := fresh.id
      userId
      providerType := "gmail"
      displayName := tokens.email
      encryptedAccessToken := R.encrypt tokens.accessToken tokenKey fresh.accessIv
      encryptedRefreshToken := R.encrypt tokens.refreshToken tokenKey fresh.refreshIv
      tokenExpiresAt := tokens.expiryDate.filter (· ≠ 0)
      isActive := true
      connectedAt := now }

def remove (userId id : String) : Query Unit := do
  let account ← Prisma.emailAccount.findFirst fun row => row.id = id ∧ row.userId = userId
  let _ ← Handler.expect account emailAccountNotFound
  let _ ← Prisma.deleteEmailAccount id

/-! ## What the methods do -/

section Outcomes

variable {userId id : String} {db db' : Database} {e : Exception}

/-- An email account of the user is added, and nothing else is written. -/
theorem createFromGmail_ok {tokenKey : R.Key} {now : Int} {fresh : FreshEmailAccount R}
    {tokens : GmailTokens} {row : EmailAccount}
    (hrun : createFromGmail tokenKey now fresh userId tokens db = (.ok row, db')) :
    row.userId = userId ∧ db'.emailAccounts.rows = db.emailAccounts.rows ++ [row] ∧
      db' = { db with emailAccounts := db'.emailAccounts } := by
  obtain ⟨rfl, -, table, hinsert, rfl⟩ := (Model.create_ok_iff _).mp hrun
  exact ⟨rfl, (Table.insert?_eq_some_iff.mp hinsert).2, rfl⟩

theorem createFromGmail_error {tokenKey : R.Key} {now : Int} {fresh : FreshEmailAccount R}
    {tokens : GmailTokens}
    (hrun : createFromGmail tokenKey now fresh userId tokens db = (.error e, db')) : db' = db :=
  (Model.create_error _ hrun).1

theorem remove_ok {u : Unit} (hrun : remove userId id db = (.ok u, db')) :
    (∃ account, db.emailAccounts.find? id = some account ∧ account.userId = userId) ∧
      db' = db.deleteEmailAccount id := by
  unfold remove at hrun
  rw [Model.findFirst_bind, Handler.bind_ok_iff] at hrun
  obtain ⟨account, start, hexpect, hrun⟩ := hrun
  obtain ⟨hfind, rfl⟩ := Handler.expect_ok_iff.mp hexpect
  obtain ⟨row, last, hdelete, hrun⟩ := Handler.bind_ok_iff.mp hrun
  obtain ⟨-, rfl⟩ := Prisma.deleteEmailAccount_ok_iff.mp hdelete
  obtain ⟨-, rfl⟩ := Prod.mk.inj hrun
  exact ⟨⟨account, Table.find?_where.mp hfind⟩, rfl⟩

theorem remove_error (hrun : remove userId id db = (.error e, db')) : db' = db := by
  unfold remove at hrun
  rw [Model.findFirst_bind, Handler.bind_error_iff] at hrun
  rcases hrun with hexpect | ⟨account, start, hexpect, hrun⟩
  · exact (Handler.expect_error_iff.mp hexpect).2.2.symm
  · obtain ⟨-, rfl⟩ := Handler.expect_ok_iff.mp hexpect
    rcases Handler.bind_error_iff.mp hrun with hdelete | ⟨_, _, -, hpure⟩
    · exact Prisma.deleteEmailAccount_error hdelete
    · exact absurd (congrArg Prod.fst hpure) (by simp)

end Outcomes

end EmailAccountsService

end MyAccountController
