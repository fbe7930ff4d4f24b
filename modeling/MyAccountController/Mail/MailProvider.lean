import MyAccountController.Mail.RuleMatcher
import MyAccountController.Prisma.Client

/-! # Mail providers

A provider lists the messages of an email account and applies an action to one
of them. It reads the account's row, and it may store a refreshed access token
in it. That is all it may write, whatever the mail service answers.
-/

namespace MyAccountController

open Foundation

/-- `'delete' | 'spam'`. -/
inductive MailAction where
  | delete
  | spam
  deriving DecidableEq, Repr

/-- The interface of a provider, with the answers its mail service will give. -/
structure MailProvider where
  providerType : String
  listCandidateMessages : (emailAccountId : String) → Query (List RawMailMessage)
  applyAction : (emailAccountId externalMessageId : String) → MailAction → Query Unit

/-- `Map<string, MailProvider>`. -/
abbrev MailProviderRegistry := List MailProvider

def MailProviderRegistry.get (providers : MailProviderRegistry) (providerType : String) :
    Except Exception MailProvider :=
  match providers.find? fun provider => provider.providerType = providerType with
  | some provider => .ok provider
  | none => .error (.notFound ("지원하지 않는 메일 provider입니다: " ++ providerType))

/-- The columns of a refreshed token. -/
def EmailAccount.setAccessToken (encryptedAccessToken : String) (tokenExpiresAt : Option Int)
    (row : EmailAccount) : EmailAccount :=
  { row with encryptedAccessToken, tokenExpiresAt }

theorem EmailAccount.setAccessToken_unindexed (encryptedAccessToken : String)
    (tokenExpiresAt : Option Int) :
    Table.Unindexed (EmailAccount.setAccessToken encryptedAccessToken tokenExpiresAt) :=
  ⟨fun _ => rfl, fun _ _ => Iff.rfl⟩

/-- The database after an access token of the account may have been refreshed. -/
def RefreshesToken (emailAccountId : String) (db db' : Database) : Prop :=
  db' = db ∨ ∃ encryptedAccessToken tokenExpiresAt,
    db' = Prisma.emailAccount.withTable db (db.emailAccounts.modify emailAccountId
      (EmailAccount.setAccessToken encryptedAccessToken tokenExpiresAt)
      (EmailAccount.setAccessToken_unindexed encryptedAccessToken tokenExpiresAt))

theorem RefreshesToken.refl (emailAccountId : String) (db : Database) :
    RefreshesToken emailAccountId db db :=
  .inl rfl

/-- A later refresh replaces the columns of an earlier one. -/
theorem RefreshesToken.trans (emailAccountId : String) (a b c : Database)
    (hab : RefreshesToken emailAccountId a b) (hbc : RefreshesToken emailAccountId b c) :
    RefreshesToken emailAccountId a c := by
  rcases hab with rfl | ⟨token, expires, rfl⟩
  · exact hbc
  rcases hbc with rfl | ⟨token', expires', rfl⟩
  · exact .inr ⟨token, expires, rfl⟩
  refine .inr ⟨token', expires', ?_⟩
  show Prisma.emailAccount.withTable a _ = Prisma.emailAccount.withTable a _
  congr 1
  ext1
  show List.map _ (List.map _ a.emailAccounts.rows) = List.map _ a.emailAccounts.rows
  rw [List.map_map]
  apply List.map_congr_left
  intro row _
  by_cases hid : row.id = emailAccountId
  · simp [Entity.key, hid, EmailAccount.setAccessToken]
  · simp [Entity.key, hid]

theorem RefreshesToken.find?_of_ne {emailAccountId : String} {db db' : Database}
    (hrefreshes : RefreshesToken emailAccountId db db') {id : String} (hne : id ≠ emailAccountId) :
    db'.emailAccounts.find? id = db.emailAccounts.find? id := by
  rcases hrefreshes with rfl | ⟨token, expires, rfl⟩
  · rfl
  · exact Table.find?_modify_of_ne (EmailAccount.setAccessToken_unindexed token expires) hne

theorem RefreshesToken.find?_isSome {emailAccountId : String} {db db' : Database}
    (hrefreshes : RefreshesToken emailAccountId db db') (id : String) :
    (db'.emailAccounts.find? id).isSome = (db.emailAccounts.find? id).isSome := by
  rcases hrefreshes with rfl | ⟨token, expires, rfl⟩
  · rfl
  · exact Table.find?_modify_isSome db.emailAccounts emailAccountId id
      (EmailAccount.setAccessToken_unindexed token expires)

/-- An email account but for its access token. -/
def EmailAccount.withoutToken (row : EmailAccount) : EmailAccount :=
  EmailAccount.setAccessToken "" none row

/-- The accounts stay, in order, but for one token. -/
theorem RefreshesToken.withoutToken {emailAccountId : String} {db db' : Database}
    (hrefreshes : RefreshesToken emailAccountId db db') :
    db'.emailAccounts.rows.map EmailAccount.withoutToken =
      db.emailAccounts.rows.map EmailAccount.withoutToken := by
  rcases hrefreshes with rfl | ⟨token, expires, rfl⟩
  · rfl
  show (List.map _ db.emailAccounts.rows).map _ = _
  rw [List.map_map]
  apply List.map_congr_left
  intro row _
  by_cases hid : key row = emailAccountId
  · simp [hid, EmailAccount.withoutToken, EmailAccount.setAccessToken]
  · simp [hid]

/-- The row of an id is the same but for its token. -/
theorem find?_of_withoutToken {table table' : Table EmailAccount}
    (hsame : table'.rows.map EmailAccount.withoutToken = table.rows.map EmailAccount.withoutToken)
    (id : String) : (table'.find? id).map EmailAccount.withoutToken =
      (table.find? id).map EmailAccount.withoutToken := by
  have hfind : ∀ rows : List EmailAccount,
      (rows.find? fun row => decide (key row = id)).map EmailAccount.withoutToken =
        (rows.map EmailAccount.withoutToken).find? fun row => decide (key row = id) := by
    intro rows
    rw [List.find?_map]
    rfl
  rw [Table.find?, Table.find?, hfind, hfind, hsame]

/-- Nothing but the email accounts is written. -/
theorem RefreshesToken.elsewhere {emailAccountId : String} {db db' : Database}
    (hrefreshes : RefreshesToken emailAccountId db db') :
    db' = { db with emailAccounts := db'.emailAccounts } := by
  rcases hrefreshes with rfl | ⟨token, expires, rfl⟩ <;> rfl

theorem RefreshesToken.emailRules {emailAccountId : String} {db db' : Database}
    (hrefreshes : RefreshesToken emailAccountId db db') : db'.emailRules = db.emailRules := by
  rcases hrefreshes with rfl | ⟨token, expires, rfl⟩ <;> rfl

theorem RefreshesToken.emailRuleConditions {emailAccountId : String} {db db' : Database}
    (hrefreshes : RefreshesToken emailAccountId db db') :
    db'.emailRuleConditions = db.emailRuleConditions := by
  rcases hrefreshes with rfl | ⟨token, expires, rfl⟩ <;> rfl

theorem RefreshesToken.emailCandidates {emailAccountId : String} {db db' : Database}
    (hrefreshes : RefreshesToken emailAccountId db db') :
    db'.emailCandidates = db.emailCandidates := by
  rcases hrefreshes with rfl | ⟨token, expires, rfl⟩ <;> rfl

/-- A provider reads the row of the account it is asked about and writes nothing
but a refreshed token to it. -/
structure MailProvider.Lawful (provider : MailProvider) : Prop where
  listCandidateMessages_reads : ∀ emailAccountId db db',
    db.emailAccounts.find? emailAccountId = db'.emailAccounts.find? emailAccountId →
      (provider.listCandidateMessages emailAccountId db).1 =
        (provider.listCandidateMessages emailAccountId db').1
  listCandidateMessages : ∀ emailAccountId,
    Handler.Keeps (RefreshesToken emailAccountId) (provider.listCandidateMessages emailAccountId)
  applyAction : ∀ emailAccountId externalMessageId action,
    Handler.Keeps (RefreshesToken emailAccountId)
      (provider.applyAction emailAccountId externalMessageId action)

def MailProviderRegistry.Lawful (providers : MailProviderRegistry) : Prop :=
  ∀ provider ∈ providers, provider.Lawful

theorem MailProviderRegistry.get_ok_iff {providers : MailProviderRegistry} {providerType : String}
    {provider : MailProvider} : providers.get providerType = .ok provider ↔
      providers.find? (fun provider => provider.providerType = providerType) = some provider := by
  unfold MailProviderRegistry.get
  cases providers.find? fun provider => decide (provider.providerType = providerType) <;> simp

theorem MailProviderRegistry.Lawful.get {providers : MailProviderRegistry}
    (hlawful : providers.Lawful) {providerType : String} {provider : MailProvider}
    (hget : providers.get providerType = .ok provider) : provider.Lawful :=
  hlawful provider (List.mem_of_find?_eq_some (get_ok_iff.mp hget))

end MyAccountController
