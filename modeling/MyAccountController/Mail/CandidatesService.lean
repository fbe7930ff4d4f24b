import MyAccountController.Mail.MailProvider

/-! # `CandidatesService`

A scan proposes candidates, and the user approves or excludes them. The server
keeps a history of what the providers listed and of the actions they were asked
for; no method reads it.
-/

namespace MyAccountController

open Foundation

/-- A call of `applyAction`, and whether it returned. -/
structure ActionCall where
  emailAccountId : String
  externalMessageId : String
  action : MailAction
  succeeded : Bool
  deriving DecidableEq, Repr

/-- The database, with the messages listed and the actions called so far. -/
@[ext] structure MailServer where
  db : Database
  listed : List (String × RawMailMessage)
  calls : List ActionCall

/-- `{ scannedAccounts, createdCandidates, failedAccounts }`. -/
structure ScanResult where
  scannedAccounts : Nat
  createdCandidates : Nat
  failedAccounts : Nat
  deriving DecidableEq, Repr

/-- The queries of a scan that the database fails, by the positions of the
account, of the message and of the rule, and the messages it refuses for what is
in them. -/
structure ScanFaults where
  ruleQuery : Nat → Option Exception
  insert : Nat → Nat → Nat → Option Exception
  refuses : RawMailMessage → Option Exception
  insert_ne : ∀ i j k err, insert i j k = some err → err ≠ .p2002
  refuses_ne : ∀ message err, refuses message = some err → err ≠ .p2002

namespace ScanFaults

/-- What the insertion of a message at the positions fails with. -/
def fault (faults : ScanFaults) (i j k : Nat) (message : RawMailMessage) : Option Exception :=
  (faults.insert i j k).or (faults.refuses message)

theorem fault_ne (faults : ScanFaults) {i j k : Nat} {message : RawMailMessage} {err : Exception}
    (hfault : faults.fault i j k message = some err) : err ≠ .p2002 := by
  rcases Option.or_eq_some_iff.mp hfault with hinsert | ⟨-, hrefuses⟩
  · exact faults.insert_ne _ _ _ _ hinsert
  · exact faults.refuses_ne _ _ hrefuses

/-- A database that answers every query. -/
def none : ScanFaults :=
  ⟨fun _ => .none, fun _ _ _ => .none, fun _ => .none, by simp, by simp⟩

/-- PostgreSQL while it is up: as Prisma writes dates, it refuses those before the year 1, and it
has no text with U+0000. -/
def postgres : ScanFaults where
  ruleQuery _ := .none
  insert _ _ _ := .none
  refuses message :=
    if message.receivedAt.any (· < -62135596800000) then
      some (.error "date/time field value out of range")
    else if [message.externalMessageId, message.sender, message.subject].any fun text =>
        text.toList.contains (Char.ofNat 0) then
      some (.error "invalid byte sequence for encoding \"UTF8\": 0x00")
    else .none
  insert_ne := by simp
  refuses_ne message err hrefuses := by
    split at hrefuses
    · rw [← Option.some.inj hrefuses]
      simp [Exception.p2002]
    · split at hrefuses
      · rw [← Option.some.inj hrefuses]
        simp [Exception.p2002]
      · contradiction

end ScanFaults

/-- The server and the counters of a running scan. -/
structure ScanState where
  server : MailServer
  counts : ScanResult

/-- The rule and the email account that a candidate includes. -/
structure CandidateWithRelations where
  candidate : EmailCandidate
  rule : EmailRule
  emailAccount : EmailAccount

namespace Database

/-- The filter `emailAccount: { userId }`. -/
def ownsEmailAccount (db : Database) (userId emailAccountId : String) : Bool :=
  (db.emailAccounts.find? emailAccountId).any fun row => row.userId = userId

/-- `include: { conditions: true }`. -/
def withConditions (db : Database) (rule : EmailRule) : RuleWithConditions :=
  ⟨rule, db.emailRuleConditions.rows.filter fun condition => condition.ruleId = rule.id⟩

/-- The active rules of an email account. -/
def activeRules (db : Database) (emailAccountId : String) : List RuleWithConditions :=
  (db.emailRules.rows.filter fun rule =>
    rule.emailAccountId = emailAccountId ∧ rule.isActive).map db.withConditions

end Database

namespace MailServer

/-- A method of the database. -/
def query {α : Type} (x : Query α) : Handler Exception MailServer α :=
  Handler.zoom MailServer.db (fun server db => { server with db }) x

/-- `provider.listCandidateMessages(emailAccountId)`. -/
def listCandidateMessages (provider : MailProvider) (emailAccountId : String) :
    Handler Exception MailServer (List RawMailMessage) := do
  let messages ← query (provider.listCandidateMessages emailAccountId)
  Handler.modify fun server => { server with
    listed := server.listed ++ messages.map fun message => (emailAccountId, message) }
  pure messages

/-- `provider.applyAction(emailAccountId, externalMessageId, action)`. -/
def applyAction (provider : MailProvider) (emailAccountId externalMessageId : String)
    (action : MailAction) : Handler Exception MailServer Unit := fun server =>
  let (result, db) := provider.applyAction emailAccountId externalMessageId action server.db
  (result, { server with
    db
    calls := server.calls ++ [⟨emailAccountId, externalMessageId, action, result.isOk⟩] })

end MailServer

namespace ScanState

/-- A method of the server. -/
def onServer {α : Type} (x : Handler Exception MailServer α) : Handler Exception ScanState α :=
  Handler.zoom ScanState.server (fun state server => { state with server }) x

/-- Change the counters. -/
def count (f : ScanResult → ScanResult) : Handler Exception ScanState Unit :=
  Handler.modify fun state => { state with counts := f state.counts }

end ScanState

namespace CandidatesService

def candidateNotFound : Exception := .notFound "후보 메일을 찾을 수 없습니다."

/-- `findPending`: the newest message first, each with its rule's action type. -/
def findPending (userId : String) : Query (List (EmailCandidate × String)) := do
  let db ← Handler.state
  let rows ← Prisma.emailCandidate.findMany fun row =>
    row.status = .PENDING ∧ db.ownsEmailAccount userId row.emailAccountId
  let sorted := rows.mergeSort fun a b => b.receivedAt ≤ a.receivedAt
  pure (sorted.map fun row =>
    (row, ((db.emailRules.find? row.ruleId).map EmailRule.actionType).getD ""))

/-- `{ emailAccountId, displayName, importantCount }`. -/
structure ImportantSummary where
  emailAccountId : String
  displayName : String
  importantCount : Nat
  deriving DecidableEq, Repr

def importantSummary (userId : String) : Query (List ImportantSummary) := do
  let accounts ← Prisma.emailAccount.findMany fun row => row.userId = userId
  let db ← Handler.state
  let approved ← Prisma.emailCandidate.findMany fun row =>
    row.status = .APPROVED ∧
      (db.emailRules.find? row.ruleId).any (fun rule => rule.actionType = "important") ∧
      db.ownsEmailAccount userId row.emailAccountId
  pure (accounts.map fun account =>
    { emailAccountId := account.id
      displayName := account.displayName
      importantCount := approved.countP fun row => row.emailAccountId = account.id })

/-! ## Scanning -/

/-- The data of a new candidate; Prisma refuses an invalid date. -/
def candidateInput (id ruleId emailAccountId : String) (message : RawMailMessage) :
    Except Exception EmailCandidate :=
  match message.receivedAt with
  | none => .error .prismaValidation
  | some receivedAt => .ok
      { id, ruleId, emailAccountId
        externalMessageId := message.externalMessageId
        sender := message.sender
        subject := message.subject
        receivedAt
        status := .PENDING
        processedAt := none }

/-- `prisma.emailCandidate.create({ data })`. -/
def createCandidate (fault : Option Exception) (id ruleId emailAccountId : String)
    (message : RawMailMessage) : Query EmailCandidate :=
  match fault with
  | some err => Handler.raise err
  | none => do
      let row ← Handler.ofExcept (candidateInput id ruleId emailAccountId message)
      Prisma.emailCandidate.create row

/-- `prisma.emailRule.findMany({ where, include })`. -/
def findActiveRules (fault : Option Exception) (emailAccountId : String) :
    Query (List RuleWithConditions) :=
  match fault with
  | some err => Handler.raise err
  | none => do
      let db ← Handler.state
      pure (db.activeRules emailAccountId)

variable (unicode : UnicodeData)

/-- One message against one rule: propose it once. -/
def propose (fault : Option Exception) (id emailAccountId : String) (message : RawMailMessage)
    (rule : RuleWithConditions) : Handler Exception ScanState Unit := do
  let accepted ← Handler.ofExcept (RuleMatcher.messageMatchesRule unicode message rule)
  if accepted then
    Handler.recover
      (do
        let _ ← ScanState.onServer (MailServer.query
          (createCandidate fault id rule.rule.id emailAccountId message))
        ScanState.count fun counts =>
          { counts with createdCandidates := counts.createdCandidates + 1 })
      fun err => if err ≠ .p2002 then Handler.raise err else pure ()
  else pure ()

/-- The loops over the messages and the rules of account `i`. -/
def proposeAll (faults : ScanFaults) (freshId : Nat → Nat → Nat → String) (i : Nat)
    (emailAccountId : String) (messages : List RawMailMessage)
    (rules : List RuleWithConditions) : Handler Exception ScanState Unit :=
  messages.zipIdx.forM fun (message, j) =>
    rules.zipIdx.forM fun (rule, k) =>
      propose unicode (faults.fault i j k message) (freshId i j k) emailAccountId message rule

/-- The `try` block of the loop over the accounts. -/
def scanAccount (providers : MailProviderRegistry) (faults : ScanFaults)
    (freshId : Nat → Nat → Nat → String) (account : EmailAccount) (i : Nat) :
    Handler Exception ScanState Unit := do
  let provider ← Handler.ofExcept (providers.get account.providerType)
  let rules ← ScanState.onServer
    (MailServer.query (findActiveRules (faults.ruleQuery i) account.id))
  if rules.length = 0 then pure ()
  else
    let messages ← ScanState.onServer (MailServer.listCandidateMessages provider account.id)
    ScanState.count fun counts => { counts with scannedAccounts := counts.scannedAccounts + 1 }
    proposeAll unicode faults freshId i account.id messages rules

/-- `scanAccounts`. An account that fails is counted and logged. -/
def scanAccounts (providers : MailProviderRegistry) (faults : ScanFaults)
    (freshId : Nat → Nat → Nat → String) (accounts : List EmailAccount) :
    Handler Exception MailServer ScanResult := fun server =>
  let loop := accounts.zipIdx.forM fun (account, i) =>
    Handler.recover (scanAccount unicode providers faults freshId account i) fun _ =>
      ScanState.count fun counts => { counts with failedAccounts := counts.failedAccounts + 1 }
  match loop ⟨server, ⟨0, 0, 0⟩⟩ with
  | (.ok _, state) => (.ok state.counts, state.server)
  | (.error err, state) => (.error err, state.server)

def scan (providers : MailProviderRegistry) (faults : ScanFaults)
    (freshId : Nat → Nat → Nat → String) (userId : String) :
    Handler Exception MailServer ScanResult := do
  let accounts ← MailServer.query
    (Prisma.emailAccount.findMany fun row => row.userId = userId ∧ row.isActive)
  scanAccounts unicode providers faults freshId accounts

def scanAll (providers : MailProviderRegistry) (faults : ScanFaults)
    (freshId : Nat → Nat → Nat → String) : Handler Exception MailServer ScanResult := do
  let accounts ← MailServer.query (Prisma.emailAccount.findMany fun row => row.isActive)
  scanAccounts unicode providers faults freshId accounts

/-! ## Approving and excluding -/

def findOwned (userId id : String) : Query CandidateWithRelations := do
  let db ← Handler.state
  let found ← Prisma.emailCandidate.findFirst fun row =>
    row.id = id ∧ db.ownsEmailAccount userId row.emailAccountId
  let candidate ← Handler.expect found candidateNotFound
  let rule ← Handler.expect (db.emailRules.find? candidate.ruleId)
    (.error "Inconsistent query result")
  let emailAccount ← Handler.expect (db.emailAccounts.find? candidate.emailAccountId)
    (.error "Inconsistent query result")
  pure { candidate, rule, emailAccount }

/-- `{ status, processedAt: new Date() }`. -/
def setStatus (status : CandidateStatus) (now : Int) (row : EmailCandidate) : EmailCandidate :=
  { row with status, processedAt := some now }

theorem setStatus_unindexed (status : CandidateStatus) (now : Int) :
    Table.Unindexed (setStatus status now) :=
  ⟨fun _ => rfl, fun _ _ => Iff.rfl⟩

def updateStatus (id : String) (status : CandidateStatus) (now : Int) : Query EmailCandidate :=
  Prisma.emailCandidate.update id (setStatus status now) (setStatus_unindexed status now)

/-- The action that an approval under the action type takes in the mailbox. -/
def mailActionOf (actionType : String) : Option MailAction :=
  if actionType = "delete_candidate" then some .delete
  else if actionType = "spam_candidate" then some .spam
  else none

/-- The action in the mailbox that the rule of an approved candidate asks for. -/
def applyMailAction (providers : MailProviderRegistry) (owned : CandidateWithRelations) :
    Handler Exception MailServer Unit :=
  match mailActionOf owned.rule.actionType with
  | some action => do
      let provider ← Handler.ofExcept (providers.get owned.emailAccount.providerType)
      MailServer.applyAction provider owned.candidate.emailAccountId
        owned.candidate.externalMessageId action
  | none => pure ()

def approve (providers : MailProviderRegistry) (now : Int) (userId id : String) :
    Handler Exception MailServer EmailCandidate := do
  let owned ← MailServer.query (findOwned userId id)
  applyMailAction providers owned
  MailServer.query (updateStatus id .APPROVED now)

def exclude (now : Int) (userId id : String) : Query EmailCandidate := do
  let _ ← findOwned userId id
  updateStatus id .EXCLUDED now

/-! ## What approving and excluding do -/

section Outcomes

variable {userId id : String} {now : Int}

/-- The candidate of the id, in a mailbox of the user, with its relations. -/
structure Owned (userId id : String) (db : Database) (owned : CandidateWithRelations) : Prop where
  candidate : db.emailCandidates.find? id = some owned.candidate
  owner : db.ownsEmailAccount userId owned.candidate.emailAccountId = true
  rule : db.emailRules.find? owned.candidate.ruleId = some owned.rule
  emailAccount : db.emailAccounts.find? owned.candidate.emailAccountId = some owned.emailAccount

theorem findOwned_ok_iff {db db' : Database} {owned : CandidateWithRelations} :
    findOwned userId id db = (.ok owned, db') ↔ Owned userId id db owned ∧ db' = db := by
  have hfirst : ∀ candidate, (Prisma.emailCandidate.table db).rows.find? (fun row =>
      row.id = id ∧ db.ownsEmailAccount userId row.emailAccountId) = some candidate ↔
        db.emailCandidates.find? id = some candidate ∧
          db.ownsEmailAccount userId candidate.emailAccountId = true :=
    fun _ => Table.find?_where
  unfold findOwned
  rw [Handler.state_bind, Model.findFirst_bind, Handler.bind_ok_iff]
  constructor
  · rintro ⟨candidate, start, hexpect, hrun⟩
    obtain ⟨hcandidate, rfl⟩ := Handler.expect_ok_iff.mp hexpect
    obtain ⟨rule, start, hexpect, hrun⟩ := Handler.bind_ok_iff.mp hrun
    obtain ⟨hrule, rfl⟩ := Handler.expect_ok_iff.mp hexpect
    obtain ⟨emailAccount, start, hexpect, hrun⟩ := Handler.bind_ok_iff.mp hrun
    obtain ⟨haccount, rfl⟩ := Handler.expect_ok_iff.mp hexpect
    obtain ⟨howned, rfl⟩ := Prod.mk.inj hrun
    obtain rfl := Except.ok.inj howned
    obtain ⟨hfind, howns⟩ := (hfirst candidate).mp hcandidate
    exact ⟨⟨hfind, howns, hrule, haccount⟩, rfl⟩
  · rintro ⟨howned, rfl⟩
    refine ⟨owned.candidate, db', ?_, ?_⟩
    · rw [(hfirst owned.candidate).mpr ⟨howned.candidate, howned.owner⟩]
      rfl
    · rw [howned.rule, howned.emailAccount]
      rfl

theorem findOwned_error {db db' : Database} {e : Exception}
    (hrun : findOwned userId id db = (.error e, db')) : db' = db := by
  unfold findOwned at hrun
  rw [Handler.state_bind, Model.findFirst_bind, Handler.bind_error_iff] at hrun
  rcases hrun with hcandidate | ⟨candidate, start, hcandidate, hrun⟩
  · exact (Handler.expect_error_iff.mp hcandidate).2.2.symm
  obtain ⟨-, rfl⟩ := Handler.expect_ok_iff.mp hcandidate
  rcases Handler.bind_error_iff.mp hrun with hrule | ⟨rule, start, hrule, hrun⟩
  · exact (Handler.expect_error_iff.mp hrule).2.2.symm
  obtain ⟨-, rfl⟩ := Handler.expect_ok_iff.mp hrule
  rcases Handler.bind_error_iff.mp hrun with haccount | ⟨account, start, haccount, hrun⟩
  · exact (Handler.expect_error_iff.mp haccount).2.2.symm
  · obtain ⟨-, rfl⟩ := Handler.expect_ok_iff.mp haccount
    exact absurd (congrArg Prod.fst hrun) (by simp)

/-- The database after the status of a candidate was written. -/
def withStatus (id : String) (status : CandidateStatus) (now : Int) (db : Database) : Database :=
  { db with emailCandidates :=
    db.emailCandidates.modify id (setStatus status now) (setStatus_unindexed status now) }

theorem updateStatus_of_find {db : Database} {row : EmailCandidate} (status : CandidateStatus)
    (hfind : db.emailCandidates.find? id = some row) :
    updateStatus id status now db =
      (.ok (setStatus status now row), withStatus id status now db) := by
  apply (Model.update_ok_iff _).mpr
  exact ⟨⟨row, hfind, rfl⟩, rfl⟩

theorem exclude_ok {db db' : Database} {row : EmailCandidate}
    (hrun : exclude now userId id db = (.ok row, db')) :
    ∃ owned, Owned userId id db owned ∧ row = setStatus .EXCLUDED now owned.candidate ∧
      db' = withStatus id .EXCLUDED now db := by
  rw [exclude, Handler.bind_ok_iff] at hrun
  obtain ⟨owned, start, hfound, hrun⟩ := hrun
  obtain ⟨howned, rfl⟩ := findOwned_ok_iff.mp hfound
  rw [updateStatus_of_find _ howned.candidate] at hrun
  obtain ⟨hrow, rfl⟩ := Prod.mk.inj hrun
  exact ⟨owned, howned, (Except.ok.inj hrow).symm, rfl⟩

theorem exclude_error {db db' : Database} {e : Exception}
    (hrun : exclude now userId id db = (.error e, db')) : db' = db := by
  rw [exclude, Handler.bind_error_iff] at hrun
  rcases hrun with hfound | ⟨owned, start, hfound, hrun⟩
  · exact findOwned_error hfound
  · obtain ⟨howned, rfl⟩ := findOwned_ok_iff.mp hfound
    rw [updateStatus_of_find _ howned.candidate] at hrun
    exact absurd (congrArg Prod.fst hrun) (by simp)

/-- The call that an approval of the candidate makes. -/
def callOf (candidate : EmailCandidate) (succeeded : Bool) (action : MailAction) : ActionCall :=
  ⟨candidate.emailAccountId, candidate.externalMessageId, action, succeeded⟩

/-- The ways the action in the mailbox can end. -/
inductive MailActionApplied (owned : CandidateWithRelations) (server : MailServer) :
    Except Exception Unit → MailServer → Prop where
  | unsupported (e : Exception) (action : MailAction)
      (haction : mailActionOf owned.rule.actionType = some action) :
      MailActionApplied owned server (.error e) server
  | failed (e : Exception) (action : MailAction) (db : Database)
      (haction : mailActionOf owned.rule.actionType = some action)
      (hrefreshes : RefreshesToken owned.candidate.emailAccountId server.db db) :
      MailActionApplied owned server (.error e) { server with
        db, calls := server.calls ++ [callOf owned.candidate false action] }
  | done (db : Database) (hrefreshes : RefreshesToken owned.candidate.emailAccountId server.db db) :
      MailActionApplied owned server (.ok ()) { server with
        db
        calls := server.calls ++
          (mailActionOf owned.rule.actionType).toList.map (callOf owned.candidate true) }

theorem applyMailAction_run {providers : MailProviderRegistry} (hlawful : providers.Lawful)
    (owned : CandidateWithRelations) (server : MailServer) :
    MailActionApplied owned server (applyMailAction providers owned server).1
      (applyMailAction providers owned server).2 := by
  have hdone := @MailActionApplied.done owned server
  unfold applyMailAction
  cases haction : mailActionOf owned.rule.actionType with
  | none =>
      have hnone := hdone server.db (RefreshesToken.refl _ _)
      rw [haction] at hnone
      simpa using hnone
  | some action =>
      cases hget : providers.get owned.emailAccount.providerType with
      | error e => exact .unsupported e action haction
      | ok provider =>
          have hkeeps := (hlawful.get hget).applyAction owned.candidate.emailAccountId
            owned.candidate.externalMessageId action server.db
          rcases hcall : provider.applyAction owned.candidate.emailAccountId
            owned.candidate.externalMessageId action server.db with ⟨e | u, db⟩
          · rw [hcall] at hkeeps
            have hfailed : MailServer.applyAction provider owned.candidate.emailAccountId
                owned.candidate.externalMessageId action server = (.error e, { server with
                  db, calls := server.calls ++ [callOf owned.candidate false action] }) := by
              simp only [MailServer.applyAction, hcall]
              rfl
            show MailActionApplied owned server (MailServer.applyAction provider _ _ _ server).1
              (MailServer.applyAction provider _ _ _ server).2
            rw [hfailed]
            exact .failed e action db haction hkeeps
          · rw [hcall] at hkeeps
            have happlied : MailServer.applyAction provider owned.candidate.emailAccountId
                owned.candidate.externalMessageId action server = (.ok (), { server with
                  db, calls := server.calls ++ [callOf owned.candidate true action] }) := by
              simp only [MailServer.applyAction, hcall]
              rfl
            have hsome := hdone db hkeeps
            rw [haction] at hsome
            show MailActionApplied owned server (MailServer.applyAction provider _ _ _ server).1
              (MailServer.applyAction provider _ _ _ server).2
            rw [happlied]
            exact hsome

/-- The ways an approval can end. -/
inductive Approval (userId id : String) (now : Int) (server : MailServer) :
    Except Exception EmailCandidate → MailServer → Prop where
  | refused (e : Exception) : Approval userId id now server (.error e) server
  | failed (e : Exception) (owned : CandidateWithRelations) (action : MailAction) (db : Database)
      (howned : Owned userId id server.db owned)
      (haction : mailActionOf owned.rule.actionType = some action)
      (hrefreshes : RefreshesToken owned.candidate.emailAccountId server.db db) :
      Approval userId id now server (.error e) { server with
        db, calls := server.calls ++ [callOf owned.candidate false action] }
  | approved (owned : CandidateWithRelations) (db : Database)
      (howned : Owned userId id server.db owned)
      (hrefreshes : RefreshesToken owned.candidate.emailAccountId server.db db) :
      Approval userId id now server (.ok (setStatus .APPROVED now owned.candidate)) { server with
        db := withStatus id .APPROVED now db
        calls := server.calls ++
          (mailActionOf owned.rule.actionType).toList.map (callOf owned.candidate true) }

theorem query_of_run {α : Type} {x : Query α} {result : Except Exception α} {server : MailServer}
    {db : Database} (hrun : x server.db = (result, db)) :
    MailServer.query x server = (result, { server with db }) := by
  simp only [MailServer.query, Handler.zoom_run, hrun]

theorem approve_run {providers : MailProviderRegistry} (hlawful : providers.Lawful)
    (server : MailServer) :
    Approval userId id now server (approve providers now userId id server).1
      (approve providers now userId id server).2 := by
  unfold approve
  rcases hfound : findOwned userId id server.db with ⟨e | owned, db⟩
  · obtain rfl := findOwned_error hfound
    rw [Handler.bind_of_error (query_of_run hfound)]
    exact .refused e
  obtain ⟨howned, hdb⟩ := findOwned_ok_iff.mp hfound
  subst db
  rw [Handler.bind_of_ok (query_of_run hfound)]
  have happlied := applyMailAction_run hlawful owned server
  rcases hrun : applyMailAction providers owned server with ⟨result, after⟩
  rw [hrun] at happlied
  cases happlied with
  | unsupported e action haction =>
      rw [Handler.bind_of_error hrun]
      exact .refused e
  | failed e action db haction hrefreshes =>
      rw [Handler.bind_of_error hrun]
      exact .failed e owned action db howned haction hrefreshes
  | done db hrefreshes =>
      have hcandidate : db.emailCandidates.find? id = some owned.candidate := by
        rw [hrefreshes.emailCandidates]
        exact howned.candidate
      rw [Handler.bind_of_ok hrun, query_of_run (updateStatus_of_find .APPROVED hcandidate)]
      exact .approved owned db howned hrefreshes

end Outcomes

end CandidatesService

end MyAccountController
