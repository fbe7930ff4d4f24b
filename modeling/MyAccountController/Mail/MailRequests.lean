import MyAccountController.EmailAccounts.EmailAccountsService
import MyAccountController.Foundation.Run
import MyAccountController.Mail.RulesService
import MyAccountController.Mail.ScanEffects

/-! # Requests about mail

Any user may connect and remove email accounts, edit rules, scan, and approve
or exclude candidates, and the scheduler scans all accounts. A request carries
what its providers will answer. `step_effect` says once what a request does.
-/

namespace MyAccountController

open Foundation

variable {R : Runtime}

/-- A registry of providers that keep to their part. -/
abbrev LawfulRegistry := {providers : MailProviderRegistry // providers.Lawful}

inductive MailRequest (R : Runtime) where
  | connect (userId : String) (tokens : GmailTokens) (tokenKey : R.Key)
      (fresh : FreshEmailAccount R)
  | disconnect (userId id : String)
  | createRule (userId : String) (data : JsObject) (fresh : FreshRule)
  | updateRule (userId id : String) (data : JsObject) (conditionId : Nat → String)
  | removeRule (userId id : String)
  | scan (userId : String) (providers : LawfulRegistry) (faults : ScanFaults)
      (freshId : Nat → Nat → Nat → String)
  | scanAll (providers : LawfulRegistry) (faults : ScanFaults)
      (freshId : Nat → Nat → Nat → String)
  | findPending (userId : String)
  | approve (userId id : String) (providers : LawfulRegistry)
  | exclude (userId id : String)

/-- A request and the time at which it is handled. -/
structure MailEvent (R : Runtime) where
  now : Int
  request : MailRequest R

namespace MailEvent

/-- The request is a scan of a user or of the scheduler. -/
def isScan (event : MailEvent R) : Bool :=
  match event.request with
  | .scan .. | .scanAll .. => true
  | _ => false

/-- The request scans, lists, approves or excludes: no rule or mailbox is edited. -/
def keepsRules (event : MailEvent R) : Bool :=
  match event.request with
  | .scan .. | .scanAll .. | .findPending .. | .approve .. | .exclude .. => true
  | .connect .. | .disconnect .. | .createRule .. | .updateRule .. | .removeRule .. => false

/-- The request lists, edits a rule or approves. -/
def listsEditsOrApproves (event : MailEvent R) : Bool :=
  match event.request with
  | .findPending .. | .updateRule .. | .approve .. => true
  | _ => false

end MailEvent

namespace MailRequest

open MailServer (query)

/-- The service method of a request. The response is dropped. -/
def serve (unicode : UnicodeData) (now : Int) :
    MailRequest R → Handler Exception MailServer Unit
  | connect userId tokens tokenKey fresh => do
      let _ ← query (EmailAccountsService.createFromGmail tokenKey now fresh userId tokens)
  | disconnect userId id => query (EmailAccountsService.remove userId id)
  | createRule userId data fresh => do
      let _ ← query (RulesService.create userId fresh now data)
  | updateRule userId id data conditionId => do
      let _ ← query (RulesService.update userId id conditionId data)
  | removeRule userId id => query (RulesService.remove userId id)
  | scan userId providers faults freshId => do
      let _ ← CandidatesService.scan unicode providers.val faults freshId userId
  | scanAll providers faults freshId => do
      let _ ← CandidatesService.scanAll unicode providers.val faults freshId
  | findPending userId => do
      let _ ← query (CandidatesService.findPending userId)
  | approve userId id providers => do
      let _ ← CandidatesService.approve providers.val now userId id
  | exclude userId id => do
      let _ ← query (CandidatesService.exclude now userId id)

end MailRequest

namespace MailServer

/-- The server after a request, whether it failed or not. -/
def step (unicode : UnicodeData) (server : MailServer) (event : MailEvent R) : MailServer :=
  (event.request.serve unicode event.now server).2

open CandidatesService

/-- What a request may do. -/
inductive Effect (unicode : UnicodeData) (server : MailServer) :
    MailEvent R → MailServer → Prop where
  | nothing (event : MailEvent R) : Effect unicode server event server
  | connected {now : Int} {userId : String} {tokens : GmailTokens} {tokenKey : R.Key}
      {fresh : FreshEmailAccount R} (row : EmailAccount) (emailAccounts : Table EmailAccount)
      (huser : row.userId = userId)
      (hrows : emailAccounts.rows = server.db.emailAccounts.rows ++ [row]) :
      Effect unicode server ⟨now, .connect userId tokens tokenKey fresh⟩
        { server with db := { server.db with emailAccounts } }
  | disconnected {now : Int} {userId id : String} (account : EmailAccount)
      (hfind : server.db.emailAccounts.find? id = some account) (huser : account.userId = userId) :
      Effect unicode server ⟨now, .disconnect userId id⟩
        { server with db := server.db.deleteEmailAccount id }
  | ruleCreated {now : Int} {userId : String} {data : JsObject} {fresh : FreshRule}
      (rule : EmailRule) (db : Database)
      (hcreates : RulesService.Creates userId server.db db rule) :
      Effect unicode server ⟨now, .createRule userId data fresh⟩ { server with db }
  | ruleUpdated {now : Int} {userId id : String} {data : JsObject} {conditionId : Nat → String}
      (db : Database) (hupdates : RulesService.Updates userId id data server.db db) :
      Effect unicode server ⟨now, .updateRule userId id data conditionId⟩ { server with db }
  | ruleRemoved {now : Int} {userId id : String} (rule : EmailRule)
      (hfind : server.db.emailRules.find? id = some rule)
      (howns : server.db.ownsEmailAccount userId rule.emailAccountId = true) :
      Effect unicode server ⟨now, .removeRule userId id⟩
        { server with db := server.db.deleteRule id }
  | scanned {event : MailEvent R} (server' : MailServer) (hscan : event.isScan = true)
      (hscans : Scans unicode server server') : Effect unicode server event server'
  | failed {now : Int} {userId id : String} {providers : LawfulRegistry}
      (owned : CandidateWithRelations) (action : MailAction) (db : Database)
      (howned : Owned userId id server.db owned)
      (haction : mailActionOf owned.rule.actionType = some action)
      (hrefreshes : RefreshesToken owned.candidate.emailAccountId server.db db) :
      Effect unicode server ⟨now, .approve userId id providers⟩ { server with
        db, calls := server.calls ++ [callOf owned.candidate false action] }
  | approved {now : Int} {userId id : String} {providers : LawfulRegistry}
      (owned : CandidateWithRelations) (db : Database) (howned : Owned userId id server.db owned)
      (hrefreshes : RefreshesToken owned.candidate.emailAccountId server.db db) :
      Effect unicode server ⟨now, .approve userId id providers⟩ { server with
        db := withStatus id .APPROVED now db
        calls := server.calls ++
          (mailActionOf owned.rule.actionType).toList.map (callOf owned.candidate true) }
  | excluded {now : Int} {userId id : String} (owned : CandidateWithRelations)
      (howned : Owned userId id server.db owned) :
      Effect unicode server ⟨now, .exclude userId id⟩
        { server with db := withStatus id .EXCLUDED now server.db }

theorem query_state {α : Type} {x : Query α} {server : MailServer} {result : Except Exception α}
    {db : Database} (hrun : x server.db = (result, db)) :
    (query x server).2 = { server with db } := by
  rw [query_of_run hrun]

/-- Every request has one of the effects. -/
theorem step_effect (unicode : UnicodeData) (server : MailServer) (event : MailEvent R) :
    Effect unicode server event (step unicode server event) := by
  obtain ⟨now, request⟩ := event
  unfold step
  cases request with
  | connect userId tokens tokenKey fresh =>
      dsimp only [MailRequest.serve]
      rw [Handler.bind_pure_state]
      rcases hrun : EmailAccountsService.createFromGmail tokenKey now fresh userId tokens server.db
        with ⟨e | row, db⟩
      · rw [query_state hrun, EmailAccountsService.createFromGmail_error hrun]
        exact .nothing _
      · rw [query_state hrun]
        obtain ⟨huser, hrows, hdb⟩ := EmailAccountsService.createFromGmail_ok hrun
        rw [hdb]
        exact .connected row db.emailAccounts huser hrows
  | disconnect userId id =>
      dsimp only [MailRequest.serve]
      rcases hrun : EmailAccountsService.remove userId id server.db with ⟨e | u, db⟩
      · rw [query_state hrun, EmailAccountsService.remove_error hrun]
        exact .nothing _
      · rw [query_state hrun]
        obtain ⟨⟨account, hfind, huser⟩, rfl⟩ := EmailAccountsService.remove_ok hrun
        exact .disconnected account hfind huser
  | createRule userId data fresh =>
      dsimp only [MailRequest.serve]
      rw [Handler.bind_pure_state]
      rcases hrun : RulesService.create userId fresh now data server.db with ⟨e | created, db⟩
      · rw [query_state hrun, RulesService.create_error hrun]
        exact .nothing _
      · rw [query_state hrun]
        exact .ruleCreated created.rule db (RulesService.create_ok hrun)
  | updateRule userId id data conditionId =>
      dsimp only [MailRequest.serve]
      rw [Handler.bind_pure_state]
      rcases hrun : RulesService.update userId id conditionId data server.db with ⟨e | updated, db⟩
      · rw [query_state hrun, RulesService.update_error hrun]
        exact .nothing _
      · rw [query_state hrun]
        exact .ruleUpdated db (RulesService.update_ok hrun)
  | removeRule userId id =>
      dsimp only [MailRequest.serve]
      rcases hrun : RulesService.remove userId id server.db with ⟨e | u, db⟩
      · rw [query_state hrun, RulesService.remove_error hrun]
        exact .nothing _
      · rw [query_state hrun]
        obtain ⟨⟨rule, hfind, howns⟩, rfl⟩ := RulesService.remove_ok hrun
        exact .ruleRemoved rule hfind howns
  | scan userId providers faults freshId =>
      dsimp only [MailRequest.serve]
      rw [Handler.bind_pure_state]
      exact .scanned _ rfl (scan_scans providers.property userId server)
  | scanAll providers faults freshId =>
      dsimp only [MailRequest.serve]
      rw [Handler.bind_pure_state]
      exact .scanned _ rfl (scanAll_scans providers.property server)
  | findPending userId => exact .nothing _
  | approve userId id providers =>
      dsimp only [MailRequest.serve]
      rw [Handler.bind_pure_state]
      have happroval := @approve_run userId id now providers.val providers.property server
      rcases hrun : approve providers.val now userId id server with ⟨result, server'⟩
      rw [hrun] at happroval
      cases happroval with
      | refused e => exact .nothing _
      | failed e owned action db howned haction hrefreshes =>
          exact .failed owned action db howned haction hrefreshes
      | approved owned db howned hrefreshes => exact .approved owned db howned hrefreshes
  | exclude userId id =>
      dsimp only [MailRequest.serve]
      rw [Handler.bind_pure_state]
      rcases hrun : exclude now userId id server.db with ⟨e | row, db⟩
      · rw [query_state hrun, exclude_error hrun]
        exact .nothing _
      · rw [query_state hrun]
        obtain ⟨owned, howned, -, rfl⟩ := exclude_ok hrun
        exact .excluded owned howned

end MailServer

end MyAccountController
