import MyAccountController.Foundation.Program
import MyAccountController.Mail.ScanEffects

/-! # A scan among other requests

Between two of its queries a scan may find the database changed by others. The
scan is a program with an await point at every query and listing; run alone it
is the scan of the service. At each of its steps it only refreshes a token or
adds a pending candidate.
-/

namespace MyAccountController

open Foundation MailServer

namespace CandidatesService

section Programs

variable (unicode : UnicodeData) (providers : MailProviderRegistry) (faults : ScanFaults)
  (freshId : Nat → Nat → Nat → String)

def proposeTurns (fault : Option Exception) (id emailAccountId : String) (message : RawMailMessage)
    (rule : RuleWithConditions) : Program Exception MailServer PUnit := do
  let accepted ← Program.ofExcept (RuleMatcher.messageMatchesRule unicode message rule)
  if accepted then
    Program.recover
      (do
        let _ ← Program.atomic (query (createCandidate fault id rule.rule.id emailAccountId message))
        pure ())
      fun err => if err ≠ .p2002 then Program.raise err else pure ()
  else pure ()

def proposeAllTurns (i : Nat) (emailAccountId : String) (messages : List RawMailMessage)
    (rules : List RuleWithConditions) : Program Exception MailServer PUnit :=
  messages.zipIdx.forM fun (message, j) =>
    rules.zipIdx.forM fun (rule, k) =>
      proposeTurns unicode (faults.fault i j k message) (freshId i j k) emailAccountId message rule

def scanAccountTurns (account : EmailAccount) (i : Nat) : Program Exception MailServer PUnit := do
  let provider ← Program.ofExcept (providers.get account.providerType)
  let rules ← Program.atomic (query (findActiveRules (faults.ruleQuery i) account.id))
  if rules.length = 0 then pure ()
  else
    let messages ← Program.atomic (listCandidateMessages provider account.id)
    proposeAllTurns unicode faults freshId i account.id messages rules

def scanAccountsTurns (accounts : List EmailAccount) : Program Exception MailServer PUnit :=
  accounts.zipIdx.forM fun (account, i) =>
    Program.recover (scanAccountTurns unicode providers faults freshId account i) fun _ => pure ()

def scanTurns (userId : String) : Program Exception MailServer PUnit := do
  let accounts ← Program.atomic (query
    (Prisma.emailAccount.findMany fun row => row.userId = userId ∧ row.isActive))
  scanAccountsTurns unicode providers faults freshId accounts

def scanAllTurns : Program Exception MailServer PUnit := do
  let accounts ← Program.atomic (query (Prisma.emailAccount.findMany fun row => row.isActive))
  scanAccountsTurns unicode providers faults freshId accounts

end Programs

/-! ## The program alone is the scan -/

section Alone

variable {unicode : UnicodeData} {providers : MailProviderRegistry} {faults : ScanFaults}
  {freshId : Nat → Nat → Nat → String}

theorem simulates_onServer {α : Type} (x : Handler Exception MailServer α) :
    Program.Simulates ScanState.server (ScanState.onServer x) (Program.atomic x) :=
  Program.simulates_zoom (fun _ _ => rfl) x

theorem simulates_count (f : ScanResult → ScanResult) :
    Program.Simulates ScanState.server (ScanState.count f) (pure ()) :=
  Program.simulates_modify fun _ => rfl

theorem propose_simulates {fault : Option Exception} {id emailAccountId : String}
    {message : RawMailMessage} {rule : RuleWithConditions} :
    Program.Simulates ScanState.server (propose unicode fault id emailAccountId message rule)
      (proposeTurns unicode fault id emailAccountId message rule) := by
  unfold propose proposeTurns
  apply Program.simulates_bind (Program.simulates_ofExcept _)
  intro accepted
  split
  · apply Program.simulates_recover
    · exact Program.simulates_bind (simulates_onServer _) fun _ => simulates_count _
    · intro err
      split
      · exact Program.simulates_raise err
      · exact Program.simulates_pure ()
  · exact Program.simulates_pure ()

theorem proposeAll_simulates {i : Nat} {emailAccountId : String} {messages : List RawMailMessage}
    {rules : List RuleWithConditions} :
    Program.Simulates ScanState.server
      (proposeAll unicode faults freshId i emailAccountId messages rules)
      (proposeAllTurns unicode faults freshId i emailAccountId messages rules) := by
  apply Program.simulates_forM
  intro message _
  apply Program.simulates_forM
  intro rule _
  exact propose_simulates

theorem scanAccount_simulates {account : EmailAccount} {i : Nat} :
    Program.Simulates ScanState.server (scanAccount unicode providers faults freshId account i)
      (scanAccountTurns unicode providers faults freshId account i) := by
  apply Program.simulates_bind (Program.simulates_ofExcept _)
  intro provider
  apply Program.simulates_bind (simulates_onServer _)
  intro rules
  split
  · exact Program.simulates_pure ()
  · apply Program.simulates_bind (simulates_onServer _)
    intro messages
    exact Program.simulates_bind (simulates_count _) fun _ => proposeAll_simulates

theorem scanAccounts_alone (accounts : List EmailAccount) (server : MailServer) :
    (scanAccounts unicode providers faults freshId accounts server).2 =
      ((scanAccountsTurns unicode providers faults freshId accounts).alone server).2 := by
  have hloop : Program.Simulates ScanState.server
      (accounts.zipIdx.forM (scanOne unicode providers faults freshId))
      (scanAccountsTurns unicode providers faults freshId accounts) := by
    apply Program.simulates_forM
    intro account _
    exact Program.simulates_recover scanAccount_simulates fun _ => simulates_count _
  rw [scanAccounts_server]
  exact (hloop ⟨server, ⟨0, 0, 0⟩⟩).2

theorem scan_alone (userId : String) (server : MailServer) :
    (scan unicode providers faults freshId userId server).2 =
      ((scanTurns unicode providers faults freshId userId).alone server).2 := by
  unfold scanTurns
  rw [Program.alone_bind]
  exact scanAccounts_alone _ server

theorem scanAll_alone (server : MailServer) :
    (scanAll unicode providers faults freshId server).2 =
      ((scanAllTurns unicode providers faults freshId).alone server).2 := by
  unfold scanAllTurns
  rw [Program.alone_bind]
  exact scanAccounts_alone _ server

end Alone

/-! ## What a step may change -/

/-- Every candidate that is added is pending. -/
structure AddsPending (db db' : Database) : Prop where
  rules : db'.emailRules = db.emailRules
  accounts : db'.emailAccounts.rows.map EmailAccount.withoutToken =
    db.emailAccounts.rows.map EmailAccount.withoutToken
  kept : ∀ id row, db.emailCandidates.find? id = some row →
    db'.emailCandidates.find? id = some row
  added : ∀ id row, db'.emailCandidates.find? id = some row →
    db.emailCandidates.find? id = some row ∨
      db.emailCandidates.find? id = none ∧ row.status = .PENDING

theorem AddsPending.refl (db : Database) : AddsPending db db :=
  ⟨rfl, rfl, fun _ _ hfind => hfind, fun _ _ hfind => .inl hfind⟩

theorem addsPending_refresh {emailAccountId : String} {db db' : Database}
    (hrefreshes : RefreshesToken emailAccountId db db') : AddsPending db db' := by
  refine ⟨hrefreshes.emailRules, hrefreshes.withoutToken, ?_, ?_⟩
  · intro id row hfind
    rw [hrefreshes.emailCandidates]
    exact hfind
  · intro id row hfind
    rw [hrefreshes.emailCandidates] at hfind
    exact .inl hfind

theorem addsPending_store {db : Database} {row : EmailCandidate} {table : Table EmailCandidate}
    (hinsert : db.emailCandidates.insert? row = some table) (hstatus : row.status = .PENDING) :
    AddsPending db (Prisma.emailCandidate.withTable db table) := by
  refine ⟨rfl, rfl, fun id kept hfind => Table.find?_of_insert hinsert hfind, ?_⟩
  intro id added hfind
  rcases Table.find?_insert_cases hinsert hfind with hold | ⟨hnone, rfl⟩
  · exact .inl hold
  · exact .inr ⟨hnone, hstatus⟩

/-- A change of the server that only scans. -/
def ScanStep (server server' : MailServer) : Prop :=
  AddsPending server.db server'.db

section Steps

variable {unicode : UnicodeData} {providers : MailProviderRegistry} {faults : ScanFaults}
  {freshId : Nat → Nat → Nat → String}

/-- A query that changes nothing. -/
theorem always_read {α : Type} {x : Query α} (hx : ∀ db, (x db).2 = db) :
    Program.Always ScanStep (Program.atomic (query x)) := by
  apply Program.always_atomic
  intro server
  show AddsPending server.db (x server.db).2
  rw [hx]
  exact AddsPending.refl _

theorem always_propose {fault : Option Exception} {id emailAccountId : String}
    {message : RawMailMessage} {rule : RuleWithConditions} :
    Program.Always ScanStep (proposeTurns unicode fault id emailAccountId message rule) := by
  unfold proposeTurns
  apply Program.always_bind
  · cases RuleMatcher.messageMatchesRule unicode message rule <;> trivial
  intro accepted
  split
  · apply Program.always_recover
    · refine Program.always_bind (Program.always_atomic ?_) fun _ => trivial
      intro server
      rcases createCandidate_cases server.db with ⟨e, hrefused⟩ |
        ⟨row, table, hinput, hinsert, hcreated⟩
      · rw [query_of_run hrefused]
        exact AddsPending.refl _
      · rw [query_of_run hcreated]
        obtain ⟨-, hrow⟩ := candidateInput_ok_iff.mp hinput
        exact addsPending_store hinsert (by rw [hrow])
    · intro err
      split <;> trivial
  · trivial

theorem always_scanAccount (hlawful : providers.Lawful) (account : EmailAccount) (i : Nat) :
    Program.Always ScanStep (scanAccountTurns unicode providers faults freshId account i) := by
  unfold scanAccountTurns
  cases hget : providers.get account.providerType with
  | error err => trivial
  | ok provider =>
      apply Program.always_bind (always_read ?_)
      · intro rules
        split
        · trivial
        apply Program.always_bind
        · apply Program.always_atomic
          intro server
          obtain ⟨db, hrefreshes, ⟨e, hfailed⟩ | ⟨messages, hlisted⟩⟩ :=
            listCandidateMessages_cases (hlawful.get hget) account.id server
          · rw [hfailed]
            exact addsPending_refresh hrefreshes
          · rw [hlisted]
            exact addsPending_refresh hrefreshes
        · intro messages
          apply Program.always_forM
          intro message _
          apply Program.always_forM
          intro rule _
          exact always_propose
      · intro db
        unfold findActiveRules
        cases faults.ruleQuery i <;> rfl

theorem always_scanAccounts (hlawful : providers.Lawful) (accounts : List EmailAccount) :
    Program.Always ScanStep (scanAccountsTurns unicode providers faults freshId accounts) := by
  apply Program.always_forM
  intro account _
  exact Program.always_recover (always_scanAccount hlawful account.1 account.2) fun _ => trivial

theorem always_scan (hlawful : providers.Lawful) (userId : String) :
    Program.Always ScanStep (scanTurns unicode providers faults freshId userId) :=
  Program.always_bind (always_read fun _ => rfl) (always_scanAccounts hlawful)

theorem always_scanAll (hlawful : providers.Lawful) :
    Program.Always ScanStep (scanAllTurns unicode providers faults freshId) :=
  Program.always_bind (always_read fun _ => rfl) (always_scanAccounts hlawful)

end Steps

end CandidatesService

end MyAccountController
