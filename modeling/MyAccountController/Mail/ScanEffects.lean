import MyAccountController.Mail.ScanRuns

/-! # What a scan may change

Whatever the providers and the database answer, a scan only lists messages,
refreshes tokens and proposes pending candidates. A candidate that it adds is a
listed message that an active rule of the same email account accepts.
-/

namespace MyAccountController

open Foundation

namespace CandidatesService

/-- The row proposes a listed message that an active rule of its account accepts. -/
def Proposed (unicode : UnicodeData) (server : MailServer) (row : EmailCandidate) : Prop :=
  row.status = .PENDING ∧ ∃ rule ∈ server.db.activeRules row.emailAccountId, ∃ message,
    (row.emailAccountId, message) ∈ server.listed ∧
      RuleMatcher.messageMatchesRule unicode message rule = .ok true ∧
      row.ruleId = rule.rule.id ∧ row.externalMessageId = message.externalMessageId

/-- The changes of a scan. -/
structure Scans (unicode : UnicodeData) (server server' : MailServer) : Prop where
  elsewhere : server'.db = { server.db with
    emailAccounts := server'.db.emailAccounts, emailCandidates := server'.db.emailCandidates }
  accounts : server'.db.emailAccounts.rows.map EmailAccount.withoutToken =
    server.db.emailAccounts.rows.map EmailAccount.withoutToken
  calls : server'.calls = server.calls
  listed : server.listed <+: server'.listed
  kept : server.db.emailCandidates.rows <+: server'.db.emailCandidates.rows
  added : ∀ row ∈ server'.db.emailCandidates.rows,
    row ∈ server.db.emailCandidates.rows ∨ Proposed unicode server' row

namespace Scans

variable {unicode : UnicodeData}

theorem refl (server : MailServer) : Scans unicode server server where
  elsewhere := rfl
  accounts := rfl
  calls := rfl
  listed := List.prefix_refl _
  kept := List.prefix_refl _
  added _ hrow := .inl hrow

theorem rules {server server' : MailServer} (hscans : Scans unicode server server') :
    server'.db.emailRules = server.db.emailRules := by
  rw [hscans.elsewhere]

theorem activeRules {server server' : MailServer} (hscans : Scans unicode server server')
    (emailAccountId : String) :
    server'.db.activeRules emailAccountId = server.db.activeRules emailAccountId := by
  rw [hscans.elsewhere]
  rfl

theorem proposed {server server' : MailServer} (hscans : Scans unicode server server')
    {row : EmailCandidate} (hproposed : Proposed unicode server row) :
    Proposed unicode server' row := by
  obtain ⟨hstatus, rule, hrule, message, hlisted, hmatches, hids⟩ := hproposed
  refine ⟨hstatus, rule, ?_, message, hscans.listed.subset hlisted, hmatches, hids⟩
  rw [hscans.activeRules]
  exact hrule

theorem trans (a b c : MailServer) (hab : Scans unicode a b) (hbc : Scans unicode b c) :
    Scans unicode a c where
  elsewhere := by rw [hbc.elsewhere, hab.elsewhere]
  accounts := hbc.accounts.trans hab.accounts
  calls := hbc.calls.trans hab.calls
  listed := hab.listed.trans hbc.listed
  kept := hab.kept.trans hbc.kept
  added row hrow := by
    rcases hbc.added row hrow with hrow | hproposed
    · rcases hab.added row hrow with hold | hproposed
      · exact .inl hold
      · exact .inr (hbc.proposed hproposed)
    · exact .inr hproposed

end Scans

section Loops

variable {unicode : UnicodeData} {providers : MailProviderRegistry} {faults : ScanFaults}
  {freshId : Nat → Nat → Nat → String}

/-- The rules are active rules of the account, and the messages are listed. -/
structure Ready (emailAccountId : String) (rules : List RuleWithConditions)
    (messages : List RawMailMessage) (server : MailServer) : Prop where
  rules : rules ⊆ server.db.activeRules emailAccountId
  messages : ∀ message ∈ messages, (emailAccountId, message) ∈ server.listed

theorem Ready.of_scans {emailAccountId : String} {rules : List RuleWithConditions}
    {messages : List RawMailMessage} {server server' : MailServer}
    (hready : Ready emailAccountId rules messages server) (hscans : Scans unicode server server') :
    Ready emailAccountId rules messages server' where
  rules := by
    rw [hscans.activeRules]
    exact hready.rules
  messages message hmessage := hscans.listed.subset (hready.messages message hmessage)

/-- An insertion is refused, or stores the row it was asked for. -/
theorem createCandidate_cases {fault : Option Exception} {id ruleId emailAccountId : String}
    {message : RawMailMessage} (db : Database) :
    (∃ e, createCandidate fault id ruleId emailAccountId message db = (.error e, db)) ∨
      ∃ row table, candidateInput id ruleId emailAccountId message = .ok row ∧
        db.emailCandidates.insert? row = some table ∧
        createCandidate fault id ruleId emailAccountId message db =
          (.ok row, Prisma.emailCandidate.withTable db table) := by
  unfold createCandidate
  cases fault with
  | some err => exact .inl ⟨err, rfl⟩
  | none =>
      cases hinput : candidateInput id ruleId emailAccountId message with
      | error e => exact .inl ⟨e, rfl⟩
      | ok row =>
          rcases hcreate : Prisma.emailCandidate.create row db with ⟨e | created, db'⟩
          · obtain ⟨rfl, -⟩ := Model.create_error _ hcreate
            exact .inl ⟨e, hcreate⟩
          · obtain ⟨rfl, -, table, hinsert, rfl⟩ := (Model.create_ok_iff _).mp hcreate
            exact .inr ⟨created, table, rfl, hinsert, hcreate⟩

/-- A stored row of an accepted message is a change of a scan. -/
theorem scans_store {server : MailServer} {emailAccountId id : String}
    {rules : List RuleWithConditions} {messages : List RawMailMessage}
    (hready : Ready emailAccountId rules messages server) {rule : RuleWithConditions}
    (hrule : rule ∈ rules) {message : RawMailMessage} (hmessage : message ∈ messages)
    (hmatches : RuleMatcher.messageMatchesRule unicode message rule = .ok true)
    {row : EmailCandidate} {table : Table EmailCandidate}
    (hinput : candidateInput id rule.rule.id emailAccountId message = .ok row)
    (hinsert : server.db.emailCandidates.insert? row = some table) :
    Scans unicode server { server with
      db := Prisma.emailCandidate.withTable server.db table } where
  elsewhere := rfl
  accounts := rfl
  calls := rfl
  listed := List.prefix_refl _
  kept := by
    show server.db.emailCandidates.rows <+: table.rows
    rw [(Table.insert?_eq_some_iff.mp hinsert).2]
    exact List.prefix_append _ _
  added other hother := by
    obtain ⟨-, hrow⟩ := candidateInput_ok_iff.mp hinput
    replace hother : other ∈ table.rows := hother
    rw [(Table.insert?_eq_some_iff.mp hinsert).2] at hother
    rcases List.mem_append.mp hother with hold | hnew
    · exact .inl hold
    · rw [List.mem_singleton.mp hnew, hrow]
      exact .inr ⟨rfl, rule, hready.rules hrule, message, hready.messages message hmessage,
        hmatches, rfl, rfl⟩

theorem propose_scans {fault : Option Exception} {emailAccountId id : String}
    {rules : List RuleWithConditions} {messages : List RawMailMessage} {state : ScanState}
    (hready : Ready emailAccountId rules messages state.server) {rule : RuleWithConditions}
    (hrule : rule ∈ rules) {message : RawMailMessage} (hmessage : message ∈ messages) :
    Scans unicode state.server
      (propose unicode fault id emailAccountId message rule state).2.server := by
  unfold propose
  rcases hmatches : RuleMatcher.messageMatchesRule unicode message rule with e | _ | _
  · exact Scans.refl _
  · exact Scans.refl _
  · rw [Handler.ofExcept_ok_bind, if_pos rfl]
    rcases createCandidate_cases state.server.db with ⟨e, hrefused⟩ |
      ⟨row, table, hinput, hinsert, hcreated⟩
    · have hrun := onServer_query_run hrefused
      unfold Handler.recover
      rw [Handler.bind_of_error hrun]
      dsimp only
      split <;> exact Scans.refl _
    · have hrun := onServer_query_run hcreated
      unfold Handler.recover
      rw [Handler.bind_of_ok hrun]
      exact scans_store hready hrule hmessage hmatches hinput hinsert

/-- A loop whose steps scan, in states that are ready, scans. -/
theorem forM_scans {α : Type} {emailAccountId : String} {rules : List RuleWithConditions}
    {messages : List RawMailMessage} {items : List α} {f : α → Handler Exception ScanState PUnit}
    (hstep : ∀ item ∈ items, ∀ state, Ready emailAccountId rules messages state.server →
      Scans unicode state.server (f item state).2.server)
    {state : ScanState} (hready : Ready emailAccountId rules messages state.server) :
    Scans unicode state.server ((items.forM f) state).2.server := by
  let related (a b : ScanState) : Prop :=
    Ready emailAccountId rules messages a.server → Scans unicode a.server b.server
  have hkeeps : Handler.Keeps related (items.forM f) := by
    apply Handler.keeps_forM
    · exact fun state _ => Scans.refl state.server
    · intro a b c hab hbc hready
      have hfirst := hab hready
      exact Scans.trans _ _ _ hfirst (hbc (hready.of_scans hfirst))
    · exact fun item hitem state hready => hstep item hitem state hready
  exact hkeeps state hready

theorem proposeAll_scans {i : Nat} {emailAccountId : String} {rules : List RuleWithConditions}
    {messages : List RawMailMessage} {state : ScanState}
    (hready : Ready emailAccountId rules messages state.server) :
    Scans unicode state.server
      (proposeAll unicode faults freshId i emailAccountId messages rules state).2.server := by
  apply forM_scans ?_ hready
  rintro ⟨message, j⟩ hmessage state hready
  apply forM_scans ?_ hready
  rintro ⟨rule, k⟩ hrule state hready
  exact propose_scans hready (List.fst_mem_of_mem_zipIdx hrule)
    (List.fst_mem_of_mem_zipIdx hmessage)

/-- A refreshed token and newly listed messages are changes of a scan. -/
theorem scans_listing {server : MailServer} {emailAccountId : String} {db : Database}
    (hrefreshes : RefreshesToken emailAccountId server.db db)
    (listed : List (String × RawMailMessage)) :
    Scans unicode server { server with db, listed := server.listed ++ listed } := by
  have hcandidates := hrefreshes.emailCandidates
  refine ⟨?_, hrefreshes.withoutToken, rfl, List.prefix_append _ _, ?_, fun row hrow => .inl ?_⟩
  · rw [hcandidates]
    exact hrefreshes.elsewhere
  · simp only [hcandidates, List.prefix_rfl]
  · rw [← hcandidates]
    exact hrow

/-- A listing fails, or answers messages and records them. -/
theorem listCandidateMessages_cases {provider : MailProvider} (hlawful : provider.Lawful)
    (emailAccountId : String) (server : MailServer) :
    ∃ db, RefreshesToken emailAccountId server.db db ∧
      ((∃ e, MailServer.listCandidateMessages provider emailAccountId server =
          (.error e, { server with db })) ∨
        ∃ messages, MailServer.listCandidateMessages provider emailAccountId server =
          (.ok messages, { server with
            db
            listed := server.listed ++ messages.map fun message => (emailAccountId, message) })) := by
  rcases hlist : provider.listCandidateMessages emailAccountId server.db with ⟨e | messages, db⟩
  · refine ⟨db, (hlawful.listCandidateMessages emailAccountId).of_run hlist, .inl ⟨e, ?_⟩⟩
    exact Handler.bind_of_error (query_of_run hlist)
  · refine ⟨db, (hlawful.listCandidateMessages emailAccountId).of_run hlist, .inr ⟨messages, ?_⟩⟩
    exact Handler.bind_of_ok (query_of_run hlist)

theorem onServer_run {α : Type} {x : Handler Exception MailServer α} {result : Except Exception α}
    {state : ScanState} {server : MailServer} (hrun : x state.server = (result, server)) :
    ScanState.onServer x state = (result, { state with server }) := by
  simp only [ScanState.onServer, Handler.zoom_run, hrun]

theorem scanAccount_scans (hlawful : providers.Lawful) (account : EmailAccount) (i : Nat)
    (state : ScanState) : Scans unicode state.server
      (scanAccount unicode providers faults freshId account i state).2.server := by
  unfold scanAccount
  cases hget : providers.get account.providerType with
  | error err => exact Scans.refl _
  | ok provider =>
      rw [Handler.ofExcept_ok_bind]
      cases hfault : faults.ruleQuery i with
      | some err => exact Scans.refl _
      | none =>
          have hrules : ScanState.onServer (MailServer.query (findActiveRules none account.id))
              state = (.ok (state.server.db.activeRules account.id), state) := rfl
          rw [Handler.bind_of_ok hrules]
          split
          · exact Scans.refl _
          obtain ⟨db, hrefreshes, ⟨e, hfailed⟩ | ⟨messages, hlisted⟩⟩ :=
            listCandidateMessages_cases (hlawful.get hget) account.id state.server
          · rw [Handler.bind_of_error (onServer_run hfailed)]
            have hscans := @scans_listing unicode state.server account.id db hrefreshes []
            rwa [List.append_nil] at hscans
          · rw [Handler.bind_of_ok (onServer_run hlisted)]
            have hscans := @scans_listing unicode state.server account.id db hrefreshes
              (messages.map fun message => (account.id, message))
            have hready : Ready account.id (state.server.db.activeRules account.id) messages
                (state.afterListing db account.id messages).server := by
              refine ⟨?_, fun message hmessage => ?_⟩
              · rw [show (state.afterListing db account.id messages).server.db.activeRules account.id =
                  _ from hscans.activeRules account.id]
                exact List.Subset.refl _
              · exact List.mem_append_right _ (List.mem_map_of_mem hmessage)
            exact Scans.trans _ _ _ hscans (proposeAll_scans hready)

/-- What a scan makes of the end of its loop. -/
def loopAnswer : Except Exception Unit × ScanState → Except Exception ScanResult × MailServer
  | (.ok _, state) => (.ok state.counts, state.server)
  | (.error err, state) => (.error err, state.server)

/-- What a scan leaves is what its loop leaves. -/
theorem scanAccounts_server (accounts : List EmailAccount) (server : MailServer) :
    (scanAccounts unicode providers faults freshId accounts server).2 =
      (accounts.zipIdx.forM (scanOne unicode providers faults freshId)
        ⟨server, ⟨0, 0, 0⟩⟩).2.server := by
  have hanswer : scanAccounts unicode providers faults freshId accounts server =
      loopAnswer (accounts.zipIdx.forM (scanOne unicode providers faults freshId)
        ⟨server, ⟨0, 0, 0⟩⟩) := rfl
  rw [hanswer]
  rcases accounts.zipIdx.forM (scanOne unicode providers faults freshId)
    ⟨server, ⟨0, 0, 0⟩⟩ with ⟨_ | _, state⟩ <;> rfl

/-- A scan of any accounts, whatever fails. -/
theorem scanAccounts_scans (hlawful : providers.Lawful) (accounts : List EmailAccount)
    (server : MailServer) : Scans unicode server
      (scanAccounts unicode providers faults freshId accounts server).2 := by
  let related (a b : ScanState) : Prop := Scans unicode a.server b.server
  have hrefl : ∀ state, related state state := fun state => Scans.refl state.server
  have htrans : ∀ a b c, related a b → related b c → related a c := fun a b c =>
    Scans.trans a.server b.server c.server
  have hloop : Handler.Keeps related
      (accounts.zipIdx.forM (scanOne unicode providers faults freshId)) := by
    apply Handler.keeps_forM hrefl htrans
    intro account _
    apply Handler.keeps_recover htrans
    · exact scanAccount_scans hlawful account.1 account.2
    · exact fun _ state => hrefl state
  have hscans := hloop ⟨server, ⟨0, 0, 0⟩⟩
  rw [scanAccounts_server]
  exact hscans

theorem scan_scans (hlawful : providers.Lawful) (userId : String) (server : MailServer) :
    Scans unicode server (scan unicode providers faults freshId userId server).2 :=
  scanAccounts_scans hlawful _ server

theorem scanAll_scans (hlawful : providers.Lawful) (server : MailServer) :
    Scans unicode server (scanAll unicode providers faults freshId server).2 :=
  scanAccounts_scans hlawful _ server

end Loops

end CandidatesService

end MyAccountController
