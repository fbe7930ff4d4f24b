import MyAccountController.Mail.MailRequests
import MyAccountController.Mail.ScanFailures

/-! # The calls of `applyAction`

A candidate stays in the mailbox of its rule, whatever requests about mail the
users and the scheduler make. So every call of `applyAction` is an approval by the
owner of the mailbox, of a message listed from it, with the action of the rule.
-/

namespace MyAccountController

open Foundation CandidatesService

variable {R : Runtime}

namespace MailServer

/-- Users may exist, but no mailbox was ever connected. -/
structure NoMail (server : MailServer) : Prop where
  emailAccounts : server.db.emailAccounts.rows = []
  emailRules : server.db.emailRules.rows = []
  emailCandidates : server.db.emailCandidates.rows = []
  listed : server.listed = []
  calls : server.calls = []

/-- A candidate is of a rule of its own mailbox, and of a message listed there. -/
structure Linked (server : MailServer) (row : EmailCandidate) : Prop where
  rule : ∃ rule ∈ server.db.emailRules.rows,
    rule.id = row.ruleId ∧ rule.emailAccountId = row.emailAccountId
  listed : ∃ message, (row.emailAccountId, message) ∈ server.listed ∧
    message.externalMessageId = row.externalMessageId

/-- Every candidate is linked. -/
def AllLinked (server : MailServer) : Prop :=
  ∀ row ∈ server.db.emailCandidates.rows, Linked server row

section Links

variable {unicode : UnicodeData} {server server' : MailServer} {row before : EmailCandidate}

/-- A link lasts as long as the rule keeps its mailbox. -/
theorem Linked.mono (hlinked : Linked server before)
    (hrules : ∀ rule ∈ server.db.emailRules.rows, rule.id = before.ruleId →
      rule.emailAccountId = before.emailAccountId → ∃ rule' ∈ server'.db.emailRules.rows,
        rule'.id = rule.id ∧ rule'.emailAccountId = rule.emailAccountId)
    (hlisted : server.listed ⊆ server'.listed) (hruleId : row.ruleId = before.ruleId)
    (haccount : row.emailAccountId = before.emailAccountId)
    (hmessage : row.externalMessageId = before.externalMessageId) : Linked server' row where
  rule := by
    obtain ⟨rule, hrule, hid, haccountId⟩ := hlinked.rule
    obtain ⟨rule', hrule', hid', haccountId'⟩ := hrules rule hrule hid haccountId
    refine ⟨rule', hrule', ?_, ?_⟩
    · rw [hid', hid, hruleId]
    · rw [haccountId', haccountId, haccount]
  listed := by
    obtain ⟨message, hmem, hid⟩ := hlinked.listed
    rw [haccount, hmessage]
    exact ⟨message, hlisted hmem, hid⟩

theorem mem_withStatus {id : String} {status : CandidateStatus} {now : Int} {db : Database} :
    row ∈ (withStatus id status now db).emailCandidates.rows ↔
      ∃ before ∈ db.emailCandidates.rows,
        row = if before.id = id then setStatus status now before else before := by
  unfold withStatus
  rw [Table.rows_modify, List.mem_map]
  constructor <;> exact fun ⟨before, hmem, heq⟩ => ⟨before, hmem, heq.symm⟩

/-- Writing a status keeps the links. -/
theorem AllLinked.withStatus (hlinked : AllLinked server) {id : String} {status : CandidateStatus}
    {now : Int} {db : Database} {emailAccountId : String} (calls : List ActionCall)
    (hrefreshes : RefreshesToken emailAccountId server.db db) :
    AllLinked { server with db := withStatus id status now db, calls } := by
  intro row hrow
  obtain ⟨before, hbefore, heq⟩ := mem_withStatus.mp hrow
  rw [hrefreshes.emailCandidates] at hbefore
  have hkept : ∀ rule ∈ server.db.emailRules.rows, rule.id = before.ruleId →
      rule.emailAccountId = before.emailAccountId → ∃ rule' ∈ db.emailRules.rows,
        rule'.id = rule.id ∧ rule'.emailAccountId = rule.emailAccountId :=
    fun rule hrule _ _ => ⟨rule, hrefreshes.emailRules ▸ hrule, rfl, rfl⟩
  by_cases hid : before.id = id
  · rw [heq, if_pos hid]
    exact (hlinked before hbefore).mono hkept (List.Subset.refl _) rfl rfl rfl
  · rw [heq, if_neg hid]
    exact (hlinked before hbefore).mono hkept (List.Subset.refl _) rfl rfl rfl

theorem AllLinked.effect {event : MailEvent R} (hlinked : AllLinked server)
    (heffect : Effect unicode server event server') : AllLinked server' := by
  intro row hrow
  have hsame : ∀ rule ∈ server.db.emailRules.rows, rule.id = row.ruleId →
      rule.emailAccountId = row.emailAccountId → ∃ rule' ∈ server.db.emailRules.rows,
        rule'.id = rule.id ∧ rule'.emailAccountId = rule.emailAccountId :=
    fun rule hrule _ _ => ⟨rule, hrule, rfl, rfl⟩
  have hrefl : server.listed ⊆ server.listed := List.Subset.refl _
  cases heffect with
  | nothing => exact hlinked row hrow
  | connected => exact (hlinked row hrow).mono hsame hrefl rfl rfl rfl
  | disconnected account hfind huser =>
      obtain ⟨hrow, hne, -⟩ := Database.mem_deleteEmailAccount_candidates.mp hrow
      refine (hlinked row hrow).mono (fun rule hrule _ haccount => ?_) hrefl rfl rfl rfl
      refine ⟨rule, Database.mem_deleteEmailAccount_rules.mpr ⟨hrule, ?_⟩, rfl, rfl⟩
      rw [haccount]
      exact hne
  | ruleCreated rule db hcreates =>
      replace hrow : row ∈ db.emailCandidates.rows := hrow
      rw [hcreates.emailCandidates] at hrow
      refine (hlinked row hrow).mono (fun rule hrule _ _ => ?_) hrefl rfl rfl rfl
      refine ⟨rule, ?_, rfl, rfl⟩
      show rule ∈ db.emailRules.rows
      rw [hcreates.rules]
      exact List.mem_append_left _ hrule
  | @ruleUpdated _ _ id _ _ db hupdates =>
      replace hrow : row ∈ db.emailCandidates.rows := hrow
      rw [hupdates.emailCandidates] at hrow
      obtain ⟨changes, -, hrules⟩ := hupdates.rules
      refine (hlinked row hrow).mono (fun rule hrule _ _ => ?_) hrefl rfl rfl rfl
      refine ⟨if rule.id = id then changes.apply rule else rule, ?_, ?_⟩
      · show _ ∈ db.emailRules.rows
        rw [hrules, Table.rows_modify]
        exact List.mem_map_of_mem hrule
      · split <;> exact ⟨rfl, rfl⟩
  | ruleRemoved rule hfind howns =>
      obtain ⟨hrow, hne⟩ := Database.mem_deleteRule_candidates.mp hrow
      refine (hlinked row hrow).mono (fun rule hrule hid _ => ?_) hrefl rfl rfl rfl
      refine ⟨rule, Database.mem_deleteRule_rules.mpr ⟨hrule, ?_⟩, rfl, rfl⟩
      rw [hid]
      exact hne
  | scanned _ hscan hscans =>
      rcases hscans.added row hrow with hold | ⟨-, rule, hrule, message, hlisted, -, hid, hmessage⟩
      · refine (hlinked row hold).mono (fun rule hrule _ _ => ?_) hscans.listed.subset rfl rfl rfl
        rw [hscans.rules]
        exact ⟨rule, hrule, rfl, rfl⟩
      · obtain ⟨hrule, haccount, -⟩ := mem_activeRules_iff.mp hrule
        exact ⟨⟨rule.rule, hrule, hid.symm, haccount⟩, message, hlisted, hmessage.symm⟩
  | failed owned action db howned haction hrefreshes =>
      replace hrow : row ∈ db.emailCandidates.rows := hrow
      rw [hrefreshes.emailCandidates] at hrow
      refine (hlinked row hrow).mono (fun rule hrule _ _ => ?_) hrefl rfl rfl rfl
      exact ⟨rule, hrefreshes.emailRules ▸ hrule, rfl, rfl⟩
  | approved owned db howned hrefreshes => exact hlinked.withStatus _ hrefreshes row hrow
  | excluded owned howned =>
      exact hlinked.withStatus server.calls (RefreshesToken.refl "" server.db) row hrow

end Links

/-! ## Who makes a call -/

/-- The action of a rule with the action type, when it has one. -/
def ActionFor (actionType : String) (action : MailAction) : Prop :=
  actionType = "delete_candidate" ∧ action = .delete ∨
    actionType = "spam_candidate" ∧ action = .spam

theorem mailActionOf_eq_some_iff {actionType : String} {action : MailAction} :
    mailActionOf actionType = some action ↔ ActionFor actionType action := by
  unfold mailActionOf ActionFor
  by_cases hdelete : actionType = "delete_candidate"
  · simp [hdelete, eq_comm]
  · by_cases hspam : actionType = "spam_candidate"
    · simp [hspam, eq_comm]
    · simp [hdelete, hspam]

section Calls

variable (unicode : UnicodeData)

/-- The calls made while a request is handled. -/
def newCalls (server : MailServer) (event : MailEvent R) : List ActionCall :=
  (step unicode server event).calls.drop server.calls.length

/-- A candidate that the owner of the mailbox approves, when the call is made. -/
structure CallFor (server : MailServer) (userId : String) (candidate : EmailCandidate)
    (call : ActionCall) : Prop where
  owner : server.db.ownsEmailAccount userId call.emailAccountId = true
  emailAccountId : candidate.emailAccountId = call.emailAccountId
  externalMessageId : candidate.externalMessageId = call.externalMessageId
  listed : ∃ message, (call.emailAccountId, message) ∈ server.listed ∧
    message.externalMessageId = call.externalMessageId
  action : ∃ rule, server.db.emailRules.find? candidate.ruleId = some rule ∧
    ActionFor rule.actionType call.action

/-- The request is an approval that makes the call. -/
def Makes (server : MailServer) (event : MailEvent R) (call : ActionCall) : Prop :=
  ∃ userId id providers candidate, event.request = .approve userId id providers ∧
    server.db.emailCandidates.find? id = some candidate ∧ CallFor server userId candidate call

/-- The request is the approval that gave the candidate its status, after the
call that its rule asks for. -/
def ApprovedBy (server : MailServer) (event : MailEvent R) (row : EmailCandidate) : Prop :=
  ∃ userId providers candidate rule, event.request = .approve userId row.id providers ∧
    server.db.emailCandidates.find? row.id = some candidate ∧
    row = setStatus .APPROVED event.now candidate ∧
    server.db.emailRules.find? row.ruleId = some rule ∧
    ∀ action, ActionFor rule.actionType action → newCalls unicode server event =
      [⟨row.emailAccountId, row.externalMessageId, action, true⟩]

variable {unicode} {server server' : MailServer} {event : MailEvent R}

theorem callFor_of_owned {userId id : String} {owned : CandidateWithRelations}
    (hlinked : AllLinked server) (howned : Owned userId id server.db owned) {action : MailAction}
    (haction : mailActionOf owned.rule.actionType = some action) (succeeded : Bool) :
    CallFor server userId owned.candidate (callOf owned.candidate succeeded action) where
  owner := howned.owner
  emailAccountId := rfl
  externalMessageId := rfl
  listed := (hlinked owned.candidate (Table.find?_eq_some_iff.mp howned.candidate).1).listed
  action := ⟨owned.rule, howned.rule, mailActionOf_eq_some_iff.mp haction⟩

/-- The history of calls grows by calls that the request makes. -/
theorem calls_effect (hlinked : AllLinked server) (heffect : Effect unicode server event server') :
    ∃ made, server'.calls = server.calls ++ made ∧ (∀ call ∈ made, Makes server event call) ∧
      ∀ call ∈ made, call.succeeded = false →
        server'.db.emailCandidates = server.db.emailCandidates := by
  cases heffect with
  | failed owned action db howned haction hrefreshes =>
      refine ⟨_, rfl, ?_, fun _ _ _ => ?_⟩
      · intro call hcall
        rw [List.mem_singleton.mp hcall]
        exact ⟨_, _, _, owned.candidate, rfl, howned.candidate,
          callFor_of_owned hlinked howned haction false⟩
      · exact hrefreshes.emailCandidates
  | approved owned db howned hrefreshes =>
      refine ⟨_, rfl, ?_, ?_⟩
      · intro call hcall
        obtain ⟨action, haction, rfl⟩ := List.mem_map.mp hcall
        exact ⟨_, _, _, owned.candidate, rfl, howned.candidate,
          callFor_of_owned hlinked howned (Option.mem_toList.mp haction) true⟩
      · intro call hcall hfailed
        obtain ⟨action, -, rfl⟩ := List.mem_map.mp hcall
        contradiction
  | scanned _ hscan hscans => exact ⟨[], by rw [hscans.calls, List.append_nil], by simp, by simp⟩
  | _ => exact ⟨[], (List.append_nil _).symm, by simp, by simp⟩

theorem calls_step (hlinked : AllLinked server) (event : MailEvent R) :
    (step unicode server event).calls = server.calls ++ newCalls unicode server event ∧
      (∀ call ∈ newCalls unicode server event, Makes server event call) ∧
      ∀ call ∈ newCalls unicode server event, call.succeeded = false →
        (step unicode server event).db.emailCandidates = server.db.emailCandidates := by
  obtain ⟨made, hcalls, hmade, hfailed⟩ := calls_effect hlinked (step_effect unicode server event)
  have hnew : newCalls unicode server event = made := by
    rw [newCalls, hcalls, List.drop_left]
  rw [hnew]
  exact ⟨hcalls, hmade, hfailed⟩

/-- A candidate that is approved now was approved before, or is by this request. -/
theorem approved_step {row : EmailCandidate}
    (hrow : row ∈ (step unicode server event).db.emailCandidates.rows)
    (hstatus : row.status = .APPROVED) :
    row ∈ server.db.emailCandidates.rows ∨ ApprovedBy unicode server event row := by
  have heffect := step_effect unicode server event
  have hcalls : newCalls unicode server event =
    (step unicode server event).calls.drop server.calls.length := rfl
  generalize hserver' : step unicode server event = server' at hrow heffect hcalls
  cases heffect with
  | nothing => exact .inl hrow
  | connected => exact .inl hrow
  | disconnected => exact .inl (Database.mem_deleteEmailAccount_candidates.mp hrow).1
  | ruleCreated rule db hcreates =>
      replace hrow : row ∈ db.emailCandidates.rows := hrow
      rw [hcreates.emailCandidates] at hrow
      exact .inl hrow
  | ruleUpdated db hupdates =>
      replace hrow : row ∈ db.emailCandidates.rows := hrow
      rw [hupdates.emailCandidates] at hrow
      exact .inl hrow
  | ruleRemoved => exact .inl (Database.mem_deleteRule_candidates.mp hrow).1
  | scanned _ hscan hscans =>
      rcases hscans.added row hrow with hold | ⟨hpending, -⟩
      · exact .inl hold
      · -- A scan adds candidates as PENDING only.
        rw [hpending] at hstatus
        contradiction
  | failed owned action db howned haction hrefreshes =>
      replace hrow : row ∈ db.emailCandidates.rows := hrow
      rw [hrefreshes.emailCandidates] at hrow
      exact .inl hrow
  | @approved now userId id providers owned db howned hrefreshes =>
      obtain ⟨before, hbefore, heq⟩ := mem_withStatus.mp hrow
      rw [hrefreshes.emailCandidates] at hbefore
      by_cases hid : before.id = id
      · obtain ⟨hmem, hkey⟩ := Table.find?_eq_some_iff.mp howned.candidate
        have hcandidate : before = owned.candidate :=
          server.db.emailCandidates.eq_of_key_eq hbefore hmem (hid.trans hkey.symm)
        rw [if_pos hid, hcandidate] at heq
        have hrowId : row.id = id := by rw [heq]; exact hkey
        refine .inr ⟨userId, providers, owned.candidate, owned.rule, by rw [hrowId], ?_, heq, ?_, ?_⟩
        · rw [hrowId]
          exact howned.candidate
        · rw [heq]
          exact howned.rule
        · intro action haction
          rw [hcalls, mailActionOf_eq_some_iff.mpr haction, heq]
          exact List.drop_left
      · rw [if_neg hid] at heq
        exact .inl (heq ▸ hbefore)
  | excluded owned howned =>
      obtain ⟨before, hbefore, heq⟩ := mem_withStatus.mp hrow
      split at heq
      · rw [heq] at hstatus
        contradiction
      · exact .inl (heq ▸ hbefore)

end Calls

/-! ## Every run -/

section Runs

variable (unicode : UnicodeData) (start : MailServer) (events : List (MailEvent R))

/-- The server after the requests. -/
def after : MailServer := run (step unicode) start events

/-- What holds after the requests, and of every request among them. -/
structure CallsAreApproved : Prop where
  linked : ∀ row ∈ (after unicode start events).db.emailCandidates.rows,
    ∃ rule, (after unicode start events).db.emailRules.find? row.ruleId = some rule ∧
      rule.emailAccountId = row.emailAccountId
  called : ∀ call ∈ (after unicode start events).calls, ∃ before event later,
    events = before ++ event :: later ∧ call ∈ newCalls unicode (after unicode start before) event
  made : ∀ before event later, events = before ++ event :: later →
    ∀ call ∈ newCalls unicode (after unicode start before) event,
      Makes (after unicode start before) event call ∧ (call.succeeded = false →
        (after unicode start (before ++ [event])).db.emailCandidates =
          (after unicode start before).db.emailCandidates)
  approved : ∀ row ∈ (after unicode start events).db.emailCandidates.rows,
    row.status = .APPROVED → ∃ before event later, events = before ++ event :: later ∧
      ApprovedBy unicode (after unicode start before) event row

end Runs

section After

variable {unicode : UnicodeData} {start : MailServer} {events : List (MailEvent R)}

theorem after_concat (event : MailEvent R) : after unicode start (events ++ [event]) =
    step unicode (after unicode start events) event :=
  run_concat (step unicode) start events event

/-- A server without mail has no candidates. -/
theorem NoMail.candidates {start : MailServer} (hstart : NoMail start) {row : EmailCandidate} :
    row ∉ start.db.emailCandidates.rows := by
  rw [hstart.emailCandidates]
  exact List.not_mem_nil

theorem allLinked_after (hstart : NoMail start) (events : List (MailEvent R)) :
    AllLinked (after unicode start events) := by
  induction events using List.reverseRecOn with
  | nil => exact fun row hrow => absurd hrow hstart.candidates
  | append_singleton events event ih =>
      rw [after_concat]
      exact ih.effect (step_effect unicode _ event)

theorem calls_after (hstart : NoMail start) :
    ∀ call ∈ (after unicode start events).calls, ∃ before event later,
      events = before ++ event :: later ∧
        call ∈ newCalls unicode (after unicode start before) event := by
  intro call hcall
  apply exists_event_of_run (call ∈ ·.calls)
    (fun server event => call ∈ newCalls unicode server event) _ _ hcall
  · rw [hstart.calls]
    exact List.not_mem_nil
  · intro events event hcall
    replace hcall : call ∈ (step unicode (after unicode start events) event).calls := hcall
    rw [(calls_step (allLinked_after hstart events) event).1] at hcall
    exact List.mem_append.mp hcall

theorem approved_after (hstart : NoMail start) :
    ∀ row ∈ (after unicode start events).db.emailCandidates.rows, row.status = .APPROVED →
      ∃ before event later, events = before ++ event :: later ∧
        ApprovedBy unicode (after unicode start before) event row := by
  intro row hrow hstatus
  apply exists_event_of_run (row ∈ ·.db.emailCandidates.rows)
    (fun server event => ApprovedBy unicode server event row) hstart.candidates _ hrow
  intro events event hrow
  exact approved_step hrow hstatus

/-- Whatever is requested of a server without mail, every candidate is in the
mailbox of its rule, and every call is an approval by the owner. -/
theorem callsAreApproved (hstart : NoMail start) (events : List (MailEvent R)) :
    CallsAreApproved unicode start events where
  linked row hrow := by
    obtain ⟨rule, hrule, hid, haccount⟩ := (allLinked_after hstart events row hrow).rule
    exact ⟨rule, Table.find?_eq_some_iff.mpr ⟨hrule, hid⟩, haccount⟩
  called := calls_after hstart
  made before event later _ call hcall := by
    obtain ⟨-, hmakes, hfailed⟩ :=
      @calls_step _ unicode _ (allLinked_after hstart before) event
    refine ⟨hmakes call hcall, fun hcallFailed => ?_⟩
    rw [after_concat]
    exact hfailed call hcall hcallFailed
  approved := approved_after hstart

end After

/-! ## A mail that is scanned and deleted -/

namespace OneMessage

open CandidatesService.OneMessage

/-- One user, who has connected nothing. -/
def noMail : MailServer :=
  ⟨{ Database.empty with users := CandidatesService.OneMessage.db.users }, [], []⟩

def providers : LawfulRegistry := ⟨gmailRegistry (environment []), gmailRegistry_lawful _⟩

def ruleBody (actionType : String) : JsObject :=
  [("emailAccountId", .str "e"), ("actionType", .str actionType),
    ("conditions", .arr [.obj [("conditionType", .str "has_attachment"),
      ("conditionValue", .obj [("equals", .bool false)])]])]

/-- The user connects the mailbox, adds a rule for all mail in it, and scans. -/
def scanned (actionType : String) : List (MailEvent symbolicRuntime) :=
  [⟨0, .connect "u" ⟨"me@example.com", "access", "refresh", none⟩ tokenKey ⟨"e", "iv", "iv"⟩⟩,
    ⟨0, .createRule "u" (ruleBody actionType) ⟨"r", fun _ => "c"⟩⟩,
    ⟨0, .scan "u" providers .none freshId⟩]

end OneMessage

open OneMessage CandidatesService.OneMessage in
theorem callsAreApproved_example :
    CallsAreApproved asciiData noMail (scanned "delete_candidate" ++
        [⟨1, .approve "u" (freshId 0 0 0) providers⟩]) ∧
      (after asciiData noMail (scanned "delete_candidate" ++
        [⟨1, .approve "u" (freshId 0 0 0) providers⟩])).calls = [⟨"e", "m", .delete, true⟩] :=
  ⟨callsAreApproved ⟨rfl, rfl, rfl, rfl, rfl⟩ _, by decide +kernel⟩

end MailServer

end MyAccountController
