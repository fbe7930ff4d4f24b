import MyAccountController.Mail.MailboxCalls

/-! # Important mail

A scan judges each message against each rule on its own. A message that an
important rule accepts is therefore proposed for deletion as well when a delete
or spam rule accepts it too, and an approval then removes it from the mailbox.
-/

namespace MyAccountController

open Foundation CandidatesService

variable {R : Runtime}

namespace MailServer

/-- Rules of the action type remove mail from the mailbox. -/
def Destructive (actionType : String) : Prop := ∃ action, ActionFor actionType action

section Important

variable (unicode : UnicodeData) (server : MailServer) (emailAccountId : String)
  (message : RawMailMessage)

/-- An active rule of the mailbox accepts the message listed from it. -/
structure Accepted (rule : RuleWithConditions) : Prop where
  listed : (emailAccountId, message) ∈ server.listed
  active : rule ∈ server.db.activeRules emailAccountId
  accepted : RuleMatcher.messageMatchesRule unicode message rule = .ok true

/-- An important rule accepts the message. -/
def Important : Prop :=
  ∃ rule, Accepted unicode server emailAccountId message rule ∧
    rule.rule.actionType = "important"

/-- No candidate proposes to remove the message, and no call did. -/
structure Spared : Prop where
  candidates : ∀ row ∈ server.db.emailCandidates.rows, row.emailAccountId = emailAccountId →
    row.externalMessageId = message.externalMessageId →
      ∀ rule, server.db.emailRules.find? row.ruleId = some rule → ¬ Destructive rule.actionType
  calls : ∀ call ∈ server.calls, call.emailAccountId = emailAccountId →
    call.externalMessageId ≠ message.externalMessageId

/-- Every important message is spared. -/
def SparesImportant : Prop :=
  ∀ emailAccountId message, Important unicode server emailAccountId message →
    Spared server emailAccountId message

/-- No listed message is accepted both by an important rule and by a delete or
spam rule. Messages of one id are the same mail. -/
def RulesDisagree : Prop :=
  ∀ emailAccountId message message' rule rule',
    Accepted unicode server emailAccountId message rule → rule.rule.actionType = "important" →
    Accepted unicode server emailAccountId message' rule' → Destructive rule'.rule.actionType →
      message.externalMessageId ≠ message'.externalMessageId

end Important

section Runs

variable {unicode : UnicodeData} {server server' : MailServer}

/-- Every candidate and every call goes back to an accepted message. -/
structure FromAccepted (unicode : UnicodeData) (server : MailServer) : Prop where
  candidates : ∀ row ∈ server.db.emailCandidates.rows, ∃ message rule,
    Accepted unicode server row.emailAccountId message rule ∧ rule.rule.id = row.ruleId ∧
      message.externalMessageId = row.externalMessageId
  calls : ∀ call ∈ server.calls, ∃ message rule,
    Accepted unicode server call.emailAccountId message rule ∧
      Destructive rule.rule.actionType ∧ message.externalMessageId = call.externalMessageId

/-- The rules and their conditions are the same, and nothing is unlisted. -/
structure SameRules (server server' : MailServer) : Prop where
  rules : server'.db.emailRules = server.db.emailRules
  conditions : server'.db.emailRuleConditions = server.db.emailRuleConditions
  listed : server.listed ⊆ server'.listed

theorem Accepted.mono {emailAccountId : String} {message : RawMailMessage}
    {rule : RuleWithConditions} (hsame : SameRules server server')
    (haccepted : Accepted unicode server emailAccountId message rule) :
    Accepted unicode server' emailAccountId message rule where
  listed := hsame.listed haccepted.listed
  active := by
    have hrules : server'.db.activeRules emailAccountId = server.db.activeRules emailAccountId := by
      unfold Database.activeRules Database.withConditions
      rw [hsame.rules, hsame.conditions]
    rw [hrules]
    exact haccepted.active
  accepted := haccepted.accepted

/-- A candidate that keeps its rule, mailbox and message goes back to the same. -/
theorem FromAccepted.candidate (hfrom : FromAccepted unicode server)
    (hsame : SameRules server server') {row before : EmailCandidate}
    (hbefore : before ∈ server.db.emailCandidates.rows) (hruleId : row.ruleId = before.ruleId)
    (haccount : row.emailAccountId = before.emailAccountId)
    (hmessage : row.externalMessageId = before.externalMessageId) :
    ∃ message rule, Accepted unicode server' row.emailAccountId message rule ∧
      rule.rule.id = row.ruleId ∧ message.externalMessageId = row.externalMessageId := by
  obtain ⟨message, rule, haccepted, hid, hmessageId⟩ := hfrom.candidates before hbefore
  rw [hruleId, haccount, hmessage]
  exact ⟨message, rule, haccepted.mono hsame, hid, hmessageId⟩

theorem FromAccepted.call (hfrom : FromAccepted unicode server) (hsame : SameRules server server')
    {call : ActionCall} (hcall : call ∈ server.calls) :
    ∃ message rule, Accepted unicode server' call.emailAccountId message rule ∧
      Destructive rule.rule.actionType ∧ message.externalMessageId = call.externalMessageId := by
  obtain ⟨message, rule, haccepted, hrest⟩ := hfrom.calls call hcall
  exact ⟨message, rule, haccepted.mono hsame, hrest⟩

/-- The call of an approval goes back to what the candidate goes back to. -/
theorem FromAccepted.newCall (hfrom : FromAccepted unicode server)
    (hsame : SameRules server server') {userId id : String} {owned : CandidateWithRelations}
    (howned : Owned userId id server.db owned) {action : MailAction}
    (haction : mailActionOf owned.rule.actionType = some action) (succeeded : Bool) :
    ∃ message rule, Accepted unicode server'
        (callOf owned.candidate succeeded action).emailAccountId message rule ∧
      Destructive rule.rule.actionType ∧ message.externalMessageId =
        (callOf owned.candidate succeeded action).externalMessageId := by
  obtain ⟨message, rule, haccepted, hid, hmessage⟩ :=
    hfrom.candidates owned.candidate (Table.find?_eq_some_iff.mp howned.candidate).1
  obtain ⟨hrule, -⟩ := mem_activeRules_iff.mp haccepted.active
  obtain ⟨howns, hkey⟩ := Table.find?_eq_some_iff.mp howned.rule
  have heq : rule.rule = owned.rule :=
    server.db.emailRules.eq_of_key_eq hrule howns (hid.trans hkey.symm)
  refine ⟨message, rule, haccepted.mono hsame, ⟨action, ?_⟩, hmessage⟩
  rw [heq]
  exact mailActionOf_eq_some_iff.mp haction

theorem FromAccepted.effect {event : MailEvent R} (hfrom : FromAccepted unicode server)
    (hkeeps : event.keepsRules = true)
    (heffect : Effect unicode server event server') :
    SameRules server server' ∧ FromAccepted unicode server' := by
  cases heffect with
  | nothing => exact ⟨⟨rfl, rfl, List.Subset.refl _⟩, hfrom⟩
  | connected => contradiction
  | disconnected => contradiction
  | ruleCreated => contradiction
  | ruleUpdated => contradiction
  | ruleRemoved => contradiction
  | scanned _ hscan hscans =>
      have hsame : SameRules server server' :=
        ⟨hscans.rules, by rw [hscans.elsewhere], hscans.listed.subset⟩
      refine ⟨hsame, fun row hrow => ?_, fun call hcall => ?_⟩
      · rcases hscans.added row hrow with hold |
          ⟨-, rule, hrule, message, hlisted, hmatches, hid, hmessage⟩
        · exact hfrom.candidate hsame hold rfl rfl rfl
        · exact ⟨message, rule, ⟨hlisted, hrule, hmatches⟩, hid.symm, hmessage.symm⟩
      · rw [hscans.calls] at hcall
        exact hfrom.call hsame hcall
  | failed owned action db howned haction hrefreshes =>
      have hsame : SameRules server { server with
          db, calls := server.calls ++ [callOf owned.candidate false action] } := by
        exact ⟨hrefreshes.emailRules, hrefreshes.emailRuleConditions, List.Subset.refl _⟩
      refine ⟨hsame, fun row hrow => ?_, fun call hcall => ?_⟩
      · replace hrow : row ∈ db.emailCandidates.rows := hrow
        rw [hrefreshes.emailCandidates] at hrow
        exact hfrom.candidate hsame hrow rfl rfl rfl
      · rcases List.mem_append.mp hcall with hold | hnew
        · exact hfrom.call hsame hold
        · rw [List.mem_singleton.mp hnew]
          exact hfrom.newCall hsame howned haction false
  | @approved now userId id providers owned db howned hrefreshes =>
      have hsame : SameRules server { server with
          db := withStatus id .APPROVED now db
          calls := server.calls ++
            (mailActionOf owned.rule.actionType).toList.map (callOf owned.candidate true) } := by
        exact ⟨hrefreshes.emailRules, hrefreshes.emailRuleConditions, List.Subset.refl _⟩
      refine ⟨hsame, fun row hrow => ?_, fun call hcall => ?_⟩
      · obtain ⟨before, hbefore, heq⟩ := mem_withStatus.mp hrow
        rw [hrefreshes.emailCandidates] at hbefore
        split at heq <;> rw [heq] <;> exact hfrom.candidate hsame hbefore rfl rfl rfl
      · rcases List.mem_append.mp hcall with hold | hnew
        · exact hfrom.call hsame hold
        · obtain ⟨action, haction, rfl⟩ := List.mem_map.mp hnew
          exact hfrom.newCall hsame howned (Option.mem_toList.mp haction) true
  | @excluded now userId id owned howned =>
      have hsame : SameRules server
          { server with db := withStatus id .EXCLUDED now server.db } :=
        ⟨rfl, rfl, List.Subset.refl _⟩
      refine ⟨hsame, fun row hrow => ?_, fun call hcall => hfrom.call hsame hcall⟩
      obtain ⟨before, hbefore, heq⟩ := mem_withStatus.mp hrow
      split at heq <;> rw [heq] <;> exact hfrom.candidate hsame hbefore rfl rfl rfl

theorem fromAccepted_after {start : MailServer} (hstart : FromAccepted unicode start)
    {events : List (MailEvent R)} (hkeeps : ∀ event ∈ events, event.keepsRules = true) :
    FromAccepted unicode (after unicode start events) := by
  induction events using List.reverseRecOn with
  | nil => exact hstart
  | append_singleton events event ih =>
      have hbefore := ih fun other hother => hkeeps other (List.mem_append_left _ hother)
      rw [after_concat]
      exact (hbefore.effect (hkeeps event (List.mem_append_right _ (List.mem_singleton_self _)))
        (step_effect unicode _ event)).2

/-- What goes back to accepted messages spares the important ones, if the rules
disagree on every message. -/
theorem FromAccepted.spares (hfrom : FromAccepted unicode server)
    (hdisagree : RulesDisagree unicode server) : SparesImportant unicode server := by
  rintro emailAccountId message ⟨rule, haccepted, himportant⟩
  constructor
  · rintro row hrow rfl hid rule' hfind hdestructive
    obtain ⟨message', accepted', haccepted', hruleId, hmessage⟩ := hfrom.candidates row hrow
    obtain ⟨hstored, -⟩ := mem_activeRules_iff.mp haccepted'.active
    obtain ⟨hmem, hkey⟩ := Table.find?_eq_some_iff.mp hfind
    have heq : accepted'.rule = rule' :=
      server.db.emailRules.eq_of_key_eq hstored hmem (hruleId.trans hkey.symm)
    apply hdisagree row.emailAccountId message message' rule accepted' haccepted himportant
      haccepted' (heq ▸ hdestructive)
    rw [hmessage, hid]
  · rintro call hcall rfl hid
    obtain ⟨message', accepted', haccepted', hdestructive, hmessage⟩ := hfrom.calls call hcall
    apply hdisagree call.emailAccountId message message' rule accepted' haccepted himportant
      haccepted' hdestructive
    rw [hmessage, hid]

/-- Scans, approvals and exclusions spare the important mail on which no delete
or spam rule agrees. -/
theorem sparesImportant {start : MailServer} (hcandidates : start.db.emailCandidates.rows = [])
    (hcalls : start.calls = []) {events : List (MailEvent R)}
    (hkeeps : ∀ event ∈ events, event.keepsRules = true)
    (hdisagree : RulesDisagree unicode (after unicode start events)) :
    SparesImportant unicode (after unicode start events) := by
  have hstart : FromAccepted unicode start := by
    constructor
    · rw [hcandidates]
      simp
    · rw [hcalls]
      simp
  exact (fromAccepted_after hstart hkeeps).spares hdisagree

end Runs

namespace OneMessage

open CandidatesService.OneMessage

/-- A delete rule and an important rule, with a condition on attachments each. -/
def twoRules (deletesAttachments : Bool) : MailServer :=
  ⟨{ CandidatesService.OneMessage.db with
    emailRules := ⟨[rule "r" "delete_candidate", rule "i" "important"], by decide⟩
    emailRuleConditions := ⟨[⟨"c", "r", "has_attachment",
      .obj [("equals", .bool deletesAttachments)]⟩, condition "d" "i"],
        by cases deletesAttachments <;> decide⟩ },
    [], []⟩

/-- Scan, then approve the candidate of the rule at the position. -/
def scanThenApprove (rule : Nat) : List (MailEvent symbolicRuntime) :=
  [⟨0, .scan "u" providers .none freshId⟩, ⟨1, .approve "u" (freshId 0 0 rule) providers⟩]

def listedMessage : RawMailMessage := ⟨"m", "", "", "", some 1000, false⟩

end OneMessage

open OneMessage in
/-- Both rules accept the mail: it is proposed for deletion, and deleted. -/
theorem not_sparesImportant :
    (∀ event ∈ scanThenApprove 0, event.keepsRules = true) ∧
      (after asciiData (twoRules false) (scanThenApprove 0)).calls = [⟨"e", "m", .delete, true⟩] ∧
      ¬ SparesImportant asciiData (after asciiData (twoRules false) (scanThenApprove 0)) := by
  have hcalls : (after asciiData (twoRules false) (scanThenApprove 0)).calls =
      [⟨"e", "m", .delete, true⟩] := by decide +kernel
  refine ⟨by decide, hcalls, fun hspares => ?_⟩
  have himportant : Important asciiData (after asciiData (twoRules false) (scanThenApprove 0)) "e"
      listedMessage := by
    refine ⟨Database.withConditions _ (CandidatesService.OneMessage.rule "i" "important"),
      ⟨?_, mem_activeRules_iff.mpr ⟨?_, rfl, rfl, rfl⟩, ?_⟩, rfl⟩ <;> decide +kernel
  refine (hspares "e" listedMessage himportant).calls ⟨"e", "m", .delete, true⟩ ?_ rfl rfl
  rw [hcalls]
  exact List.mem_singleton_self _

open OneMessage in
/-- The delete rule is for mail with attachments only; the candidate of the important rule is
approved. -/
theorem sparesImportant_example :
    (after asciiData (twoRules true) (scanThenApprove 1)).db.emailCandidates.rows.map
        (fun row => (row.ruleId, row.status)) = [("i", .APPROVED)] ∧
      SparesImportant asciiData (after asciiData (twoRules true) (scanThenApprove 1)) := by
  refine ⟨by decide +kernel, sparesImportant rfl rfl (by decide) ?_⟩
  intro emailAccountId message message' rule rule' _ _ haccepted' hdestructive
  have hlisted : (after asciiData (twoRules true) (scanThenApprove 1)).listed =
      [("e", listedMessage)] := by decide +kernel
  have hrules : (after asciiData (twoRules true) (scanThenApprove 1)).db.emailRules.rows =
      [CandidatesService.OneMessage.rule "r" "delete_candidate",
        CandidatesService.OneMessage.rule "i" "important"] := by decide +kernel
  have hpair := haccepted'.listed
  rw [hlisted] at hpair
  obtain ⟨-, rfl⟩ := Prod.mk.inj (List.mem_singleton.mp hpair)
  obtain ⟨hrule, -, -, hconditions⟩ := mem_activeRules_iff.mp haccepted'.active
  have hmatches := haccepted'.accepted
  rw [hrules] at hrule
  rcases List.mem_cons.mp hrule with hdelete | himportant
  · rw [hconditions, hdelete] at hmatches
    exact absurd hmatches (by decide +kernel)
  · rw [List.mem_singleton.mp himportant] at hdestructive
    obtain ⟨action, ⟨hdelete, -⟩ | ⟨hspam, -⟩⟩ := hdestructive <;> contradiction

end MailServer

end MyAccountController
