import MyAccountController.Mail.ShownActions

/-! # The count of important mail

The summary counts the approved candidates whose rule is important now. Which
action was taken on them was decided when they were approved. The two agree as
long as no rule with approved candidates becomes important, or ceases to be.
-/

namespace MyAccountController

open Foundation CandidatesService

variable {R : Runtime}

/-- The rule that the request edits. -/
def MailEvent.editedRule (event : MailEvent R) : Option String :=
  match event.request with
  | .updateRule _ id _ _ => some id
  | _ => none

namespace MailServer

/-- The server, and the action type of each candidate's rule when it was last approved. -/
structure ApprovalHistory where
  server : MailServer
  approvedAs : String → Option String

namespace ApprovalHistory

/-- The history after a request. -/
def step (unicode : UnicodeData) (history : ApprovalHistory) (event : MailEvent R) :
    ApprovalHistory where
  server := history.server.step unicode event
  approvedAs :=
    match event.request with
    | .approve userId id providers =>
        if (approve providers.val event.now userId id history.server).1.isOk then
          Function.update history.approvedAs id
            ((history.server.db.emailCandidates.find? id).bind fun row =>
              history.server.actionTypeOf row.ruleId)
        else history.approvedAs
    | _ => history.approvedAs

/-- No candidate has been approved yet. -/
def start (server : MailServer) : ApprovalHistory := ⟨server, fun _ => none⟩

/-- The summary of a user as the history tells it. -/
def importantSummary (history : ApprovalHistory) (userId : String) : List ImportantSummary :=
  (history.server.db.emailAccounts.rows.filter fun account => account.userId = userId).map
    fun account =>
      { emailAccountId := account.id
        displayName := account.displayName
        importantCount := history.server.db.emailCandidates.rows.countP fun row =>
          row.status = .APPROVED ∧ row.emailAccountId = account.id ∧
            history.approvedAs row.id = some "important" }

/-- Every user is shown the summary of the history. -/
def CountsApproved (history : ApprovalHistory) : Prop :=
  ∀ userId, (CandidatesService.importantSummary userId history.server.db).1 =
    .ok (history.importantSummary userId)

/-- The request gives no rule with approved candidates another standing. -/
def KeepsStanding (history : ApprovalHistory) (event : MailEvent R) : Prop :=
  ∀ id ∈ event.editedRule, ∀ given ∈ history.server.givenActionType id event,
    ∀ rule ∈ history.server.db.emailRules.find? id,
      (given = "important" ↔ rule.actionType = "important") ∨
        ∀ row ∈ history.server.db.emailCandidates.rows, row.ruleId = id → row.status ≠ .APPROVED

instance (history : ApprovalHistory) (event : MailEvent R) :
    Decidable (history.KeepsStanding event) := by
  unfold KeepsStanding
  infer_instance

end ApprovalHistory

section Steps

variable {unicode : UnicodeData} {history : ApprovalHistory} {event : MailEvent R}

/-- The rule of the id is important now. -/
def isImportant (server : MailServer) (ruleId : String) : Prop :=
  server.actionTypeOf ruleId = some "important"

/-- Each approved candidate was approved as its rule says now. -/
structure Agrees (history : ApprovalHistory) : Prop where
  linked : AllLinked history.server
  approved : ∀ row ∈ history.server.db.emailCandidates.rows, row.status = .APPROVED →
    (isImportant history.server row.ruleId ↔ history.approvedAs row.id = some "important")

theorem isImportant_congr {server server' : MailServer} {ruleId : String}
    (hsame : server'.db.emailRules.find? ruleId = server.db.emailRules.find? ruleId) :
    isImportant server' ruleId ↔ isImportant server ruleId := by
  unfold isImportant actionTypeOf
  rw [hsame]

/-- The standing of a rule with an approved candidate stays. -/
theorem isImportant_step (hlinked : AllLinked history.server)
    (hkeeps : history.KeepsStanding event) {row : EmailCandidate}
    (hbefore : row ∈ history.server.db.emailCandidates.rows)
    (hrow : row ∈ (history.server.step unicode event).db.emailCandidates.rows)
    (hstatus : row.status = .APPROVED) :
    isImportant (history.server.step unicode event) row.ruleId ↔
      isImportant history.server row.ruleId := by
  have heffect := step_effect unicode history.server event
  obtain ⟨⟨rule, hrule, hid, haccount⟩, -⟩ := hlinked row hbefore
  have hfind : history.server.db.emailRules.find? row.ruleId = some rule :=
    Table.find?_eq_some_iff.mpr ⟨hrule, hid⟩
  generalize hserver' : history.server.step unicode event = server' at heffect hrow ⊢
  cases heffect with
  | nothing => exact Iff.rfl
  | connected => exact Iff.rfl
  | disconnected account hfound huser =>
      apply isImportant_congr
      obtain ⟨-, hne, -⟩ := Database.mem_deleteEmailAccount_candidates.mp hrow
      rw [hfind]
      apply Table.find?_eq_some_iff.mpr
      refine ⟨Database.mem_deleteEmailAccount_rules.mpr ⟨hrule, ?_⟩, hid⟩
      rw [haccount]
      exact hne
  | ruleCreated created db hcreates =>
      apply isImportant_congr
      rw [hfind]
      apply Table.find?_eq_some_iff.mpr
      refine ⟨?_, hid⟩
      show rule ∈ db.emailRules.rows
      rw [hcreates.rules]
      exact List.mem_append_left _ hrule
  | @ruleUpdated now userId id data conditionId db hupdates =>
      -- The standing changes only while no candidate of the rule is approved.
      have htype := @actionTypeOf_step R unicode history.server
        ⟨now, .updateRule userId id data conditionId⟩ rfl row.ruleId
      have hbeforeType : history.server.actionTypeOf row.ruleId = some rule.actionType := by
        unfold actionTypeOf
        rw [hfind]
        rfl
      rw [isImportant, isImportant, ← hserver', htype, hbeforeType, Option.map_some]
      cases hgiven : givenActionType history.server row.ruleId
          (⟨now, .updateRule userId id data conditionId⟩ : MailEvent R) with
      | none => exact Iff.rfl
      | some given =>
          have hid : id = row.ruleId := by
            by_contra hne
            unfold givenActionType at hgiven
            dsimp only at hgiven
            rw [if_neg hne] at hgiven
            contradiction
          subst hid
          rcases hkeeps row.ruleId rfl given hgiven rule hfind with hsame | hnone
          · rw [Option.getD_some, Option.some.injEq, Option.some.injEq]
            exact hsame
          · exact absurd hstatus (hnone row hbefore rfl)
  | ruleRemoved removed hfound howns =>
      apply isImportant_congr
      obtain ⟨-, hne⟩ := Database.mem_deleteRule_candidates.mp hrow
      rw [hfind]
      apply Table.find?_eq_some_iff.mpr
      refine ⟨Database.mem_deleteRule_rules.mpr ⟨hrule, ?_⟩, hid⟩
      rw [hid]
      exact hne
  | scanned _ hscan hscans =>
      apply isImportant_congr
      rw [hscans.rules]
  | failed owned action db howned haction hrefreshes =>
      apply isImportant_congr
      exact congrArg (Table.find? · row.ruleId) hrefreshes.emailRules
  | approved owned db howned hrefreshes =>
      apply isImportant_congr
      exact congrArg (Table.find? · row.ruleId) hrefreshes.emailRules
  | excluded => exact Iff.rfl

/-- An approval keeps the rules, and a refused one the candidates. -/
theorem agrees_approve {now : Int} {userId id : String} {providers : LawfulRegistry}
    (hagrees : Agrees history) :
    Agrees (history.step unicode (⟨now, .approve userId id providers⟩ : MailEvent R)) := by
  refine ⟨hagrees.linked.effect (step_effect unicode history.server _), ?_⟩
  have hstep : history.server.step unicode (⟨now, .approve userId id providers⟩ : MailEvent R) =
      (approve providers.val now userId id history.server).2 := by
    unfold MailServer.step
    dsimp only [MailRequest.serve]
    rw [Handler.bind_pure_state]
  have happroval := @approve_run userId id now providers.val providers.property history.server
  unfold ApprovalHistory.step
  rw [hstep]
  dsimp only
  rcases hrun : approve providers.val now userId id history.server with ⟨result, server'⟩
  rw [hrun] at happroval
  cases happroval with
  | refused e => exact hagrees.approved
  | failed e owned action db howned haction hrefreshes =>
      -- The mail call failed after it may have refreshed the tokens; the status is not written.
      intro row hrow hstatus
      replace hrow : row ∈ db.emailCandidates.rows := hrow
      rw [hrefreshes.emailCandidates] at hrow
      refine Iff.trans (isImportant_congr ?_) (hagrees.approved row hrow hstatus)
      exact congrArg (Table.find? · row.ruleId) hrefreshes.emailRules
  | approved owned db howned hrefreshes =>
      intro row hrow hstatus
      obtain ⟨before, hbefore, heq⟩ := mem_withStatus.mp hrow
      rw [hrefreshes.emailCandidates] at hbefore
      refine Iff.trans
        (isImportant_congr (congrArg (Table.find? · row.ruleId) hrefreshes.emailRules)) ?_
      dsimp only
      rw [if_pos (by rfl)]
      by_cases hid : before.id = id
      · obtain ⟨hmem, hkey⟩ := Table.find?_eq_some_iff.mp howned.candidate
        have hcandidate : before = owned.candidate :=
          history.server.db.emailCandidates.eq_of_key_eq hbefore hmem (hid.trans hkey.symm)
        have hrowId : row.id = id := by
          rw [heq, if_pos hid]
          exact hid
        have hruleId : row.ruleId = owned.candidate.ruleId := by
          rw [heq, if_pos hid, hcandidate]
          rfl
        rw [hrowId, Function.update_self, howned.candidate, hruleId]
        exact Iff.rfl
      · rw [heq, if_neg hid, Function.update_of_ne hid]
        rw [heq, if_neg hid] at hstatus
        exact hagrees.approved before hbefore hstatus

/-- Every request keeps the agreement. -/
theorem agrees_step (hagrees : Agrees history) (hkeeps : history.KeepsStanding event) :
    Agrees (history.step unicode event) := by
  have hother : (∀ userId id providers, event.request ≠ .approve userId id providers) →
      (history.step unicode event).approvedAs = history.approvedAs →
        Agrees (history.step unicode event) := by
    intro hrequest hsame
    refine ⟨hagrees.linked.effect (step_effect unicode history.server _), ?_⟩
    intro row hrow hstatus
    rcases approved_step hrow hstatus with hbefore | ⟨userId, providers, _, _, happrove, -⟩
    · rw [hsame]
      exact Iff.trans (isImportant_step hagrees.linked hkeeps hbefore hrow hstatus)
        (hagrees.approved row hbefore hstatus)
    · exact absurd happrove (hrequest userId row.id providers)
  obtain ⟨now, request⟩ := event
  cases request with
  | approve userId id providers => exact agrees_approve hagrees
  | _ => exact hother (by simp) rfl

end Steps

/-! ## Every run -/

section Runs

variable {unicode : UnicodeData} {history : ApprovalHistory} {events : List (MailEvent R)}

theorem importantSummary_run (userId : String) (db : Database) :
    (importantSummary userId db).1 =
      .ok ((db.emailAccounts.rows.filter fun account => account.userId = userId).map
        fun account =>
          { emailAccountId := account.id
            displayName := account.displayName
            importantCount := db.emailCandidates.rows.countP fun row =>
              row.emailAccountId = account.id ∧ row.status = .APPROVED ∧
                (db.emailRules.find? row.ruleId).any (fun rule => rule.actionType = "important") ∧
                db.ownsEmailAccount userId row.emailAccountId }) := by
  unfold importantSummary
  rw [Model.findMany_bind, Handler.state_bind, Model.findMany_bind]
  simp only [Handler.pure_run, List.countP_filter, Bool.decide_and]
  rfl

/-- Where the rules agree with the approvals, the summary is that of the history. -/
theorem Agrees.counted (hagrees : Agrees history) : history.CountsApproved := by
  intro userId
  rw [importantSummary_run]
  apply congrArg Except.ok
  apply List.map_congr_left
  intro account haccount
  obtain ⟨hstored, huser⟩ := List.mem_filter.mp haccount
  have hfind : history.server.db.emailAccounts.find? account.id = some account :=
    Table.find?_eq_some_iff.mpr ⟨hstored, rfl⟩
  have howns : history.server.db.ownsEmailAccount userId account.id = true := by
    unfold Database.ownsEmailAccount
    rw [hfind]
    exact huser
  congr 1
  apply List.countP_congr
  intro row hrow
  rw [decide_eq_true_iff, decide_eq_true_iff]
  have hstanding : (history.server.db.emailRules.find? row.ruleId).any
      (fun rule => rule.actionType = "important") = true ↔
        isImportant history.server row.ruleId := by
    unfold isImportant actionTypeOf
    cases history.server.db.emailRules.find? row.ruleId <;> simp
  rw [hstanding]
  constructor
  · rintro ⟨haccountId, hstatus, himportant, -⟩
    exact ⟨hstatus, haccountId, (hagrees.approved row hrow hstatus).mp himportant⟩
  · rintro ⟨hstatus, haccountId, happroved⟩
    refine ⟨haccountId, hstatus, (hagrees.approved row hrow hstatus).mpr happroved, ?_⟩
    rw [haccountId]
    exact howns

/-- The summary counts what was approved as important, in every run in which no rule
with approved candidates is given another standing. -/
theorem countsApproved {server : MailServer} (hstart : NoMail server)
    (halong : Along (ApprovalHistory.step unicode) ApprovalHistory.KeepsStanding
      (.start server) events) :
    (run (ApprovalHistory.step unicode) (.start server) events).CountsApproved := by
  have hinit : Agrees (.start server) := by
    refine ⟨@allLinked_after R unicode server hstart [], fun row hrow => ?_⟩
    rw [show (ApprovalHistory.start server).server.db.emailCandidates.rows = [] from
      hstart.emailCandidates] at hrow
    contradiction
  have hagrees : Agrees (run (ApprovalHistory.step unicode) (.start server) events) :=
    run_invariant (fun _ _ hagrees hkeeps => agrees_step hagrees hkeeps) hinit halong
  exact hagrees.counted

end Runs

/-! ## A rule edited after an approval -/

open OneMessage CandidatesService.OneMessage in
/-- A mail was deleted, its rule becomes important, and the mail is counted. -/
theorem not_countsApproved :
    ¬ (run (ApprovalHistory.step asciiData) (.start noMail)
      (scanned "delete_candidate" ++
        [approval, edit [("actionType", .str "important")]])).CountsApproved := by
  intro hcounts
  have huser := hcounts "u"
  revert huser
  decide +kernel

open OneMessage CandidatesService.OneMessage in
/-- A rule is edited before the approval, and an approved mail is counted. -/
theorem countsApproved_example :
    (run (ApprovalHistory.step asciiData) (.start noMail)
      (scanned "delete_candidate" ++
        [edit [("actionType", .str "important")], approval])).CountsApproved :=
  countsApproved ⟨rfl, rfl, rfl, rfl, rfl⟩ (by decide +kernel)

end MailServer

end MyAccountController
