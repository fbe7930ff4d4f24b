import MyAccountController.Mail.MailboxCalls

/-! # The action that is shown and the action that is taken

The list of candidates shows what an approval will do, but the candidate does
not store it: the approval reads the rule again. So the approval does what was
shown exactly when the rule was not given another action in between.
-/

namespace MyAccountController

open Foundation CandidatesService

variable {R : Runtime}

namespace MailServer

/-- The action type of an update that is accepted and names one. -/
def givenBy (result : Except Exception RuleWithConditions)
    (changes : Except Exception RuleChanges) : Option String :=
  match result, changes with
  | .ok _, .ok changes => changes.actionType
  | _, _ => none

/-- The action type that the request gives the rule, if any. -/
def givenActionType (server : MailServer) (ruleId : String) (event : MailEvent R) :
    Option String :=
  match event.request with
  | .updateRule userId id data conditionId =>
      if id = ruleId then
        givenBy (RulesService.update userId id conditionId data server.db).1
          (RuleInput.changes data)
      else none
  | _ => none

/-- The action type that the rule was given last, or the one it had. -/
def lastActionType (unicode : UnicodeData) (ruleId : String) :
    MailServer → List (MailEvent R) → String → String
  | _, [], actionType => actionType
  | server, event :: rest, actionType =>
      lastActionType unicode ruleId (step unicode server event) rest
        ((givenActionType server ruleId event).getD actionType)

section Steps

variable {unicode : UnicodeData} {server server' : MailServer} {event : MailEvent R}

theorem mem_findPending {userId : String} {db : Database} {shown : List (EmailCandidate × String)}
    (hlisted : (findPending userId db).1 = .ok shown) {candidate : EmailCandidate}
    {actionType : String} (hmem : (candidate, actionType) ∈ shown) :
    candidate ∈ db.emailCandidates.rows ∧ candidate.status = .PENDING ∧
      actionType = ((db.emailRules.find? candidate.ruleId).map EmailRule.actionType).getD "" := by
  unfold findPending at hlisted
  rw [Handler.state_bind, Model.findMany_bind] at hlisted
  obtain rfl := Except.ok.inj hlisted
  obtain ⟨row, hrow, heq⟩ := List.mem_map.mp hmem
  obtain ⟨rfl, rfl⟩ := Prod.mk.inj heq
  obtain ⟨hstored, hselected⟩ := List.mem_filter.mp (List.mem_mergeSort.mp hrow)
  obtain ⟨hpending, -⟩ := of_decide_eq_true hselected
  exact ⟨hstored, hpending, rfl⟩

/-- Listings and approvals write no rule. -/
theorem rules_step (hkeeps : event.keepsRules = true) :
    (step unicode server event).db.emailRules = server.db.emailRules := by
  have heffect := step_effect unicode server event
  generalize step unicode server event = server' at heffect
  cases heffect with
  | nothing => rfl
  | connected => contradiction
  | disconnected => contradiction
  | ruleCreated => contradiction
  | ruleUpdated => contradiction
  | ruleRemoved => contradiction
  | scanned _ hscan hscans => exact hscans.rules
  | failed owned action db howned haction hrefreshes => exact hrefreshes.emailRules
  | approved owned db howned hrefreshes => exact hrefreshes.emailRules
  | excluded => rfl

theorem updateRule_step {now : Int} {userId id : String} {data : JsObject}
    {conditionId : Nat → String} {result : Except Exception RuleWithConditions} {db : Database}
    (hrun : RulesService.update userId id conditionId data server.db = (result, db)) :
    step unicode server (⟨now, .updateRule userId id data conditionId⟩ : MailEvent R) =
      { server with db } := by
  unfold step
  dsimp only [MailRequest.serve]
  rw [Handler.bind_pure_state, query_state hrun]

theorem not_isScan (hkind : event.listsEditsOrApproves = true) : event.isScan = false := by
  obtain ⟨now, request⟩ := event
  cases request <;> first | rfl | contradiction

/-- The action type that the stored rule has. -/
def actionTypeOf (server : MailServer) (ruleId : String) : Option String :=
  (server.db.emailRules.find? ruleId).map EmailRule.actionType

/-- The rule stays, with the action type that the request gives it. -/
theorem actionTypeOf_step (hkind : event.listsEditsOrApproves = true) (ruleId : String) :
    actionTypeOf (step unicode server event) ruleId =
      (actionTypeOf server ruleId).map (givenActionType server ruleId event).getD := by
  unfold actionTypeOf
  obtain ⟨now, request⟩ := event
  cases request with
  | findPending userId => exact Option.map_id'.symm
  | approve userId id providers =>
      rw [rules_step rfl]
      exact Option.map_id'.symm
  | updateRule userId id data conditionId =>
      dsimp only [givenActionType]
      rcases hrun : RulesService.update userId id conditionId data server.db with ⟨e | updated, db⟩
      · rw [updateRule_step hrun, RulesService.update_error hrun]
        split <;> exact Option.map_id'.symm
      · rw [updateRule_step hrun]
        obtain ⟨changes, hchanges, hrules⟩ := (RulesService.update_ok hrun).rules
        show (db.emailRules.find? ruleId).map EmailRule.actionType = _
        rw [hrules, hchanges]
        by_cases hid : id = ruleId
        · subst hid
          rw [if_pos rfl]
          cases hfind : server.db.emailRules.find? id with
          | some rule =>
              rw [Table.find?_modify changes.apply_unindexed hfind]
              rfl
          | none =>
              have hnone := Table.find?_modify_isSome server.db.emailRules id id
                changes.apply_unindexed
              rw [hfind] at hnone
              rw [Option.isSome_eq_false_iff.mp hnone |> Option.isNone_iff_eq_none.mp]
              rfl
        · rw [if_neg hid, Table.find?_modify_of_ne changes.apply_unindexed (Ne.symm hid)]
          exact Option.map_id'.symm
  | connect => contradiction
  | disconnect => contradiction
  | createRule => contradiction
  | removeRule => contradiction
  | scan => contradiction
  | scanAll => contradiction
  | exclude => contradiction

/-- The rows of one proposal, whatever their status. -/
def SameProposal (row row' : EmailCandidate) : Prop :=
  row'.ruleId = row.ruleId ∧ row'.emailAccountId = row.emailAccountId ∧
    row'.externalMessageId = row.externalMessageId

/-- The candidate stays, but for its status. -/
theorem candidate_step (hkind : event.listsEditsOrApproves = true) {id : String}
    {row : EmailCandidate} (hfind : server.db.emailCandidates.find? id = some row) :
    ∃ row', (step unicode server event).db.emailCandidates.find? id = some row' ∧
      SameProposal row row' := by
  have heffect := step_effect unicode server event
  generalize step unicode server event = server' at heffect
  cases heffect with
  | nothing => exact ⟨row, hfind, rfl, rfl, rfl⟩
  | connected => contradiction
  | disconnected => contradiction
  | ruleCreated => contradiction
  | ruleUpdated db hupdates =>
      refine ⟨row, ?_, rfl, rfl, rfl⟩
      show db.emailCandidates.find? id = some row
      rw [hupdates.emailCandidates]
      exact hfind
  | ruleRemoved => contradiction
  | scanned _ hscan => exact absurd hscan (by simp [not_isScan hkind])
  | failed owned action db howned haction hrefreshes =>
      refine ⟨row, ?_, rfl, rfl, rfl⟩
      show db.emailCandidates.find? id = some row
      rw [hrefreshes.emailCandidates]
      exact hfind
  | @approved now userId approvedId providers owned db howned hrefreshes =>
      rw [← hrefreshes.emailCandidates] at hfind
      by_cases hid : id = approvedId
      · subst hid
        exact ⟨setStatus .APPROVED now row,
          Table.find?_modify (setStatus_unindexed .APPROVED now) hfind, rfl, rfl, rfl⟩
      · exact ⟨row, (Table.find?_modify_of_ne (setStatus_unindexed .APPROVED now) hid).trans hfind,
          rfl, rfl, rfl⟩
  | excluded => contradiction

end Steps

/-! ## Every run -/

section Runs

variable {unicode : UnicodeData} {server : MailServer} {middle : List (MailEvent R)}

theorem actionTypeOf_after (hkinds : ∀ event ∈ middle, event.listsEditsOrApproves = true)
    (ruleId : String) : actionTypeOf (after unicode server middle) ruleId =
      (actionTypeOf server ruleId).map (lastActionType unicode ruleId server middle) := by
  induction middle generalizing server with
  | nil => exact Option.map_id'.symm
  | cons event rest ih =>
      have hrest := @ih (step unicode server event) fun other hother =>
        hkinds other (List.mem_cons_of_mem _ hother)
      rw [actionTypeOf_step (hkinds event List.mem_cons_self), Option.map_map] at hrest
      exact hrest

theorem candidate_after (hkinds : ∀ event ∈ middle, event.listsEditsOrApproves = true)
    {id : String} {row : EmailCandidate}
    (hfind : server.db.emailCandidates.find? id = some row) :
    ∃ row', (after unicode server middle).db.emailCandidates.find? id = some row' ∧
      SameProposal row row' := by
  induction middle generalizing server row with
  | nil => exact ⟨row, hfind, rfl, rfl, rfl⟩
  | cons event rest ih =>
      obtain ⟨next, hnext, hruleId, haccount, hmessage⟩ :=
        @candidate_step _ unicode _ event (hkinds event List.mem_cons_self) id row hfind
      obtain ⟨last, hlast, hruleId', haccount', hmessage'⟩ :=
        ih (fun other hother => hkinds other (List.mem_cons_of_mem _ hother)) hnext
      exact ⟨last, hlast, hruleId'.trans hruleId, haccount'.trans haccount,
        hmessage'.trans hmessage⟩

/-- An approval that returns has made the call that the rule asks for. -/
theorem calls_of_approved {userId id : String} {now : Int} {providers : LawfulRegistry}
    {approved : EmailCandidate}
    (happroved : (approve providers.val now userId id server).1 = .ok approved) :
    ∃ owned, Owned userId id server.db owned ∧
      newCalls unicode server (⟨now, .approve userId id providers⟩ : MailEvent R) =
        (mailActionOf owned.rule.actionType).toList.map (callOf owned.candidate true) := by
  have happroval := @approve_run userId id now providers.val providers.property server
  have hstep : (step unicode server (⟨now, .approve userId id providers⟩ : MailEvent R)) =
      (approve providers.val now userId id server).2 := by
    unfold step
    dsimp only [MailRequest.serve]
    rw [Handler.bind_pure_state]
  rcases hrun : approve providers.val now userId id server with ⟨result, server'⟩
  rw [hrun] at happroval happroved hstep
  obtain rfl : result = .ok approved := happroved
  cases happroval with
  | approved owned db howned hrefreshes =>
      refine ⟨owned, howned, ?_⟩
      rw [newCalls, hstep]
      exact List.drop_left

theorem actions_inj {candidate : EmailCandidate} {succeeded : Bool} {a b : Option MailAction} :
    a.toList.map (callOf candidate succeeded) = b.toList.map (callOf candidate succeeded) ↔
      a = b := by
  cases a <;> cases b <;> simp [callOf]

/-- An approval acts as the list showed exactly when the last action type that
the rule was given in between has the same effect in the mailbox. -/
theorem approve_acts_as_shown_iff {userId : String} {shown : List (EmailCandidate × String)}
    {candidate : EmailCandidate} {actionType : String} {now : Int} {providers : LawfulRegistry}
    {approved : EmailCandidate} (hlisted : (findPending userId server.db).1 = .ok shown)
    (hshown : (candidate, actionType) ∈ shown)
    (hkinds : ∀ event ∈ middle, event.listsEditsOrApproves = true)
    (happroved : (approve providers.val now userId candidate.id
      (after unicode server middle)).1 = .ok approved) :
    newCalls unicode (after unicode server middle)
        (⟨now, .approve userId candidate.id providers⟩ : MailEvent R) =
          (mailActionOf actionType).toList.map (callOf candidate true) ↔
      mailActionOf (lastActionType unicode candidate.ruleId server middle actionType) =
        mailActionOf actionType := by
  obtain ⟨hstored, -, hactionType⟩ := mem_findPending hlisted hshown
  obtain ⟨row, hrow, hruleId, haccount, hmessage⟩ :=
    @candidate_after _ unicode server middle hkinds candidate.id candidate
      (Table.find?_eq_some_iff.mpr ⟨hstored, rfl⟩)
  obtain ⟨owned, howned, hcalls⟩ := @calls_of_approved R unicode _ userId candidate.id now
    providers approved happroved
  have hcandidate : owned.candidate = row := by
    have hfind := howned.candidate
    rw [hrow] at hfind
    exact (Option.some.inj hfind).symm
  have hcall : callOf owned.candidate true = callOf candidate true := by
    funext action
    unfold callOf
    rw [hcandidate, haccount, hmessage]
  -- The rule that the approval reads has the last action type given in between.
  have hrule : actionTypeOf (after unicode server middle) candidate.ruleId =
      some owned.rule.actionType := by
    unfold actionTypeOf
    rw [← hruleId, ← hcandidate, howned.rule]
    rfl
  rw [actionTypeOf_after hkinds] at hrule
  obtain ⟨before, hbefore, hlast⟩ := Option.map_eq_some_iff.mp hrule
  have hshownType : actionType = before := by
    rw [hactionType]
    unfold actionTypeOf at hbefore
    rw [hbefore]
    rfl
  rw [hcalls, hcall, actions_inj, ← hlast, ← hshownType]

end Runs

/-! ## A rule edited between the list and the approval -/

namespace OneMessage

open CandidatesService.OneMessage

/-- The candidate of the scanned mail. -/
def pending : EmailCandidate :=
  ⟨freshId 0 0 0, "r", "e", "m", "", "", 1000, .PENDING, none⟩

/-- The rule is edited. -/
def edit (data : JsObject) : MailEvent symbolicRuntime :=
  ⟨1, .updateRule "u" "r" data fun _ => "d"⟩

/-- The server that shows the candidate of an important mail. -/
def important : MailServer := after asciiData noMail (scanned "important")

/-- The approval of the shown candidate. -/
def approval : MailEvent symbolicRuntime := ⟨2, .approve "u" pending.id providers⟩

end OneMessage

open OneMessage in
/-- The list shows an important mail, and the approval deletes it. -/
theorem not_approve_acts_as_shown :
    (findPending "u" important.db).1 = .ok [(pending, "important")] ∧
      newCalls asciiData
          (after asciiData important [edit [("actionType", .str "delete_candidate")]]) approval ≠
        (mailActionOf "important").toList.map (callOf pending true) ∧
      newCalls asciiData
          (after asciiData important [edit [("actionType", .str "delete_candidate")]]) approval =
        [⟨"e", "m", .delete, true⟩] := by
  have hcalls : newCalls asciiData
      (after asciiData important [edit [("actionType", .str "delete_candidate")]]) approval =
        [⟨"e", "m", .delete, true⟩] := by decide +kernel
  refine ⟨by decide +kernel, ?_, hcalls⟩
  rw [hcalls]
  decide

open OneMessage in
/-- The rule is only switched off: the approval leaves the mail where it is. -/
theorem approve_acts_as_shown_example :
    newCalls asciiData (after asciiData important [edit [("isActive", .bool false)]]) approval =
      [] := by
  have happroved : (approve providers.val 2 "u" pending.id
      (after asciiData important [edit [("isActive", .bool false)]])).1 =
        .ok (setStatus .APPROVED 2 pending) := by decide +kernel
  have hshown : (findPending "u" important.db).1 = .ok [(pending, "important")] := by
    decide +kernel
  exact (approve_acts_as_shown_iff hshown (List.mem_singleton_self _) (by decide)
    happroved).mpr (by decide +kernel)

end MailServer

end MyAccountController
