import MyAccountController.Application.References
import MyAccountController.Application.TokenKeys

/-! # The rule a candidate hangs on

A scan creates a candidate of a mailbox only for a rule of that mailbox, and no
request but a nested write of an account's owner moves a rule or a candidate to
another mailbox. So in every state reached without one the rule of a candidate
and the candidate belong to one user: the lists of a user never read a rule of
another user, and deleting a rule or a mailbox never deletes a candidate of
another user.
-/

namespace MyAccountController

open Foundation Handler

variable {R : Runtime}

namespace Database

/-- Every candidate hangs on a rule of its own email account. -/
def RulesMatch (db : Database) : Prop :=
  ∀ row ∈ db.emailCandidates.rows, db.isRuleOf row.emailAccountId row.ruleId = true

/-- The rules of the email accounts are still theirs. -/
def KeepsRules (db db' : Database) : Prop :=
  ∀ emailAccountId ruleId, db.isRuleOf emailAccountId ruleId = true →
    db'.isRuleOf emailAccountId ruleId = true

theorem RulesMatch.of_keepsRules {db db' : Database} (hrules : KeepsRules db db')
    (hrows : ∀ row ∈ db'.emailCandidates.rows, db.isRuleOf row.emailAccountId row.ruleId = true) :
    db'.RulesMatch :=
  fun row hrow => hrules _ _ (hrows row hrow)

/-- A rule that is found, in the same email account, after the rules were changed. -/
theorem isRuleOf_of_find {db db' : Database} {emailAccountId ruleId : String}
    (hof : db.isRuleOf emailAccountId ruleId = true)
    (hfinds : ∀ rule, db.emailRules.find? ruleId = some rule →
      rule.emailAccountId = emailAccountId →
        ∃ rule', db'.emailRules.find? ruleId = some rule' ∧
          rule'.emailAccountId = emailAccountId) :
    db'.isRuleOf emailAccountId ruleId = true := by
  obtain ⟨rule, hfind, haccount⟩ := (Option.any_eq_true _ _).mp hof
  obtain ⟨rule', hfind', haccount'⟩ := hfinds rule hfind (of_decide_eq_true haccount)
  exact (Option.any_eq_true _ _).mpr ⟨rule', hfind', decide_eq_true haccount'⟩

theorem rulesMatch_deleteRule {db : Database} (hdb : db.RulesMatch) (id : String) :
    (db.deleteRule id).RulesMatch := by
  intro row hrow
  obtain ⟨hbefore, hkept⟩ := mem_deleteRule_candidates.mp hrow
  refine isRuleOf_of_find (hdb row hbefore) fun rule hfind haccount => ⟨rule, ?_, haccount⟩
  refine Table.find?_deleteWhere.mpr ⟨hfind, decide_eq_false ?_⟩
  rwa [(Table.find?_eq_some_iff.mp hfind).2]

theorem rulesMatch_deleteEmailAccount {db : Database} (hdb : db.RulesMatch) (id : String) :
    (db.deleteEmailAccount id).RulesMatch := by
  intro row hrow
  obtain ⟨hbefore, hkept, -⟩ := mem_deleteEmailAccount_candidates.mp hrow
  refine isRuleOf_of_find (hdb row hbefore) fun rule hfind haccount => ⟨rule, ?_, haccount⟩
  refine Table.find?_deleteWhere.mpr ⟨hfind, decide_eq_false ?_⟩
  rwa [haccount]

theorem MailWrite.rulesMatch {db db' : Database} (hwrite : MailWrite db db')
    (hdb : db.RulesMatch) : db'.RulesMatch := by
  cases hwrite with
  | connected | tokenRefreshed | conditionCreated | conditionsRemoved => exact hdb
  | disconnected id => exact rulesMatch_deleteEmailAccount hdb id
  | ruleCreated row table hreferences hinsert =>
      refine .of_keepsRules (fun _ _ hof => isRuleOf_of_find hof fun rule hfind haccount => ?_) hdb
      exact ⟨rule, Table.find?_of_insert hinsert hfind, haccount⟩
  | ruleChanged id changes =>
      refine .of_keepsRules (fun _ _ hof => isRuleOf_of_find hof fun rule hfind haccount => ?_) hdb
      exact exists_modified changes.apply_unindexed (fun _ h => h) hfind haccount
  | ruleRemoved id => exact rulesMatch_deleteRule hdb id
  | candidateCreated row table hreferences hrule hinsert =>
      exact .of_keepsRules (fun _ _ hof => hof) (forall_inserted hinsert hdb hrule)
  | candidateDecided id status now =>
      have hf := CandidatesService.setStatus_unindexed status now
      exact .of_keepsRules (fun _ _ hof => hof) (forall_modified hf hdb fun _ hrow => hrow)

theorem Write.rulesMatch {db db' : Database} (hwrite : Write db db') (hdb : db.RulesMatch) :
    db'.RulesMatch := by
  cases hwrite with
  | account hwrite => cases hwrite <;> exact hdb
  | identity hwrite => cases hwrite <;> exact hdb
  | registration hwrite => cases hwrite; exact hdb
  | mail hwrite => exact hwrite.rulesMatch hdb

/-! ## What it means for the users -/

/-- The owner of a rule of an email account is the owner of the email account. -/
theorem ownsRule_of_isRuleOf {db : Database} {userId emailAccountId ruleId : String}
    (hof : db.isRuleOf emailAccountId ruleId = true) :
    db.ownsRule userId ruleId = db.ownsEmailAccount userId emailAccountId := by
  obtain ⟨rule, hfind, haccount⟩ := (Option.any_eq_true _ _).mp hof
  rw [ownsRule_of_find hfind, of_decide_eq_true haccount]

theorem RulesMatch.ownRules {db : Database} (hdb : db.RulesMatch) (status : CandidateStatus)
    (userId : String) : ReadRequest.OwnRules status userId db := by
  intro row hrow _ howns
  rwa [ownsRule_of_isRuleOf (hdb row hrow)]

/-- No candidate of another user hangs on rules of the user. -/
theorem RulesMatch.noneHangsOn {db : Database} (hdb : db.RulesMatch) {userId : String}
    {ofRule : String → Bool}
    (howns : ∀ ruleId, ofRule ruleId = true → (db.emailRules.find? ruleId).isSome = true →
      db.ownsRule userId ruleId = true) : db.NoneHangsOn userId ofRule := by
  intro row hrow hof other hne
  have hrule := hdb row hrow
  obtain ⟨rule, hfind, -⟩ := (Option.any_eq_true _ _).mp hrule
  have hown := howns row.ruleId hof (by rw [hfind]; rfl)
  rw [ownsRule_of_isRuleOf hrule] at hown
  exact ownsEmailAccount_other hne hown

end Database

open Database ReadRequest

/-- After events without a nested write, every candidate hangs on a rule of its own email
account. -/
theorem rulesMatch_reached (unicode : UnicodeData) {events : List (AppEvent R)}
    (hnested : ∀ event ∈ events, event.NoNestedWrite) :
    (Server.reached unicode events).db.RulesMatch := by
  let stays : Database → Database → Prop := fun db db' => db.RulesMatch → db'.RulesMatch
  have hkept : stays (Server.initial R).db (Server.reached unicode events).db :=
    related_of_appRun (fun _ => id) (fun _ _ _ hab hbc hdb => hbc (hab hdb))
      (fun _ _ hwrite => hwrite.rulesMatch) unicode (Server.initial R) hnested
  exact hkept fun row hrow => absurd hrow List.not_mem_nil

/-- What the lists of candidates answer a session and what it deletes with a rule or a mailbox is
its user's alone. -/
structure CandidatesIsolated (unicode : UnicodeData) (server : Server R) (sessionId : String)
    (now : Int) : Prop where
  emailCandidates : (ReadRequest.emailCandidates : ReadRequest R).Isolated sessionId now
    (server.context sessionId)
  importantSummary : (ReadRequest.importantSummary : ReadRequest R).Isolated sessionId now
    (server.context sessionId)
  removeRule : ∀ userId key, Admits server sessionId now userId key → ∀ id,
    SameForOthers userId server.db (server.serve sessionId
      ((UserRequest.removeRule id).route unicode sessionId now)).2.db
  disconnect : ∀ userId key, Admits server sessionId now userId key → ∀ id,
    SameForOthers userId server.db (server.serve sessionId
      ((UserRequest.disconnect id).route unicode sessionId now)).2.db

/-- After any events without a nested write, no request about candidates, rules or mailboxes
reaches another user. -/
theorem candidates_isolated (unicode : UnicodeData) (events : List (AppEvent R))
    (hnested : ∀ event ∈ events, event.NoNestedWrite) (sessionId : String) (now : Int) :
    CandidatesIsolated unicode (Server.reached unicode events) sessionId now := by
  have hmatch := rulesMatch_reached unicode hnested
  constructor
  case emailCandidates =>
    exact behindUnlockedGuard_own fun userId key db' hsame _ =>
      findPending_own hsame (hmatch.ownRules .PENDING userId)
  case importantSummary =>
    exact behindUnlockedGuard_own fun userId key db' hsame _ =>
      importantSummary_own hsame (hmatch.ownRules .APPROVED userId)
  case removeRule =>
    intro userId key hadmits id
    dsimp only [UserRequest.route]
    rw [behindUnlockedGuard_db hadmits, removeRule_sameForOthers_iff]
    refine fun howns => hmatch.noneHangsOn fun ruleId hid _ => ?_
    rwa [of_decide_eq_true hid]
  case disconnect =>
    intro userId key hadmits id
    dsimp only [UserRequest.route]
    rw [behindLoggedInGuard_db hadmits, disconnect_sameForOthers_iff]
    refine fun howns => hmatch.noneHangsOn fun ruleId hof _ => ?_
    rwa [ownsRule_of_isRuleOf hof]

/-- So too after a first mailbox was connected and scanned. -/
theorem candidates_isolated_firstMailbox :
    CandidatesIsolated asciiData (Server.reached asciiData FirstMailbox.events) "sid" 3 :=
  candidates_isolated asciiData FirstMailbox.events FirstMailbox.events_noNestedWrite "sid" 3

end MyAccountController
