import Mathlib.Data.List.Perm.Subperm
import MyAccountController.Auth.WebAuthnService
import MyAccountController.EmailAccounts.EmailAccountsService
import MyAccountController.Isolation.OwnRows
import MyAccountController.Mail.RulesService
import MyAccountController.Mail.ScanEffects

/-! # Writes and the rows of other users

What a write of a user's row leaves of the other users' rows: all of them, unless
the row is given to another user, or a candidate of another user hangs on a rule
that is deleted.
-/

namespace MyAccountController

open Foundation

namespace Database

section Writes

variable {userId id : String} {db db' : Database}

/-! ## Accounts -/

theorem sameForOthers_accounts {table : Table Account}
    (hrows : ∀ other, other ≠ userId →
      (table.rows.filter fun row => row.userId = other) =
        db.accounts.rows.filter fun row => row.userId = other) :
    SameForOthers userId db { db with accounts := table } := fun other hne =>
  rowsOf_eq rfl rfl (hrows other hne) rfl rfl rfl rfl

/-- The accounts of another user are not fewer or more. -/
theorem SameForOthers.countP_accounts (hsame : SameForOthers userId db db') {other : String}
    (hne : other ≠ userId) :
    (db'.accounts.rows.countP fun row => row.userId = other) =
      db.accounts.rows.countP fun row => row.userId = other := by
  rw [List.countP_eq_length_filter, List.countP_eq_length_filter]
  exact congrArg (fun rows => rows.accounts.length) (hsame other hne)

/-- A new account is no change for others if and only if it is the user's. -/
theorem sameForOthers_insertAccount {row : Account} {table : Table Account}
    (hinsert : db.accounts.insert? row = some table) :
    SameForOthers userId db { db with accounts := table } ↔ row.userId = userId := by
  have hrows := (Table.insert?_eq_some_iff.mp hinsert).2
  constructor
  · intro hsame
    by_contra hne
    have hcount := hsame.countP_accounts hne
    rw [hrows, List.countP_append, List.countP_singleton, if_pos (by simp)] at hcount
    omega
  · rintro rfl
    exact sameForOthers_accounts fun other hne =>
      filter_insert_others hinsert (decide_eq_false (Ne.symm hne))

/-- An account of the user that is written is no change for others if and only if it stays the
user's. -/
theorem sameForOthers_replaceAccount {before : Account} {f : Account → Account}
    {table : Table Account} (hfind : db.accounts.find? id = some before)
    (huser : before.userId = userId) (hreplace : db.accounts.replace? id f = some table) :
    SameForOthers userId db { db with accounts := table } ↔ (f before).userId = userId := by
  obtain ⟨hmem, hid⟩ := Table.find?_eq_some_iff.mp hfind
  have hrows := Table.replace?_eq_some hreplace
  have honly : ∀ row ∈ db.accounts.rows, key row = id → row = before := fun row hrow hkey =>
    db.accounts.eq_of_key_eq hrow hmem (hkey.trans hid.symm)
  constructor
  · intro hsame
    by_contra hne
    have hcount := hsame.countP_accounts hne
    rw [hrows, List.countP_map] at hcount
    refine absurd hcount (Nat.ne_of_gt (countP_lt ?_ hmem ?_ ?_))
    · intro row hrow howned
      rw [Function.comp_apply]
      by_cases hkey : key row = id
      · rw [if_pos hkey, honly row hrow hkey]
        exact decide_eq_true rfl
      · rwa [if_neg hkey]
    · rw [huser]
      exact decide_eq_false (Ne.symm hne)
    · rw [Function.comp_apply, if_pos hid]
      exact decide_eq_true rfl
  · intro hafter
    refine sameForOthers_accounts fun other hne => ?_
    rw [hrows]
    refine filter_map_others fun row hrow => ?_
    by_cases hkey : key row = id
    · right
      rw [if_pos hkey, honly row hrow hkey, huser, hafter]
      exact ⟨decide_eq_false (Ne.symm hne), decide_eq_false (Ne.symm hne)⟩
    · exact .inl (if_neg hkey)

theorem sameForOthers_deleteAccount {before : Account}
    (hfind : db.accounts.find? id = some before) (huser : before.userId = userId) :
    SameForOthers userId db { db with accounts := db.accounts.delete id } := by
  exact sameForOthers_accounts fun other hne =>
    filter_delete_others hfind (decide_eq_false (huser ▸ Ne.symm hne))

/-! ## Devices -/

theorem sameForOthers_insertDevice {row : TrustedDevice} {table : Table TrustedDevice}
    (hinsert : db.trustedDevices.insert? row = some table) (huser : row.userId = userId) :
    SameForOthers userId db { db with trustedDevices := table } := by
  intro other hne
  refine rowsOf_eq rfl ?_ rfl rfl rfl rfl rfl
  exact filter_insert_others hinsert (decide_eq_false (huser ▸ Ne.symm hne))

theorem sameForOthers_deleteDevice {device : TrustedDevice}
    (hfind : db.trustedDevices.find? id = some device) (huser : device.userId = userId) :
    SameForOthers userId db { db with trustedDevices := db.trustedDevices.delete id } := by
  intro other hne
  refine rowsOf_eq rfl ?_ rfl rfl rfl rfl rfl
  exact filter_delete_others hfind (decide_eq_false (huser ▸ Ne.symm hne))

/-! ## Email accounts -/

theorem sameForOthers_addEmailAccount {row : EmailAccount} {emailAccounts : Table EmailAccount}
    (hrows : emailAccounts.rows = db.emailAccounts.rows ++ [row]) (huser : row.userId = userId) :
    SameForOthers userId db { db with emailAccounts } := by
  intro other hne
  refine rowsOf_eq rfl rfl rfl ?_ rfl rfl rfl
  show emailAccounts.rows.filter _ = _
  rw [hrows]
  refine filter_append_others fun added hadded => ?_
  rw [List.mem_singleton.mp hadded, huser]
  exact decide_eq_false (Ne.symm hne)

/-- A refreshed token is one of an email account of the user. -/
theorem sameForOthers_refreshesToken (hrefreshes : RefreshesToken id db db')
    (howns : db.ownsEmailAccount userId id = true) : SameForOthers userId db db' := by
  rcases hrefreshes with rfl | ⟨token, expires, rfl⟩
  · exact .refl userId db'
  obtain ⟨account, hfind, huser⟩ := RulesService.ownsEmailAccount_iff.mp howns
  intro other hne
  have hnot : decide (account.userId = other) = false := decide_eq_false (huser ▸ Ne.symm hne)
  refine rowsOf_eq rfl rfl rfl ?_ rfl rfl rfl
  exact filter_modify_others (EmailAccount.setAccessToken_unindexed token expires) hfind hnot hnot

theorem refreshesToken_owns (hrefreshes : RefreshesToken id db db')
    (emailAccountId : String) :
    db'.ownsEmailAccount userId emailAccountId = db.ownsEmailAccount userId emailAccountId := by
  have hfind := find?_of_withoutToken hrefreshes.withoutToken emailAccountId
  have howner : ∀ db : Database, db.ownsEmailAccount userId emailAccountId =
      ((db.emailAccounts.find? emailAccountId).map EmailAccount.withoutToken).any
        fun row => row.userId = userId := by
    intro db
    unfold ownsEmailAccount
    rw [Option.any_map]
    rfl
  rw [howner, howner, hfind]

/-! ## Rules -/

/-- No candidate in a mailbox of another user hangs on one of the rules. -/
def NoneHangsOn (db : Database) (userId : String) (ofRule : String → Bool) : Prop :=
  ∀ row ∈ db.emailCandidates.rows, ofRule row.ruleId = true →
    ∀ other, other ≠ userId → db.ownsEmailAccount other row.emailAccountId = false

/-- The candidates that hang on the rules are deleted. -/
theorem noneHangsOn_of_sameForOthers {ofRule : String → Bool}
    (hsame : SameForOthers userId db db')
    (hdeleted : ∀ row ∈ db'.emailCandidates.rows, ofRule row.ruleId = false) :
    db.NoneHangsOn userId ofRule := by
  intro row hrow hrule other hne
  apply Bool.eq_false_iff.mpr
  intro howns
  have hmem : row ∈ (db.rowsOf other).emailCandidates := List.mem_filter.mpr ⟨hrow, howns⟩
  rw [← hsame other hne] at hmem
  have hkept := hdeleted row (List.mem_filter.mp hmem).1
  rw [hrule] at hkept
  contradiction

theorem sameForOthers_deleteRule {rule : EmailRule} (hfind : db.emailRules.find? id = some rule)
    (howns : db.ownsEmailAccount userId rule.emailAccountId = true) :
    SameForOthers userId db (db.deleteRule id) ↔
      db.NoneHangsOn userId fun ruleId => ruleId = id := by
  constructor
  · intro hsame
    apply noneHangsOn_of_sameForOthers hsame
    intro row hrow
    exact decide_eq_false (mem_deleteRule_candidates.mp hrow).2
  · intro hnone other hne
    have hnot := ownsEmailAccount_other hne howns
    refine rowsOf_eq rfl rfl rfl rfl ?_ ?_ ?_
    · exact filter_delete_others hfind hnot
    · refine filter_drop_others fun row _ hrule => ?_
      rw [of_decide_eq_true hrule, ownsRule_of_find hfind]
      exact hnot
    · exact filter_drop_others fun row hrow hrule => hnone row hrow hrule other hne

theorem sameForOthers_deleteEmailAccount {account : EmailAccount}
    (hfind : db.emailAccounts.find? id = some account) (huser : account.userId = userId) :
    SameForOthers userId db (db.deleteEmailAccount id) ↔ db.NoneHangsOn userId (db.isRuleOf id) := by
  have howns : db.ownsEmailAccount userId id = true :=
    RulesService.ownsEmailAccount_iff.mpr ⟨account, hfind, huser⟩
  constructor
  · intro hsame
    apply noneHangsOn_of_sameForOthers hsame
    intro row hrow
    exact (mem_deleteEmailAccount_candidates.mp hrow).2.2
  · intro hnone other hne
    have hnot := ownsEmailAccount_other hne howns
    refine rowsOf_eq rfl rfl rfl ?_ ?_ ?_ ?_
    · exact filter_delete_others hfind (decide_eq_false (huser ▸ Ne.symm hne))
    · refine filter_drop_others fun row _ haccount => ?_
      rw [of_decide_eq_true haccount]
      exact hnot
    · refine filter_drop_others fun row _ hrule => ?_
      obtain ⟨rule, hrow, hruleId, haccount⟩ := isRuleOf_iff.mp hrule
      rw [ownsRule_of_find (Table.find?_eq_some_iff.mpr ⟨hrow, hruleId⟩), haccount]
      exact hnot
    · refine filter_drop_others fun row hrow hdropped => ?_
      rcases of_decide_eq_true hdropped with haccount | hrule
      · rw [haccount]
        exact hnot
      · exact hnone row hrow hrule other hne

theorem sameForOthers_createRule {rule : EmailRule}
    (hcreates : RulesService.Creates userId db db' rule) : SameForOthers userId db db' := by
  intro other hne
  have hnot := ownsEmailAccount_other hne hcreates.owned
  obtain ⟨added, hconditions, hadded⟩ := hcreates.conditions
  rw [hcreates.elsewhere]
  refine rowsOf_eq rfl rfl rfl rfl ?_ ?_ rfl
  · show db'.emailRules.rows.filter _ = _
    rw [hcreates.rules]
    refine filter_append_others fun row hrow => ?_
    rw [List.mem_singleton.mp hrow]
    exact hnot
  · show db'.emailRuleConditions.rows.filter _ = _
    rw [hconditions]
    refine filter_append_others fun row hrow => ?_
    rw [hadded row hrow]
    -- No rule had the new id.
    apply Bool.eq_false_iff.mpr
    intro howns
    obtain ⟨old, hold, hid⟩ := ownsRule_iff_mem.mp howns
    have hdistinct := db'.emailRules.distinct
    rw [hcreates.rules, List.pairwise_append] at hdistinct
    exact hdistinct.2.2 old (List.mem_filter.mp hold).1 rule (List.mem_singleton_self _)
      (Entity.clash_of_key_eq hid)

theorem sameForOthers_updateRule {data : JsObject}
    (hupdates : RulesService.Updates userId id data db db') : SameForOthers userId db db' := by
  obtain ⟨rule, hfind, howns⟩ := hupdates.owned
  obtain ⟨changes, -, hrules⟩ := hupdates.rules
  obtain ⟨kept, added, hconditions, hsublist, hothers, hadded⟩ := hupdates.conditions
  intro other hne
  have hnot := ownsEmailAccount_other hne howns
  rw [hupdates.elsewhere]
  refine rowsOf_eq rfl rfl rfl rfl ?_ ?_ rfl
  · show db'.emailRules.rows.filter _ = _
    rw [hrules]
    exact filter_modify_others _ hfind hnot hnot
  · show db'.emailRuleConditions.rows.filter _ = _
    have hnone : db.ownsRule other id = false := (ownsRule_of_find hfind).trans hnot
    rw [hconditions, filter_append_others fun row hrow => hadded row hrow ▸ hnone]
    -- Only conditions of the rule are dropped.
    have hnodup : db.emailRuleConditions.rows.Nodup :=
      List.Nodup.of_map _ db.emailRuleConditions.nodup_keys
    refine (hsublist.filter _).eq_of_length_le
      (List.subperm_of_subset (hnodup.filter _) ?_).length_le
    intro row hrow
    obtain ⟨hmem, hrule⟩ := List.mem_filter.mp hrow
    refine List.mem_filter.mpr ⟨hothers row hmem ?_, hrule⟩
    rintro rfl
    rw [hnone] at hrule
    contradiction

/-! ## Candidates -/

theorem sameForOthers_withStatus {status : CandidateStatus} {now : Int} {candidate : EmailCandidate}
    (hfind : db.emailCandidates.find? id = some candidate)
    (howns : db.ownsEmailAccount userId candidate.emailAccountId = true) :
    SameForOthers userId db (CandidatesService.withStatus id status now db) := by
  intro other hne
  have hnot := ownsEmailAccount_other hne howns
  refine rowsOf_eq rfl rfl rfl rfl rfl rfl ?_
  exact filter_modify_others (CandidatesService.setStatus_unindexed status now) hfind hnot hnot

theorem sameForOthers_insertCandidate {row : EmailCandidate} {table : Table EmailCandidate}
    (hinsert : db.emailCandidates.insert? row = some table)
    (howns : db.ownsEmailAccount userId row.emailAccountId = true) :
    SameForOthers userId db { db with emailCandidates := table } := by
  intro other hne
  refine rowsOf_eq rfl rfl rfl rfl rfl rfl ?_
  exact filter_insert_others hinsert (ownsEmailAccount_other hne howns)

end Writes

end Database

/-! ## Scans -/

namespace CandidatesService

/-- Between states in which the user owns the email accounts, nothing of others is changed, and
the user still owns them. -/
def ScansOwn (userId : String) (ids : List String) (a b : ScanState) : Prop :=
  (∀ id ∈ ids, a.server.db.ownsEmailAccount userId id = true) →
    Database.SameForOthers userId a.server.db b.server.db ∧
      ∀ id ∈ ids, b.server.db.ownsEmailAccount userId id = true

section Scans

variable {userId : String} {ids : List String} {unicode : UnicodeData}
  {providers : MailProviderRegistry} {faults : ScanFaults} {freshId : Nat → Nat → Nat → String}

theorem ScansOwn.refl (state : ScanState) : ScansOwn userId ids state state :=
  fun howns => ⟨.refl userId _, howns⟩

theorem ScansOwn.trans (a b c : ScanState) (hab : ScansOwn userId ids a b)
    (hbc : ScansOwn userId ids b c) : ScansOwn userId ids a c := by
  intro howns
  obtain ⟨hfirst, howns'⟩ := hab howns
  obtain ⟨hsecond, howns''⟩ := hbc howns'
  exact ⟨.trans userId _ _ _ hfirst hsecond, howns''⟩

theorem propose_scansOwn {fault : Option Exception} {id emailAccountId : String}
    {message : RawMailMessage} {rule : RuleWithConditions} (hmem : emailAccountId ∈ ids) :
    Handler.Keeps (ScansOwn userId ids)
      (propose unicode fault id emailAccountId message rule) := by
  intro state
  unfold propose
  rcases RuleMatcher.messageMatchesRule unicode message rule with e | accepted
  · exact ScansOwn.refl _
  rw [Handler.ofExcept_ok_bind]
  split
  · rcases createCandidate_cases state.server.db with ⟨e, hrefused⟩ |
      ⟨row, table, hinput, hinsert, hcreated⟩
    · unfold Handler.recover
      rw [Handler.bind_of_error (onServer_query_run hrefused)]
      dsimp only
      split <;> exact ScansOwn.refl _
    · unfold Handler.recover
      rw [Handler.bind_of_ok (onServer_query_run hcreated)]
      intro howns
      refine ⟨Database.sameForOthers_insertCandidate hinsert ?_, howns⟩
      rw [(candidateInput_ok_iff.mp hinput).2]
      exact howns emailAccountId hmem
  · exact ScansOwn.refl _

theorem listCandidateMessages_scansOwn {provider : MailProvider} (hlawful : provider.Lawful)
    {emailAccountId : String} (hmem : emailAccountId ∈ ids) :
    Handler.Keeps (ScansOwn userId ids)
      (ScanState.onServer (MailServer.listCandidateMessages provider emailAccountId)) := by
  intro state howns
  obtain ⟨db, hrefreshes, hrun⟩ :=
    listCandidateMessages_cases hlawful emailAccountId state.server
  have hsame := Database.sameForOthers_refreshesToken hrefreshes (howns emailAccountId hmem)
  have howns' : ∀ id ∈ ids, db.ownsEmailAccount userId id = true := fun id hid =>
    (Database.refreshesToken_owns hrefreshes id).trans (howns id hid)
  rcases hrun with ⟨e, hfailed⟩ | ⟨messages, hlisted⟩
  · rw [onServer_run hfailed]
    exact ⟨hsame, howns'⟩
  · rw [onServer_run hlisted]
    exact ⟨hsame, howns'⟩

theorem scanAccount_scansOwn (hlawful : providers.Lawful) {account : EmailAccount}
    (hmem : account.id ∈ ids) (i : Nat) : Handler.Keeps (ScansOwn userId ids)
      (scanAccount unicode providers faults freshId account i) := by
  intro state
  unfold scanAccount
  cases hget : providers.get account.providerType with
  | error err => exact ScansOwn.refl _
  | ok provider =>
      rw [Handler.ofExcept_ok_bind]
      apply Handler.keeps_bind ScansOwn.trans
      · refine Handler.Keeps.of_state_eq ScansOwn.refl fun state => ?_
        cases faults.ruleQuery i <;> rfl
      intro rules _ state _
      split
      · exact ScansOwn.refl _
      have hlisting := @listCandidateMessages_scansOwn userId ids provider (hlawful.get hget)
        account.id hmem
      refine Handler.keeps_bind ScansOwn.trans hlisting (fun messages _ state _ => ?_) state
      have hpropose : Handler.Keeps (ScansOwn userId ids)
          (proposeAll unicode faults freshId i account.id messages rules) :=
        Handler.keeps_forM ScansOwn.refl ScansOwn.trans fun _ _ =>
          Handler.keeps_forM ScansOwn.refl ScansOwn.trans fun _ _ => propose_scansOwn hmem
      unfold ScanState.count
      rw [Handler.modify_bind]
      exact fun howns => hpropose { state with counts := _ } howns

/-- A scan of a user's email accounts changes nothing of others. -/
theorem scan_sameForOthers (hlawful : providers.Lawful) (server : MailServer) :
    Database.SameForOthers userId server.db
      (scan unicode providers faults freshId userId server).2.db := by
  let accounts := server.db.emailAccounts.rows.filter fun row => row.userId = userId ∧ row.isActive
  have hloop : Handler.Keeps (ScansOwn userId (accounts.map EmailAccount.id))
      (accounts.zipIdx.forM (scanOne unicode providers faults freshId)) := by
    apply Handler.keeps_forM ScansOwn.refl ScansOwn.trans
    intro account haccount
    apply Handler.keeps_recover ScansOwn.trans
    · exact scanAccount_scansOwn hlawful
        (List.mem_map_of_mem (List.fst_mem_of_mem_zipIdx haccount)) account.2
    · exact fun _ state => ScansOwn.refl state
  show Database.SameForOthers userId server.db
    (scanAccounts unicode providers faults freshId accounts server).2.db
  rw [scanAccounts_server]
  refine (hloop ⟨server, ⟨0, 0, 0⟩⟩ fun id hid => ?_).1
  obtain ⟨account, haccount, rfl⟩ := List.mem_map.mp hid
  obtain ⟨hmem, hselected⟩ := List.mem_filter.mp haccount
  exact RulesService.ownsEmailAccount_iff.mpr ⟨account,
    Table.find?_eq_some_iff.mpr ⟨hmem, rfl⟩, (of_decide_eq_true hselected).1⟩

end Scans

end CandidatesService

end MyAccountController
