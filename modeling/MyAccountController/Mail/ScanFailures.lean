import MyAccountController.Common.SymbolicRuntime
import MyAccountController.Mail.GmailProvider
import MyAccountController.Mail.ScanRuns

/-! # Accounts that fail during a scan

A failure stops the scan of its account only: the other accounts get the rows
they would get in a scan of their own. The counters tell the two kinds of
accounts apart unless a rule cannot be judged or an insertion fails, which happens
after the account was counted as scanned.
-/

namespace MyAccountController

open Foundation

namespace CandidatesService

/-- A candidate but for its id. -/
def withoutId (row : EmailCandidate) : EmailCandidate := { row with id := "" }

/-- The pair stops a scan: its rule cannot be judged, or it accepts the message and the
message cannot be inserted, because its date is invalid or the database fails. -/
def Pairing.Fails (unicode : UnicodeData) (fault : Option Exception) (pair : Pairing) : Prop :=
  ¬ pair.rule.Readable ∨
    RuleMatcher.messageMatchesRule unicode pair.message pair.rule = .ok true ∧
      (fault ≠ none ∨ pair.message.receivedAt = none)

instance (unicode : UnicodeData) (fault : Option Exception) (pair : Pairing) :
    Decidable (pair.Fails unicode fault) :=
  inferInstanceAs (Decidable (_ ∨ _))

section Specification

variable (unicode : UnicodeData) (providers : MailProviderRegistry) (faults : ScanFaults)
  (freshId : Nat → Nat → Nat → String) (server : MailServer)

/-- The `try` block of an account and its position throws. -/
def fails (account : EmailAccount × Nat) : Bool :=
  !(scanAccount unicode providers faults freshId account.1 account.2
    ⟨server, ⟨0, 0, 0⟩⟩).1.isOk

/-- The email account has an active rule. -/
def hasActiveRule (account : EmailAccount × Nat) : Bool :=
  (server.db.activeRules account.1.id).length ≠ 0

/-- The accounts that do not fail. -/
def unfailing (accounts : List EmailAccount) : List EmailAccount :=
  (accounts.zipIdx.filter fun account =>
    !fails unicode providers faults freshId server account).map Prod.fst

/-- The rows that a scan has added. -/
def addedRows (server server' : MailServer) : List EmailCandidate :=
  server'.db.emailCandidates.rows.drop server.db.emailCandidates.rows.length

/-- The scan returns, a failing account takes nothing from the others, and each
account is counted once. -/
structure ScanAccounted (accounts : List EmailAccount) : Prop where
  isolated : ∃ counts server', scanAccounts unicode providers faults freshId accounts server =
      (.ok counts, server') ∧
    server.db.emailCandidates.rows <+: server'.db.emailCandidates.rows ∧
    ∀ freshId', FreshCandidateIds freshId' server.db →
      ∃ counts' alone, scanAccounts unicode providers ScanFaults.none freshId'
          (unfailing unicode providers faults freshId server accounts) server =
          (.ok counts', alone) ∧
        ((addedRows server server').filter fun row => row.emailAccountId ∈
            (unfailing unicode providers faults freshId server accounts).map EmailAccount.id).map
              withoutId = (addedRows server alone).map withoutId
  countedOnce : ∀ counts server', scanAccounts unicode providers faults freshId accounts server =
      (.ok counts, server') →
    counts.scannedAccounts = accounts.zipIdx.countP (fun account =>
        hasActiveRule server account && !fails unicode providers faults freshId server account) ∧
      counts.failedAccounts =
        accounts.zipIdx.countP (fails unicode providers faults freshId server)

/-- A message that was listed for the account stops its scan under one of the rules. -/
def ProposalFails (account : EmailAccount × Nat) : Prop :=
  faults.ruleQuery account.2 = none ∧
    ∃ messages pair, listing providers server.db account.1 = .ok messages ∧
      pair ∈ pairings messages (server.db.activeRules account.1.id) ∧
      pair.Fails unicode (faults.fault account.2 pair.messageAt pair.ruleAt pair.message)

end Specification

section Counting

variable {unicode : UnicodeData} {providers : MailProviderRegistry} {faults : ScanFaults}
  {freshId : Nat → Nat → Nat → String} {server : MailServer} {account : EmailAccount} {i : Nat}

theorem fails_eq (hlawful : providers.Lawful) (hfresh : FreshCandidateIds freshId server.db)
    (haccount : account ∈ server.db.emailAccounts.rows) :
    fails unicode providers faults freshId server (account, i) =
      (accountOutcome unicode providers faults freshId server.db account i).failed := by
  obtain ⟨result, state', hrun, hafter⟩ :=
    @scanAccount_run unicode providers faults freshId server.db account i [] ⟨server, ⟨0, 0, 0⟩⟩
      hlawful hfresh.drawsOnce (ScannedFrom.refl server.db) haccount (by simp)
      (fun row hrow j k => hfresh.unused row hrow i j k)
  rw [fails, hrun, hafter.result, Bool.not_not]

/-- An account that does not fail is listed exactly when it has an active rule. -/
theorem outcome_listed (outcome : AccountOutcome)
    (houtcome : outcome = accountOutcome unicode providers faults freshId server.db account i) :
    (hasActiveRule server (account, i) && !outcome.failed) =
      (outcome.listed && !outcome.failed) := by
  have hrules : hasActiveRule server (account, i) =
      !decide (server.db.activeRules account.id = []) := by
    simp [hasActiveRule]
  rw [houtcome, hrules]
  unfold accountOutcome
  split
  · simp
  · simp
  · by_cases hempty : server.db.activeRules account.id = []
    · simp [hempty]
    · rw [if_neg hempty]
      split <;> simp [hempty]

theorem firstError_isSome_iff {α : Type} {attempts : List (Except Exception α)} :
    (firstError attempts).isSome = true ↔ ∃ err, .error err ∈ attempts := by
  induction attempts with
  | nil => simp [firstError]
  | cons first rest ih =>
      cases first with
      | ok a => simpa [firstError] using ih
      | error err => simp [firstError]

theorem attempt_error_iff {emailAccountId : String} {pair : Pairing} :
    (∃ err, attempt unicode faults freshId i emailAccountId pair = some (.error err)) ↔
      pair.Fails unicode (faults.fault i pair.messageAt pair.ruleAt pair.message) := by
  have hreadable := @RuleMatcher.messageMatchesRule_returns_iff unicode pair.message pair.rule
  unfold Pairing.Fails
  rcases hjudged : RuleMatcher.messageMatchesRule unicode pair.message pair.rule with err | _ | _
  · rw [attempt_of_thrown hjudged, ← hreadable, hjudged]
    simp
  · rw [attempt_none_iff.mpr hjudged, ← hreadable, hjudged]
    simp
  · rw [attempt_of_accepted hjudged, ← hreadable, hjudged]
    unfold insertion candidateInput
    cases faults.fault i pair.messageAt pair.ruleAt pair.message with
    | some fault => simp
    | none => cases pair.message.receivedAt <;> simp

theorem pairings_nil (messages : List RawMailMessage) : pairings messages [] = [] := by
  simp [pairings]

/-- The attempts of an account meet a failure when one of the pairs fails. -/
theorem attempts_fail_iff {messages : List RawMailMessage}
    (hlisting : listing providers server.db account = .ok messages)
    (hquery : faults.ruleQuery i = none) :
    (firstError (attempts unicode faults freshId i account.id messages
        (server.db.activeRules account.id))).isSome = true ↔
      ProposalFails unicode providers faults server (account, i) := by
  rw [firstError_isSome_iff, ProposalFails]
  constructor
  · rintro ⟨err, herror⟩
    obtain ⟨pair, hpair, hattempt⟩ := List.mem_filterMap.mp herror
    exact ⟨hquery, messages, pair, hlisting, hpair, attempt_error_iff.mp ⟨err, hattempt⟩⟩
  · rintro ⟨-, messages', pair, hlisting', hpair, hfails⟩
    obtain rfl := Except.ok.inj (hlisting.symm.trans hlisting')
    obtain ⟨err, hattempt⟩ := attempt_error_iff.mpr hfails
    exact ⟨err, List.mem_filterMap.mpr ⟨pair, hpair, hattempt⟩⟩

/-- An account is both listed and failed when a proposal fails. -/
theorem listed_and_failed_iff :
    ((accountOutcome unicode providers faults freshId server.db account i).listed &&
        (accountOutcome unicode providers faults freshId server.db account i).failed) = true ↔
      ProposalFails unicode providers faults server (account, i) := by
  unfold accountOutcome
  cases hget : providers.get account.providerType with
  | error err =>
      have hlisting : listing providers server.db account = .error err := by
        rw [listing, hget]
        rfl
      simp [ProposalFails, hlisting]
  | ok provider =>
      cases hquery : faults.ruleQuery i with
      | some err => simp [ProposalFails, hquery]
      | none =>
          by_cases hempty : server.db.activeRules account.id = []
          · simp [ProposalFails, hempty, pairings_nil]
          · rw [if_neg hempty]
            cases hlisting : listing providers server.db account with
            | error err => simp [ProposalFails, hlisting]
            | ok messages =>
                rw [← @attempts_fail_iff unicode providers faults freshId server account i messages
                  hlisting hquery]
                simp

theorem countP_split {α : Type} (p q : α → Bool) (items : List α) :
    items.countP p = items.countP (fun a => p a && !q a) + items.countP (fun a => p a && q a) := by
  induction items with
  | nil => rfl
  | cons a items ih =>
      rw [List.countP_cons, List.countP_cons, List.countP_cons, ih]
      cases p a <;> cases q a <;> simp <;> omega

/-- The two counters count each account once exactly when no proposal fails. -/
theorem countedOnce_iff {accounts : List EmailAccount} {counts : ScanResult}
    {server' : MailServer} {seen : List String}
    (hfails : ∀ account ∈ accounts.zipIdx, fails unicode providers faults freshId server account =
      (accountOutcome unicode providers faults freshId server.db account.1 account.2).failed)
    (hafter : AfterAccounts server.db seen
      (outcomes unicode providers faults freshId server.db accounts 0)
      ⟨server, ⟨0, 0, 0⟩⟩ ⟨server', counts⟩) :
    (counts.scannedAccounts = accounts.zipIdx.countP (fun account =>
        hasActiveRule server account && !fails unicode providers faults freshId server account) ∧
      counts.failedAccounts =
        accounts.zipIdx.countP (fails unicode providers faults freshId server)) ↔
      ∀ account ∈ accounts.zipIdx, ¬ ProposalFails unicode providers faults server account := by
  let outcome (account : EmailAccount × Nat) : AccountOutcome :=
    accountOutcome unicode providers faults freshId server.db account.1 account.2
  have hcount : ∀ p : AccountOutcome → Bool,
      (outcomes unicode providers faults freshId server.db accounts 0).countP p =
        accounts.zipIdx.countP fun account => p (outcome account) :=
    fun p => List.countP_map
  have hfailed : counts.failedAccounts =
      accounts.zipIdx.countP (fails unicode providers faults freshId server) := by
    rw [show counts.failedAccounts = 0 + _ from hafter.failedAccounts, Nat.zero_add, hcount]
    apply List.countP_congr
    intro account haccount
    rw [hfails account haccount]
  have hscanned : counts.scannedAccounts =
      accounts.zipIdx.countP fun account => (outcome account).listed := by
    rw [show counts.scannedAccounts = 0 + _ from hafter.scannedAccounts, Nat.zero_add, hcount]
  have hunfailing : (accounts.zipIdx.countP fun account => hasActiveRule server account &&
      !fails unicode providers faults freshId server account) =
        accounts.zipIdx.countP fun account =>
          (outcome account).listed && !(outcome account).failed := by
    apply List.countP_congr
    intro account haccount
    rw [hfails account haccount]
    exact Bool.eq_iff_iff.mp (outcome_listed (outcome account) rfl)
  -- What is counted twice are the accounts that were listed and failed after it.
  rw [hscanned, hunfailing,
    countP_split (fun account => (outcome account).listed) fun account => (outcome account).failed]
  constructor
  · rintro ⟨hsum, -⟩ account haccount hinsert
    have hnone := List.countP_eq_zero.mp (Nat.add_eq_left.mp hsum) account haccount
    exact hnone (listed_and_failed_iff.mpr hinsert)
  · intro hnone
    refine ⟨Nat.add_eq_left.mpr (List.countP_eq_zero.mpr ?_), hfailed⟩
    intro account haccount hboth
    exact hnone account haccount (listed_and_failed_iff.mp hboth)

end Counting

/-! ## Isolation -/

section Isolation

variable {unicode : UnicodeData} {providers : MailProviderRegistry} {faults : ScanFaults}
  {freshId : Nat → Nat → Nat → String} {start : Database} {account : EmailAccount} {i : Nat}

/-- The rows of an account in a scan without faults, but for their ids. -/
def accountRows (unicode : UnicodeData) (providers : MailProviderRegistry) (start : Database)
    (account : EmailAccount) : List EmailCandidate :=
  (accountOutcome unicode providers ScanFaults.none (fun _ _ _ => "") start account 0).rows

/-- Up to ids, the attempts do not depend on the positions, as long as no matching
pair meets a fault. -/
theorem leading_attempts_withoutId {emailAccountId : String} {pairs : List Pairing}
    (hnone : ∀ pair ∈ pairs,
      RuleMatcher.messageMatchesRule unicode pair.message pair.rule = .ok true →
        faults.fault i pair.messageAt pair.ruleAt pair.message = none) :
    (leading (pairs.filterMap (attempt unicode faults freshId i emailAccountId))).map withoutId =
      leading (pairs.filterMap
        (attempt unicode ScanFaults.none (fun _ _ _ => "") 0 emailAccountId)) := by
  induction pairs with
  | nil => rfl
  | cons pair pairs ih =>
      have hrest := ih fun other hother => hnone other (List.mem_cons_of_mem _ hother)
      rcases hjudged : RuleMatcher.messageMatchesRule unicode pair.message pair.rule with
        err | _ | _
      · rw [List.filterMap_cons_some (attempt_of_thrown hjudged),
          List.filterMap_cons_some (attempt_of_thrown hjudged)]
        rfl
      · rw [List.filterMap_cons_none (attempt_none_iff.mpr hjudged),
          List.filterMap_cons_none (attempt_none_iff.mpr hjudged)]
        exact hrest
      · have hfault := hnone pair List.mem_cons_self hjudged
        have hnever : ScanFaults.none.fault 0 pair.messageAt pair.ruleAt pair.message = none := rfl
        rw [List.filterMap_cons_some (attempt_of_accepted hjudged),
          List.filterMap_cons_some (attempt_of_accepted hjudged)]
        unfold insertion candidateInput
        rw [hfault, hnever]
        cases pair.message.receivedAt with
        | none => rfl
        | some receivedAt => exact congrArg _ hrest

theorem rows_withoutId_of_none (freshId : Nat → Nat → Nat → String) (i : Nat) :
    (accountOutcome unicode providers ScanFaults.none freshId start account i).rows.map withoutId =
      accountRows unicode providers start account := by
  unfold accountRows accountOutcome
  cases providers.get account.providerType with
  | error err => rfl
  | ok provider =>
      by_cases hempty : start.activeRules account.id = []
      · simp [hempty, ScanFaults.none]
      · cases listing providers start account with
        | error err => simp [hempty, ScanFaults.none]
        | ok messages =>
            simp only [hempty, if_false, ScanFaults.none]
            exact leading_attempts_withoutId fun _ _ _ => rfl

/-- An account that does not fail gets the rows of a scan without faults. -/
theorem rows_withoutId_of_unfailing
    (hfailed : (accountOutcome unicode providers faults freshId start account i).failed = false) :
    (accountOutcome unicode providers faults freshId start account i).rows.map withoutId =
      accountRows unicode providers start account := by
  have hproposal : ¬ ProposalFails unicode providers faults ⟨start, [], []⟩ (account, i) := by
    rw [← @listed_and_failed_iff unicode providers faults freshId ⟨start, [], []⟩ account i, hfailed]
    simp
  revert hfailed
  unfold accountRows accountOutcome
  cases providers.get account.providerType with
  | error err => simp
  | ok provider =>
      cases hquery : faults.ruleQuery i with
      | some err => simp
      | none =>
          intro _
          by_cases hempty : start.activeRules account.id = []
          · simp [hempty, ScanFaults.none]
          · cases hlisting : listing providers start account with
            | error err => simp [hempty, ScanFaults.none]
            | ok messages =>
                simp only [hempty, if_false, ScanFaults.none]
                apply leading_attempts_withoutId
                intro pair hpair hmatches
                by_contra hfault
                exact hproposal ⟨hquery, messages, pair, hlisting, hpair,
                  .inr ⟨hmatches, .inl hfault⟩⟩

/-- The rows that a scan adds are the first ones of the new keys. -/
theorem addedRows_eq {server server' : MailServer} {rows : List EmailCandidate}
    (hrows : server'.db.emailCandidates.rows =
      collect EmailCandidate.uniqueIndex server.db.emailCandidates.rows rows) :
    addedRows server server' = collect EmailCandidate.uniqueIndex []
      (rows.filter (isNew EmailCandidate.uniqueIndex server.db.emailCandidates.rows)) := by
  rw [addedRows, hrows, collect_eq_append, List.drop_left]

/-- The rule of the candidate is one of the account it names. -/
def RuleOfAccount (db : Database) (row : EmailCandidate) : Prop :=
  ∃ rule ∈ db.emailRules.rows, rule.id = row.ruleId ∧ rule.emailAccountId = row.emailAccountId

theorem ruleOfAccount_of_outcome {row : EmailCandidate}
    (hrow : row ∈ (accountOutcome unicode providers faults freshId start account i).rows) :
    RuleOfAccount start row ∧ row.emailAccountId = account.id := by
  obtain ⟨messages, pair, -, hpair, hattempt⟩ := mem_outcome_rows hrow
  obtain ⟨-, -, hinput⟩ := attempt_ok_iff.mp hattempt
  obtain ⟨-, hrow⟩ := candidateInput_ok_iff.mp hinput
  obtain ⟨rule, hrule, hpairRule⟩ := List.mem_map.mp (mem_pairings hpair).2
  have haccount : row.emailAccountId = account.id := by rw [hrow]
  obtain ⟨hstored, hselected⟩ := List.mem_filter.mp hrule
  have hselected := of_decide_eq_true hselected
  refine ⟨⟨rule, hstored, ?_, hselected.1.trans haccount.symm⟩, haccount⟩
  rw [hrow]
  show rule.id = pair.rule.rule.id
  rw [← hpairRule]
  rfl

/-- Candidates of one key name the same account. -/
theorem emailAccountId_eq_of_index {row other : EmailCandidate} (hrow : RuleOfAccount start row)
    (hother : RuleOfAccount start other) (hindex : row.uniqueIndex = other.uniqueIndex) :
    row.emailAccountId = other.emailAccountId := by
  obtain ⟨rule, hrule, hid, haccount⟩ := hrow
  obtain ⟨rule', hrule', hid', haccount'⟩ := hother
  have hruleId : rule.id = rule'.id := by
    rw [hid, hid']
    exact congrArg Prod.fst hindex
  rw [← haccount, ← haccount', start.emailRules.eq_of_key_eq hrule hrule' hruleId]

theorem flatMap_filter {α β : Type} (select : α → Bool) (g : α → List β) (items : List α) :
    (items.filter select).flatMap g = items.flatMap fun a => if select a then g a else [] := by
  induction items with
  | nil => rfl
  | cons a items ih =>
      by_cases hselect : select a = true
      · rw [List.filter_cons_of_pos hselect, List.flatMap_cons, List.flatMap_cons, ih, if_pos hselect]
      · rw [List.filter_cons_of_neg hselect, List.flatMap_cons, ih, if_neg hselect]
        rfl

/-- Of all the rows, those of selected accounts are the rows of their outcomes. -/
theorem filter_outcomes {accounts : List (EmailAccount × Nat)}
    (hnodup : (accounts.map fun account => account.1.id).Nodup)
    (select : EmailAccount × Nat → Bool) :
    ((accounts.flatMap fun account =>
        (accountOutcome unicode providers faults freshId start account.1 account.2).rows).filter
      fun row => row.emailAccountId ∈ (accounts.filter select).map fun account => account.1.id) =
      (accounts.filter select).flatMap fun account =>
        (accountOutcome unicode providers faults freshId start account.1 account.2).rows := by
  have hmem : ∀ account ∈ accounts, account.1.id ∈
      (accounts.filter select).map (fun account => account.1.id) ↔ select account = true := by
    intro account haccount
    constructor
    · intro hid
      obtain ⟨other, hother, heq⟩ := List.mem_map.mp hid
      obtain ⟨hother, hselect⟩ := List.mem_filter.mp hother
      rw [← List.inj_on_of_nodup_map hnodup hother haccount heq]
      exact hselect
    · intro hselect
      exact List.mem_map.mpr ⟨account, List.mem_filter.mpr ⟨haccount, hselect⟩, rfl⟩
  rw [List.filter_flatMap, flatMap_filter]
  apply List.flatMap_congr
  intro account haccount
  by_cases hselect : select account = true
  · rw [if_pos hselect]
    apply List.filter_eq_self.mpr
    intro row hrow
    rw [(ruleOfAccount_of_outcome hrow).2]
    exact decide_eq_true ((hmem account haccount).mpr hselect)
  · rw [if_neg hselect]
    apply List.filter_eq_nil_iff.mpr
    intro row hrow
    rw [(ruleOfAccount_of_outcome hrow).2]
    intro hid
    exact hselect ((hmem account haccount).mp (of_decide_eq_true hid))

/-- Rows that are new by key are so up to their ids. -/
theorem map_withoutId_filter_isNew (stored rows : List EmailCandidate) :
    (rows.filter (isNew EmailCandidate.uniqueIndex stored)).map withoutId =
      (rows.map withoutId).filter (isNew EmailCandidate.uniqueIndex stored) := by
  rw [List.filter_map]
  rfl

theorem collect_withoutId (rows : List EmailCandidate) :
    (collect EmailCandidate.uniqueIndex [] rows).map withoutId =
      collect EmailCandidate.uniqueIndex [] (rows.map withoutId) := by
  have hview : ∀ row other : EmailCandidate, True → True →
      ((withoutId row).uniqueIndex = (withoutId other).uniqueIndex ↔
        row.uniqueIndex = other.uniqueIndex) :=
    fun _ _ _ _ => Iff.rfl
  exact map_collect hview (by simp) fun _ _ => trivial

/-- The rows a scan without faults asks for, but for their ids. -/
theorem outcomes_withoutId_of_none (accounts : List EmailAccount) :
    ((outcomes unicode providers ScanFaults.none freshId start accounts 0).flatMap
        AccountOutcome.rows).map withoutId =
      accounts.flatMap (accountRows unicode providers start) := by
  have haccounts : accounts.flatMap (accountRows unicode providers start) =
      accounts.zipIdx.flatMap fun account => accountRows unicode providers start account.1 := by
    conv_lhs => rw [← List.zipIdx_map_fst 0 accounts]
    exact List.flatMap_map _ _ _
  rw [haccounts, outcomes, List.flatMap_map, List.map_flatMap]
  apply List.flatMap_congr
  intro account _
  exact rows_withoutId_of_none freshId account.2

/-- The rows of the accounts that do not fail, but for their ids. -/
theorem outcomes_withoutId_of_unfailing {accounts : List EmailAccount}
    (hnodup : (accounts.map EmailAccount.id).Nodup) (select : EmailAccount × Nat → Bool)
    (hselect : ∀ account ∈ accounts.zipIdx, select account = true →
      (accountOutcome unicode providers faults freshId start account.1 account.2).failed =
        false) :
    (((outcomes unicode providers faults freshId start accounts 0).flatMap
        AccountOutcome.rows).filter fun row => row.emailAccountId ∈
          ((accounts.zipIdx.filter select).map Prod.fst).map EmailAccount.id).map withoutId =
      ((accounts.zipIdx.filter select).map Prod.fst).flatMap
        (accountRows unicode providers start) := by
  have hids : (accounts.zipIdx.map fun account => account.1.id) = accounts.map EmailAccount.id := by
    conv_rhs => rw [← List.zipIdx_map_fst 0 accounts]
    rw [List.map_map]
    rfl
  have hrows := @filter_outcomes unicode providers faults freshId start accounts.zipIdx
    (hids ▸ hnodup) select
  rw [outcomes, List.flatMap_map, List.map_map]
  refine (congrArg (List.map withoutId) hrows).trans ?_
  rw [List.map_flatMap, List.flatMap_map]
  apply List.flatMap_congr
  intro account haccount
  obtain ⟨haccount, hselected⟩ := List.mem_filter.mp haccount
  exact rows_withoutId_of_unfailing (hselect account haccount hselected)

/-- The accounts that do not fail get the rows of a scan of their own. -/
theorem scanAccounts_isolated {server : MailServer} {accounts : List EmailAccount}
    (hlawful : providers.Lawful) (hfresh : FreshCandidateIds freshId server.db)
    (haccounts : ScannedAccounts server.db accounts) {counts : ScanResult} {server' : MailServer}
    (hrun : scanAccounts unicode providers faults freshId accounts server = (.ok counts, server'))
    {freshId' : Nat → Nat → Nat → String} (hfresh' : FreshCandidateIds freshId' server.db) :
    ∃ counts' alone, scanAccounts unicode providers ScanFaults.none freshId'
        (unfailing unicode providers faults freshId server accounts) server =
        (.ok counts', alone) ∧
      ((addedRows server server').filter fun row => row.emailAccountId ∈
          (unfailing unicode providers faults freshId server accounts).map EmailAccount.id).map
            withoutId = (addedRows server alone).map withoutId := by
  set good := unfailing unicode providers faults freshId server accounts with hgood
  have hsublist : good.Sublist accounts := by
    have hmap := (List.filter_sublist (p := fun account =>
      !fails unicode providers faults freshId server account) (l := accounts.zipIdx)).map Prod.fst
    rwa [List.zipIdx_map_fst] at hmap
  have haccounts' : ScannedAccounts server.db good :=
    ⟨fun account haccount => haccounts.stored account (hsublist.subset haccount),
      (hsublist.map EmailAccount.id).nodup haccounts.nodup⟩
  obtain ⟨counts₁, server₁, hrun₁, seen, hafter⟩ :=
    @scanAccounts_run unicode providers faults freshId accounts server hlawful hfresh haccounts
  obtain ⟨hcounts, hserver⟩ := Prod.mk.inj (hrun.symm.trans hrun₁)
  obtain rfl := Except.ok.inj hcounts
  subst hserver
  obtain ⟨counts', alone, halone, seen', hafter'⟩ :=
    @scanAccounts_run unicode providers ScanFaults.none freshId' good server hlawful hfresh'
      haccounts'
  refine ⟨counts', alone, halone, ?_⟩
  set rows := (outcomes unicode providers faults freshId server.db accounts 0).flatMap
    AccountOutcome.rows with hrows
  have hmine : ∀ row ∈ rows, RuleOfAccount server.db row := by
    intro row hrow
    obtain ⟨outcome, houtcome, hrow⟩ := List.mem_flatMap.mp hrow
    obtain ⟨account, -, rfl⟩ := List.mem_map.mp houtcome
    exact (ruleOfAccount_of_outcome hrow).1
  -- Rows with one index entry are of one account, so the selection commutes with the loop.
  have hselect : ∀ row other : EmailCandidate, RuleOfAccount server.db row →
      RuleOfAccount server.db other → row.uniqueIndex = other.uniqueIndex →
      decide (row.emailAccountId ∈ good.map EmailAccount.id) =
        decide (other.emailAccountId ∈ good.map EmailAccount.id) := by
    intro row other hrow hother hindex
    rw [emailAccountId_eq_of_index hrow hother hindex]
  have hgoodRows : (rows.filter fun row =>
      row.emailAccountId ∈ good.map EmailAccount.id).map withoutId =
        good.flatMap (accountRows unicode providers server.db) := by
    apply outcomes_withoutId_of_unfailing haccounts.nodup
    intro account haccount hunfailing
    rw [← fails_eq hlawful hfresh
      (haccounts.stored account.1 (List.fst_mem_of_mem_zipIdx haccount))]
    simpa using hunfailing
  rw [addedRows_eq hafter.candidates, addedRows_eq hafter'.candidates, collect_withoutId,
    map_withoutId_filter_isNew, outcomes_withoutId_of_none,
    filter_collect hselect (by simp) fun row hrow => hmine row (List.mem_filter.mp hrow).1,
    List.filter_nil, collect_withoutId]
  congr 1
  rw [List.filter_filter]
  simp only [Bool.and_comm]
  rw [← List.filter_filter, map_withoutId_filter_isNew, hgoodRows]

end Isolation

/-- A scan returns, isolates its failing accounts and counts each account once
exactly when no proposal of a listed account fails. -/
theorem scanAccounted_iff {unicode : UnicodeData} {providers : MailProviderRegistry}
    {faults : ScanFaults} {freshId : Nat → Nat → Nat → String} {server : MailServer}
    {accounts : List EmailAccount} (hlawful : providers.Lawful)
    (hfresh : FreshCandidateIds freshId server.db) (haccounts : ScannedAccounts server.db accounts) :
    ScanAccounted unicode providers faults freshId server accounts ↔
      ∀ account ∈ accounts.zipIdx, ¬ ProposalFails unicode providers faults server account := by
  obtain ⟨counts, server', hrun, seen, hafter⟩ :=
    @scanAccounts_run unicode providers faults freshId accounts server hlawful hfresh haccounts
  have hfails : ∀ account ∈ accounts.zipIdx,
      fails unicode providers faults freshId server account =
        (accountOutcome unicode providers faults freshId server.db account.1 account.2).failed :=
    fun account haccount => fails_eq hlawful hfresh
      (haccounts.stored account.1 (List.fst_mem_of_mem_zipIdx haccount))
  have hcounted := countedOnce_iff hfails hafter
  constructor
  · intro haccounted
    exact hcounted.mp (haccounted.countedOnce counts server' hrun)
  · intro hinsert
    have hkept : server.db.emailCandidates.rows <+: server'.db.emailCandidates.rows := by
      rw [show server'.db.emailCandidates.rows = _ from hafter.candidates]
      exact prefix_collect _ _
    refine ⟨⟨counts, server', hrun, hkept, fun freshId' hfresh' =>
      scanAccounts_isolated hlawful hfresh haccounts hrun hfresh'⟩, ?_⟩
    intro counts₁ server₁ hrun₁
    obtain ⟨hcounts, -⟩ := Prod.mk.inj (hrun.symm.trans hrun₁)
    obtain rfl := Except.ok.inj hcounts
    exact hcounted.mpr hinsert

/-! ## A message without a date that can be read -/

namespace OneMessage

def tokenKey : symbolicRuntime.Key := ("server", "key")

def account : EmailAccount where
  id := "e"
  userId := "u"
  providerType := "gmail"
  displayName := "me@example.com"
  encryptedAccessToken := symbolicRuntime.encrypt "access" tokenKey "iv"
  encryptedRefreshToken := symbolicRuntime.encrypt "refresh" tokenKey "iv"
  tokenExpiresAt := none
  isActive := true
  connectedAt := 0

/-- A rule for every message without an attachment. -/
def rule (id actionType : String) : EmailRule := ⟨id, "e", .AND, actionType, true, 0⟩

def condition (id ruleId : String) : EmailRuleCondition :=
  ⟨id, ruleId, "has_attachment", .obj [("equals", .bool false)]⟩

def db : Database :=
  { Database.empty with
    users := ⟨[⟨"u", "g", "me@example.com", "hash", "salt", 15, 0⟩], by decide⟩
    emailAccounts := ⟨[account], by decide⟩
    emailRules := ⟨[rule "r" "delete_candidate"], by decide⟩
    emailRuleConditions := ⟨[condition "c" "r"], by decide⟩ }

/-- A mailbox with one message that has the given headers. -/
def google (headers : List GmailHeader) : GoogleApi where
  getAccessToken credentials := .ok credentials
  messagesList _ _ _ := .ok ⟨some ["m"], none⟩
  messagesGet _ id _ := .ok ⟨id, some (.mk none (some headers) none), none, some "1000"⟩
  messagesTrash _ _ := .ok ()
  messagesModify _ _ _ := .ok ()

def environment (headers : List GmailHeader) : GmailEnvironment symbolicRuntime where
  unicode := asciiData
  google := google headers
  tokenKey := tokenKey
  dateOfText _ := none
  dateOfNumber _ := some 1000
  iv _ := "iv"

def freshId (i j k : Nat) : String :=
  String.ofList (List.replicate i 'i' ++ List.replicate j 'j' ++ List.replicate k 'k')

theorem drawsOnce : DrawsOnce freshId := by
  intro i j k i' j' k' heq
  have hcount : ∀ c, (freshId i j k).toList.count c = (freshId i' j' k').toList.count c := by
    rw [heq]
    exact fun _ => rfl
  have hi := hcount 'i'
  have hj := hcount 'j'
  have hk := hcount 'k'
  simp [freshId, List.count_append, List.count_replicate] at hi hj hk
  exact ⟨hi, hj, hk⟩

theorem readable : ∀ rule ∈ db.activeRules account.id, rule.Readable := by decide +kernel

theorem freshIds {db : Database} (hempty : db.emailCandidates.rows = []) :
    FreshCandidateIds freshId db where
  drawsOnce := drawsOnce
  unused row hrow := by
    rw [hempty] at hrow
    contradiction

end OneMessage

open OneMessage in
/-- A Date header that is no date: the account is counted as scanned and as failed. -/
theorem scanAccounted_fails :
    (gmailRegistry (environment [⟨some "Date", some "not a date"⟩])).Lawful ∧
      FreshCandidateIds freshId db ∧ ScannedAccounts db [account] ∧
      ¬ ScanAccounted asciiData (gmailRegistry (environment [⟨some "Date", some "not a date"⟩]))
        ScanFaults.none freshId ⟨db, [], []⟩ [account] := by
  refine ⟨gmailRegistry_lawful _, freshIds rfl, ⟨by decide, by decide⟩, fun haccounted => ?_⟩
  obtain ⟨counts, server', hrun, -⟩ := haccounted.isolated
  obtain ⟨hscanned, -⟩ := haccounted.countedOnce counts server' hrun
  have hcounts : (scanAccounts asciiData
      (gmailRegistry (environment [⟨some "Date", some "not a date"⟩])) ScanFaults.none freshId
      [account] ⟨db, [], []⟩).1 = .ok ⟨1, 0, 1⟩ := by decide +kernel
  rw [hrun] at hcounts
  rw [Except.ok.inj hcounts] at hscanned
  revert hscanned
  decide +kernel

open OneMessage in
/-- Without the header the message is dated by Gmail, and the scan is accounted for. -/
theorem scanAccounted_iff_example :
    ScanAccounted asciiData (gmailRegistry (environment [])) ScanFaults.none freshId
      ⟨db, [], []⟩ [account] := by
  apply (scanAccounted_iff (gmailRegistry_lawful _) (freshIds rfl) ⟨by decide, by decide⟩).mpr
  rintro located hlocated ⟨-, messages, pair, hlisting, hpair, hfails⟩
  obtain rfl := List.mem_singleton.mp hlocated
  have hlisted : listing (gmailRegistry (environment [])) db account =
      .ok [⟨"m", "", "", "", some 1000, false⟩] := by decide +kernel
  obtain rfl := Except.ok.inj (hlisted.symm.trans hlisting)
  obtain ⟨hmessage, hrule⟩ := mem_pairings hpair
  have hmessage := List.mem_singleton.mp hmessage
  unfold Pairing.Fails at hfails
  rw [hmessage] at hfails
  rcases hfails with hunreadable | ⟨-, hfault | hdate⟩
  · exact hunreadable (readable pair.rule hrule)
  · exact hfault rfl
  · contradiction

end CandidatesService

end MyAccountController
