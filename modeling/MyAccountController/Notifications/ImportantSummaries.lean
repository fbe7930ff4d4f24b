import MyAccountController.Isolation.OwnRows
import MyAccountController.Mail.ImportantCount
import MyAccountController.Notifications.NotificationsService

/-! # The two counts of important mails

The summary of the notifications counts the pending candidates of every rule, the
other one the approved candidates of important rules. They agree only where the
pending candidates are all important and as many as those.
-/

namespace MyAccountController

open Foundation

namespace NotificationsService

/-- The rule of the candidate marks its mails as important. -/
def isImportant (db : Database) (row : EmailCandidate) : Bool :=
  (db.emailRules.find? row.ruleId).any fun rule => rule.actionType = "important"

/-- The candidates of the account that have the status and an important rule. -/
def countImportant (db : Database) (status : CandidateStatus) (emailAccountId : String) : Nat :=
  db.emailCandidates.rows.countP fun row =>
    row.emailAccountId = emailAccountId ∧ row.status = status ∧ isImportant db row

/-- The count of the account, 0 when it is absent. -/
def countOf (counts : List NotificationCount) (emailAccountId : String) : Nat :=
  ((counts.find? (·.emailAccountId = emailAccountId)).map NotificationCount.count).getD 0

/-- For each email account of the user both summaries give the same count, and both count only
candidates of important rules. -/
def SummariesAgree (userId : String) (db : Database) : Prop :=
  ∃ counts summaries, (summary db).1 = .ok counts ∧
    (CandidatesService.importantSummary userId db).1 = .ok summaries ∧
    ∀ account ∈ db.emailAccounts.rows, account.userId = userId →
      ∃ entry ∈ summaries, entry.emailAccountId = account.id ∧
        countOf counts account.id = entry.importantCount ∧
        countOf counts account.id = countImportant db .PENDING account.id ∧
        entry.importantCount = countImportant db .APPROVED account.id

theorem countOf_map {ids : List String} {count : String → Nat} {id : String} :
    countOf (ids.map fun emailAccountId => ⟨emailAccountId, count emailAccountId⟩) id =
      if id ∈ ids then count id else 0 := by
  induction ids with
  | nil => rfl
  | cons other ids ih =>
      by_cases hother : other = id
      · subst hother
        simp [countOf]
      · have hskip : countOf ((other :: ids).map fun emailAccountId =>
            ⟨emailAccountId, count emailAccountId⟩) id = countOf (ids.map fun emailAccountId =>
              ⟨emailAccountId, count emailAccountId⟩) id := by
          simp [countOf, hother]
        rw [hskip, ih]
        simp [Ne.symm hother]

/-- The first summary counts what is pending. -/
theorem summary_count (db : Database) : ∃ counts, (summary db).1 = .ok counts ∧
    ∀ id, countOf counts id = db.emailCandidates.rows.countP fun row =>
      row.emailAccountId = id ∧ row.status = .PENDING := by
  refine ⟨_, rfl, fun id => ?_⟩
  have hpending : ((db.emailCandidates.rows.filter fun row => row.status = .PENDING).countP
      fun row => row.emailAccountId = id) = db.emailCandidates.rows.countP fun row =>
        row.emailAccountId = id ∧ row.status = .PENDING := by
    rw [List.countP_filter]
    simp only [Bool.decide_and]
  refine (@countOf_map _ (fun id => (db.emailCandidates.rows.filter fun row =>
    row.status = .PENDING).countP fun row => row.emailAccountId = id) id).trans ?_
  rw [hpending]
  split
  next => rfl
  next habsent =>
    -- An account without an entry has nothing pending.
    refine (List.countP_eq_zero.mpr fun row hrow hcounted => habsent ?_).symm
    obtain ⟨haccount, hstatus⟩ := of_decide_eq_true hcounted
    rw [List.mem_eraseDups]
    exact List.mem_map.mpr ⟨row, List.mem_filter.mpr ⟨hrow, decide_eq_true hstatus⟩, haccount⟩

/-- An account of the user has an entry with its approved candidates of important rules. -/
theorem importantSummary_count (userId : String) (db : Database) :
    ∃ summaries, (CandidatesService.importantSummary userId db).1 = .ok summaries ∧
      ∀ account ∈ db.emailAccounts.rows, account.userId = userId →
        ∃ entry ∈ summaries, entry.emailAccountId = account.id ∧
          entry.importantCount = countImportant db .APPROVED account.id := by
  refine ⟨_, MailServer.importantSummary_run userId db, fun account haccount huser => ?_⟩
  have hmem : account ∈ db.emailAccounts.rows.filter fun account => account.userId = userId :=
    List.mem_filter.mpr ⟨haccount, decide_eq_true huser⟩
  have howns : db.ownsEmailAccount userId account.id = true :=
    Database.ownsEmailAccount_iff_mem.mpr ⟨account, hmem, rfl⟩
  refine ⟨_, List.mem_map_of_mem hmem, rfl, List.countP_congr fun row _ => ?_⟩
  rw [decide_eq_true_iff, decide_eq_true_iff]
  constructor
  · rintro ⟨hid, hstatus, himportant, -⟩
    exact ⟨hid, hstatus, himportant⟩
  · rintro ⟨hid, hstatus, himportant⟩
    exact ⟨hid, hstatus, himportant, hid ▸ howns⟩

/-- All pending candidates are counted as important exactly where all of them are. -/
theorem countP_pending_iff {db : Database} {id : String} :
    (db.emailCandidates.rows.countP fun row => row.emailAccountId = id ∧ row.status = .PENDING) =
        countImportant db .PENDING id ↔
      ∀ row ∈ db.emailCandidates.rows, row.emailAccountId = id → row.status = .PENDING →
        isImportant db row = true := by
  constructor
  · intro hsame row hrow hid hstatus
    by_contra hnot
    -- One that is pending under another rule makes the first count larger.
    have hless := @countP_lt _ db.emailCandidates.rows
      (fun row => row.emailAccountId = id ∧ row.status = .PENDING ∧ isImportant db row)
      (fun row => row.emailAccountId = id ∧ row.status = .PENDING) row
      (fun other _ hcounted => by
        obtain ⟨hid, hstatus, -⟩ := of_decide_eq_true hcounted
        exact decide_eq_true ⟨hid, hstatus⟩)
      hrow (decide_eq_false fun hcounted => hnot hcounted.2.2) (decide_eq_true ⟨hid, hstatus⟩)
    exact absurd hsame (Nat.ne_of_gt hless)
  · intro hall
    refine List.countP_congr fun row hrow => ?_
    rw [decide_eq_true_iff, decide_eq_true_iff]
    constructor
    · exact fun ⟨hid, hstatus⟩ => ⟨hid, hstatus, hall row hrow hid hstatus⟩
    · exact fun ⟨hid, hstatus, _⟩ => ⟨hid, hstatus⟩

/-- The summaries agree on a user's accounts exactly where all pending candidates of an account
have important rules, and there are as many of them as approved ones. -/
theorem summariesAgree_iff (userId : String) (db : Database) :
    SummariesAgree userId db ↔
      ∀ account ∈ db.emailAccounts.rows, account.userId = userId →
        (∀ row ∈ db.emailCandidates.rows, row.emailAccountId = account.id →
          row.status = .PENDING → isImportant db row = true) ∧
        countImportant db .PENDING account.id = countImportant db .APPROVED account.id := by
  obtain ⟨counts, hcounts, hcount⟩ := summary_count db
  obtain ⟨summaries, hsummaries, hentry⟩ := importantSummary_count userId db
  constructor
  · rintro ⟨counts', summaries', hcounts', -, hagree⟩ account haccount huser
    obtain rfl := Except.ok.inj (hcounts.symm.trans hcounts')
    obtain ⟨entry, -, -, hsame, hpending, happroved⟩ := hagree account haccount huser
    refine ⟨countP_pending_iff.mp ?_, ?_⟩
    · rw [← hcount, hpending]
    · rw [← hpending, hsame, happroved]
  · intro himportant
    refine ⟨counts, summaries, hcounts, hsummaries, fun account haccount huser => ?_⟩
    obtain ⟨entry, hmem, hid, happroved⟩ := hentry account haccount huser
    obtain ⟨hall, hsame⟩ := himportant account haccount huser
    have hpending : countOf counts account.id = countImportant db .PENDING account.id := by
      rw [hcount, countP_pending_iff.mpr hall]
    exact ⟨entry, hmem, hid, by rw [hpending, hsame, happroved], hpending, happroved⟩

/-! ## A pending mail -/

open CandidatesService.OneMessage in
/-- The candidate of a delete rule is waiting for its review. -/
def reviewed : Database :=
  { db with
    emailCandidates := ⟨[⟨"k", "r", "e", "m", "news@example.com", "Sale", 0, .PENDING, none⟩],
      by decide⟩ }

open CandidatesService.OneMessage in
/-- The mail to delete is counted as important by the notifications, and by the other not. -/
theorem not_summariesAgree : ¬ SummariesAgree "u" reviewed := by
  rintro ⟨counts, summaries, hcounts, -, hagree⟩
  have hone : (summary reviewed).1 = .ok [⟨"e", 1⟩] := rfl
  obtain rfl := Except.ok.inj (hone.symm.trans hcounts)
  obtain ⟨entry, -, -, -, himportant, -⟩ := hagree account (List.mem_singleton_self _) rfl
  revert himportant
  decide

end NotificationsService

end MyAccountController
