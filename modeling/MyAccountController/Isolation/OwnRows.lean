import MyAccountController.Mail.CandidatesService

/-! # The rows of a user

A user owns the user's row, the accounts, devices and email accounts that name the
user, and the rules, conditions and candidates under these email accounts. Who
owns an email account or a rule can be read off the rows of the owner.
-/

namespace MyAccountController

open Foundation

@[ext] structure OwnRows where
  users : List User
  trustedDevices : List TrustedDevice
  accounts : List Account
  emailAccounts : List EmailAccount
  emailRules : List EmailRule
  emailRuleConditions : List EmailRuleCondition
  emailCandidates : List EmailCandidate

namespace Database

/-- The rule is under an email account of the user. -/
def ownsRule (db : Database) (userId ruleId : String) : Bool :=
  (db.emailRules.find? ruleId).any fun rule => db.ownsEmailAccount userId rule.emailAccountId

def rowsOf (db : Database) (userId : String) : OwnRows where
  users := db.users.rows.filter fun row => row.id = userId
  trustedDevices := db.trustedDevices.rows.filter fun row => row.userId = userId
  accounts := db.accounts.rows.filter fun row => row.userId = userId
  emailAccounts := db.emailAccounts.rows.filter fun row => row.userId = userId
  emailRules := db.emailRules.rows.filter fun row => db.ownsEmailAccount userId row.emailAccountId
  emailRuleConditions := db.emailRuleConditions.rows.filter fun row => db.ownsRule userId row.ruleId
  emailCandidates :=
    db.emailCandidates.rows.filter fun row => db.ownsEmailAccount userId row.emailAccountId

/-- The rows of all other users are the same. -/
def SameForOthers (userId : String) (db db' : Database) : Prop :=
  ∀ other, other ≠ userId → db'.rowsOf other = db.rowsOf other

theorem SameForOthers.refl (userId : String) (db : Database) : SameForOthers userId db db :=
  fun _ _ => rfl

theorem SameForOthers.trans (userId : String) (a b c : Database) (hab : SameForOthers userId a b)
    (hbc : SameForOthers userId b c) : SameForOthers userId a c :=
  fun other hne => (hbc other hne).trans (hab other hne)

/-! ## Ownership -/

section Owners

variable {db db' : Database} {userId other id : String}

theorem ownsEmailAccount_iff_mem : db.ownsEmailAccount userId id = true ↔
    ∃ row ∈ (db.rowsOf userId).emailAccounts, row.id = id := by
  unfold ownsEmailAccount rowsOf
  rw [Option.any_eq_true]
  constructor
  · rintro ⟨row, hfind, huser⟩
    obtain ⟨hmem, hid⟩ := Table.find?_eq_some_iff.mp hfind
    exact ⟨row, List.mem_filter.mpr ⟨hmem, huser⟩, hid⟩
  · rintro ⟨row, hrow, hid⟩
    obtain ⟨hmem, huser⟩ := List.mem_filter.mp hrow
    exact ⟨row, Table.find?_eq_some_iff.mpr ⟨hmem, hid⟩, huser⟩

theorem ownsRule_iff_mem : db.ownsRule userId id = true ↔
    ∃ rule ∈ (db.rowsOf userId).emailRules, rule.id = id := by
  unfold ownsRule rowsOf
  rw [Option.any_eq_true]
  constructor
  · rintro ⟨rule, hfind, howns⟩
    obtain ⟨hmem, hid⟩ := Table.find?_eq_some_iff.mp hfind
    exact ⟨rule, List.mem_filter.mpr ⟨hmem, howns⟩, hid⟩
  · rintro ⟨rule, hrule, hid⟩
    obtain ⟨hmem, howns⟩ := List.mem_filter.mp hrule
    exact ⟨rule, Table.find?_eq_some_iff.mpr ⟨hmem, hid⟩, howns⟩

theorem ownsEmailAccount_congr
    (hsame : (db'.rowsOf userId).emailAccounts = (db.rowsOf userId).emailAccounts) :
    db'.ownsEmailAccount userId id = db.ownsEmailAccount userId id := by
  rw [Bool.eq_iff_iff, ownsEmailAccount_iff_mem, ownsEmailAccount_iff_mem, hsame]

theorem ownsRule_congr (hsame : (db'.rowsOf userId).emailRules = (db.rowsOf userId).emailRules) :
    db'.ownsRule userId id = db.ownsRule userId id := by
  rw [Bool.eq_iff_iff, ownsRule_iff_mem, ownsRule_iff_mem, hsame]

/-- An email account has one owner. -/
theorem ownsEmailAccount_unique (howns : db.ownsEmailAccount userId id = true)
    (hother : db.ownsEmailAccount other id = true) : other = userId := by
  unfold ownsEmailAccount at howns hother
  obtain ⟨row, hfind, huser⟩ := (Option.any_eq_true _ _).mp howns
  obtain ⟨row', hfind', hother⟩ := (Option.any_eq_true _ _).mp hother
  obtain rfl := Option.some.inj (hfind.symm.trans hfind')
  exact (of_decide_eq_true hother).symm.trans (of_decide_eq_true huser)

theorem ownsEmailAccount_other (hne : other ≠ userId)
    (howns : db.ownsEmailAccount userId id = true) : db.ownsEmailAccount other id = false :=
  Bool.eq_false_iff.mpr fun hother => hne (ownsEmailAccount_unique howns hother)

theorem ownsRule_of_find {rule : EmailRule} (hfind : db.emailRules.find? id = some rule) :
    db.ownsRule userId id = db.ownsEmailAccount userId rule.emailAccountId := by
  unfold ownsRule
  rw [hfind]
  rfl

/-- The rows of a user are the same when no table has other rows of the user, with the owners
of the email accounts and rules as they were. -/
theorem rowsOf_eq
    (husers : (db'.rowsOf userId).users = (db.rowsOf userId).users)
    (hdevices : (db'.rowsOf userId).trustedDevices = (db.rowsOf userId).trustedDevices)
    (haccounts : (db'.rowsOf userId).accounts = (db.rowsOf userId).accounts)
    (hemailAccounts : (db'.rowsOf userId).emailAccounts = (db.rowsOf userId).emailAccounts)
    (hrules : (db'.emailRules.rows.filter fun row =>
      db.ownsEmailAccount userId row.emailAccountId) = (db.rowsOf userId).emailRules)
    (hconditions : (db'.emailRuleConditions.rows.filter fun row => db.ownsRule userId row.ruleId) =
      (db.rowsOf userId).emailRuleConditions)
    (hcandidates : (db'.emailCandidates.rows.filter fun row =>
      db.ownsEmailAccount userId row.emailAccountId) = (db.rowsOf userId).emailCandidates) :
    db'.rowsOf userId = db.rowsOf userId := by
  have howns : ∀ id, db'.ownsEmailAccount userId id = db.ownsEmailAccount userId id := fun _ =>
    ownsEmailAccount_congr hemailAccounts
  have hrules' : (db'.rowsOf userId).emailRules = (db.rowsOf userId).emailRules := by
    rw [← hrules]
    exact List.filter_congr fun row _ => howns _
  ext1
  · exact husers
  · exact hdevices
  · exact haccounts
  · exact hemailAccounts
  · exact hrules'
  · rw [← hconditions]
    exact List.filter_congr fun row _ => ownsRule_congr hrules'
  · rw [← hcandidates]
    exact List.filter_congr fun row _ => howns _

end Owners

end Database

/-! ## Rows that are not in a selection -/

section Selections

variable {Row : Type} {rows : List Row} {keep : Row → Bool}

theorem filter_append_others {added : List Row} (hadded : ∀ row ∈ added, keep row = false) :
    (rows ++ added).filter keep = rows.filter keep := by
  have hnone : added.filter keep = [] := by
    apply List.filter_eq_nil_iff.mpr
    intro row hrow
    simp [hadded row hrow]
  rw [List.filter_append, hnone, List.append_nil]

theorem filter_drop_others {drop : Row → Bool}
    (hdropped : ∀ row ∈ rows, drop row = true → keep row = false) :
    (rows.filter fun row => ! drop row).filter keep = rows.filter keep := by
  rw [List.filter_filter]
  refine List.filter_congr fun row hrow => ?_
  cases hdrop : drop row with
  | false => simp
  | true => simp [hdropped row hrow hdrop]

theorem filter_map_others {f : Row → Row}
    (hchanged : ∀ row ∈ rows, f row = row ∨ keep row = false ∧ keep (f row) = false) :
    (rows.map f).filter keep = rows.filter keep := by
  induction rows with
  | nil => rfl
  | cons row rest ih =>
      have hrest := ih fun other hother => hchanged other (List.mem_cons_of_mem _ hother)
      rw [List.map_cons]
      rcases hchanged row List.mem_cons_self with hsame | ⟨hnot, hnot'⟩
      · rw [hsame, List.filter_cons, List.filter_cons, hrest]
      · rw [List.filter_cons_of_neg (by simp [hnot']), List.filter_cons_of_neg (by simp [hnot]),
          hrest]

/-- A larger selection that has one row more counts more. -/
theorem countP_lt {select : Row → Bool} {row : Row}
    (hle : ∀ other ∈ rows, keep other = true → select other = true) (hrow : row ∈ rows)
    (hnot : keep row = false) (hselect : select row = true) :
    rows.countP keep < rows.countP select := by
  obtain ⟨before, after, rfl⟩ := List.append_of_mem hrow
  have hbefore := List.countP_mono_left fun other hother =>
    hle other (List.mem_append_left _ hother)
  have hafter := List.countP_mono_left fun other hother =>
    hle other (List.mem_append_right _ (List.mem_cons_of_mem _ hother))
  rw [List.countP_append, List.countP_append, List.countP_cons_of_neg (by simp [hnot]),
    List.countP_cons_of_pos hselect]
  omega

/-! ### Tables -/

section Tables

variable {Key : Type} [Entity Row Key] [DecidableEq Key] {table : Table Row} {id : Key} {row : Row}

omit [DecidableEq Key] in
theorem filter_insert_others {table' : Table Row} (hinsert : table.insert? row = some table')
    (hnot : keep row = false) : table'.rows.filter keep = table.rows.filter keep := by
  rw [(Table.insert?_eq_some_iff.mp hinsert).2]
  refine filter_append_others fun added hadded => ?_
  rwa [List.mem_singleton.mp hadded]

theorem filter_delete_others (hfind : table.find? id = some row) (hnot : keep row = false) :
    (table.delete id).rows.filter keep = table.rows.filter keep := by
  obtain ⟨hmem, hid⟩ := Table.find?_eq_some_iff.mp hfind
  rw [Table.rows_delete]
  refine filter_drop_others fun other hother hkey => ?_
  rwa [table.eq_of_key_eq hother hmem ((of_decide_eq_true hkey).trans hid.symm)]

theorem filter_modify_others {f : Row → Row} (hf : Table.Unindexed f)
    (hfind : table.find? id = some row) (hnot : keep row = false) (hnot' : keep (f row) = false) :
    (table.modify id f hf).rows.filter keep = table.rows.filter keep := by
  obtain ⟨hmem, hid⟩ := Table.find?_eq_some_iff.mp hfind
  rw [Table.rows_modify]
  refine filter_map_others fun other hother => ?_
  by_cases hkey : key other = id
  · rw [if_pos hkey, table.eq_of_key_eq hother hmem (hkey.trans hid.symm)]
    exact .inr ⟨hnot, hnot'⟩
  · exact .inl (if_neg hkey)

end Tables

end Selections

end MyAccountController
