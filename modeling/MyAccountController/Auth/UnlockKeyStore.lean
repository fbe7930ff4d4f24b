import MyAccountController.Common.Runtime

/-! # `UnlockKeyStoreService`

The AES keys of unlocked sessions live in server memory only, one entry for
each session id. Automatic locking is not a timer: `touch` compares the idle
time with the limit of the entry and drops it when the limit has passed.
-/

namespace MyAccountController

/-- Times are the milliseconds of `Date.now()`. -/
structure UnlockEntry (Key : Type) where
  key : Key
  autoLockMinutes : Int
  lastActivityAt : Int

/-- `Map<string, UnlockEntry>`. -/
abbrev UnlockKeyStore (Key : Type) := String → Option (UnlockEntry Key)

namespace UnlockKeyStore

variable {Key : Type}

/-- The store of a server process that has just started. -/
def empty : UnlockKeyStore Key := fun _ => none

def set (store : UnlockKeyStore Key) (sessionId : String) (now : Int) (key : Key)
    (autoLockMinutes : Int) : UnlockKeyStore Key :=
  Function.update store sessionId (some ⟨key, autoLockMinutes, now⟩)

def delete (store : UnlockKeyStore Key) (sessionId : String) : UnlockKeyStore Key :=
  Function.update store sessionId none

/-- Whether the idle limit of the entry has passed. -/
def UnlockEntry.idleExpired (entry : UnlockEntry Key) (now : Int) : Bool :=
  now - entry.lastActivityAt > entry.autoLockMinutes * 60000

def touch (store : UnlockKeyStore Key) (sessionId : String) (now : Int) :
    Option Key × UnlockKeyStore Key :=
  match store sessionId with
  | none => (none, store)
  | some entry =>
      if UnlockEntry.idleExpired entry now then (none, store.delete sessionId)
      else (some entry.key,
        Function.update store sessionId (some { entry with lastActivityAt := now }))

/-- A lookup without the idle check. -/
def get (store : UnlockKeyStore Key) (sessionId : String) : Option Key :=
  (store sessionId).map UnlockEntry.key

def updateAutoLockMinutes (store : UnlockKeyStore Key) (sessionId : String)
    (autoLockMinutes : Int) : UnlockKeyStore Key :=
  match store sessionId with
  | none => store
  | some entry =>
      Function.update store sessionId (some { entry with autoLockMinutes })

variable (store : UnlockKeyStore Key) (sessionId : String) (now : Int)

@[simp] theorem set_self (key : Key) (minutes : Int) :
    store.set sessionId now key minutes sessionId = some ⟨key, minutes, now⟩ := by
  simp [set]

theorem set_of_ne (key : Key) (minutes : Int) {other : String} (hne : other ≠ sessionId) :
    store.set sessionId now key minutes other = store other :=
  Function.update_of_ne hne _ _

@[simp] theorem delete_self : store.delete sessionId sessionId = none := by
  simp [delete]

theorem delete_of_ne {other : String} (hne : other ≠ sessionId) :
    store.delete sessionId other = store other :=
  Function.update_of_ne hne _ _

/-- A touch leaves the entries of other sessions alone. -/
theorem touch_of_ne {other : String} (hne : other ≠ sessionId) :
    (store.touch sessionId now).2 other = store other := by
  unfold touch
  split
  · rfl
  · split
    · exact delete_of_ne store sessionId hne
    · exact Function.update_of_ne hne _ _

/-- An entry that survives a touch has the key of the entry before it. -/
theorem touch_entry {entry : UnlockEntry Key}
    (hentry : (store.touch sessionId now).2 sessionId = some entry) :
    ∃ before, store sessionId = some before ∧ entry.key = before.key := by
  unfold touch at hentry
  split at hentry
  next hnone => exact absurd (hnone.symm.trans hentry) (by simp)
  next before hbefore =>
    refine ⟨before, hbefore, ?_⟩
    split at hentry
    · simp at hentry
    · simp only [Function.update_self, Option.some.injEq] at hentry
      rw [← hentry]

theorem updateAutoLockMinutes_of_ne (minutes : Int) {other : String} (hne : other ≠ sessionId) :
    store.updateAutoLockMinutes sessionId minutes other = store other := by
  unfold updateAutoLockMinutes
  cases store sessionId with
  | none => rfl
  | some entry => exact Function.update_of_ne hne _ _

/-- A new limit leaves the key in place. -/
theorem updateAutoLockMinutes_entry (minutes : Int) {entry : UnlockEntry Key}
    (hentry : store.updateAutoLockMinutes sessionId minutes sessionId = some entry) :
    ∃ before, store sessionId = some before ∧ entry.key = before.key := by
  unfold updateAutoLockMinutes at hentry
  cases hbefore : store sessionId with
  | none =>
      rw [hbefore] at hentry
      exact absurd (hbefore.symm.trans hentry) (by simp)
  | some before =>
      simp only [hbefore, Function.update_self, Option.some.injEq] at hentry
      exact ⟨before, rfl, hentry ▸ rfl⟩

/-- A touch answers with the key of the entry it finds. -/
theorem touch_key {key : Key} (hkey : (store.touch sessionId now).1 = some key) :
    ∃ entry, store sessionId = some entry ∧ entry.key = key := by
  unfold touch at hkey
  split at hkey
  · contradiction
  next entry hentry =>
    refine ⟨entry, hentry, ?_⟩
    split at hkey
    · contradiction
    · exact Option.some.inj hkey

/-- The entry that a touch leaves is the one before it with the present time. -/
theorem touch_entry_iff {entry : UnlockEntry Key} :
    (store.touch sessionId now).2 sessionId = some entry ↔
      ∃ before, store sessionId = some before ∧
        now - before.lastActivityAt ≤ before.autoLockMinutes * 60000 ∧
        entry = { before with lastActivityAt := now } := by
  unfold touch
  cases hbefore : store sessionId with
  | none => simp [hbefore]
  | some before =>
      by_cases hidle : UnlockEntry.idleExpired before now = true
      · have hexpired : ¬ now - before.lastActivityAt ≤ before.autoLockMinutes * 60000 :=
          Int.not_le.mpr (of_decide_eq_true hidle)
        simp only [hidle, if_true, delete_self, reduceCtorEq, Option.some.injEq,
          exists_eq_left', hexpired, false_and]
      · have hlive : now - before.lastActivityAt ≤ before.autoLockMinutes * 60000 := by
          apply Int.not_lt.mp
          exact fun hlt => hidle (decide_eq_true hlt)
        simp only [hidle, Bool.false_eq_true, if_false, Function.update_self, Option.some.injEq,
          exists_eq_left', hlive, true_and, eq_comm]

/-- A touch answers with the key of the entry it leaves. -/
theorem touch_eq_some_iff {key : Key} : (store.touch sessionId now).1 = some key ↔
    ∃ entry, (store.touch sessionId now).2 sessionId = some entry ∧ entry.key = key := by
  unfold touch
  cases hbefore : store sessionId with
  | none => simp [hbefore]
  | some before => by_cases hidle : UnlockEntry.idleExpired before now = true <;> simp [hidle]

theorem updateAutoLockMinutes_self (minutes : Int) :
    store.updateAutoLockMinutes sessionId minutes sessionId =
      (store sessionId).map fun entry => { entry with autoLockMinutes := minutes } := by
  unfold updateAutoLockMinutes
  cases hentry : store sessionId with
  | none => simpa using hentry
  | some entry => simp

/-- At the time of the last activity an entry with a non-negative limit is
still alive. -/
theorem touch_at_last_activity {entry : UnlockEntry Key} (hentry : store sessionId = some entry)
    (hlimit : 0 ≤ entry.autoLockMinutes) :
    (store.touch sessionId entry.lastActivityAt).1 = some entry.key := by
  have halive : ¬ entry.autoLockMinutes * 60000 < 0 := by omega
  simp [touch, hentry, UnlockEntry.idleExpired, halive]

end UnlockKeyStore

end MyAccountController
