import MyAccountController.Auth.AuthController
import MyAccountController.Common.SymbolicRuntime
import MyAccountController.Foundation.Run

/-! # What a touch says about the calls before it

The key store keeps one entry for each session, and the automatic lock is a
comparison made by the next touch. The entry of a session is described here by
the calls alone: the last `set`, the activity since, and the limit in force at
each activity.
-/

namespace MyAccountController

open Foundation

namespace KeyHistory

variable {Key : Type}

/-- A method of `UnlockKeyStoreService` that writes. -/
inductive StoreMethod (Key : Type) where
  | set (key : Key) (autoLockMinutes : Int)
  | touch
  | updateAutoLockMinutes (autoLockMinutes : Int)
  | delete

/-- A call of the store for a session at a time of the clock. -/
structure StoreCall (Key : Type) where
  sessionId : String
  now : Int
  method : StoreMethod Key

/-- The store after a call. -/
def callStep (store : UnlockKeyStore Key) (call : StoreCall Key) : UnlockKeyStore Key :=
  match call.method with
  | .set key autoLockMinutes => store.set call.sessionId call.now key autoLockMinutes
  | .touch => (store.touch call.sessionId call.now).2
  | .updateAutoLockMinutes minutes => store.updateAutoLockMinutes call.sessionId minutes
  | .delete => store.delete call.sessionId

/-- The store of a process that has taken the calls. -/
abbrev storeAfter (calls : List (StoreCall Key)) : UnlockKeyStore Key :=
  run callStep UnlockKeyStore.empty calls

/-- What a touch of the session at this time would return. -/
def touchAfter (calls : List (StoreCall Key)) (sessionId : String) (now : Int) : Option Key :=
  ((storeAfter calls).touch sessionId now).1

/-! ## The calls of a session -/

namespace StoreCall

/-- The call is an activity of the session. -/
def activityOf (sessionId : String) (call : StoreCall Key) : Option Int :=
  match call.method with
  | .touch => if call.sessionId = sessionId then some call.now else none
  | _ => none

/-- The call puts a new limit in force for the session. -/
def limitOf (sessionId : String) (call : StoreCall Key) : Option Int :=
  match call.method with
  | .updateAutoLockMinutes minutes => if call.sessionId = sessionId then some minutes else none
  | _ => none

/-- The call neither sets nor deletes the key of the session. -/
def Keeps (sessionId : String) (call : StoreCall Key) : Prop :=
  call.sessionId = sessionId →
    (∀ key minutes, call.method ≠ .set key minutes) ∧ call.method ≠ .delete

end StoreCall

/-- The last activity of the session when it was set at `since` and the calls
`after` followed. -/
def lastActivity (sessionId : String) (since : Int) (after : List (StoreCall Key)) : Int :=
  ((after.filterMap (·.activityOf sessionId)).getLast?).getD since

/-- The limit in force for the session when it was set with `minutes` and the
calls `after` followed. -/
def limitInForce (sessionId : String) (minutes : Int) (after : List (StoreCall Key)) : Int :=
  ((after.filterMap (·.limitOf sessionId)).getLast?).getD minutes

/-- Every gap between consecutive activities of the session, from the set on,
was at most the limit in force when the later one happened. -/
def Unbroken (sessionId : String) (since minutes : Int) (after : List (StoreCall Key)) : Prop :=
  ∀ earlier call later, after = earlier ++ call :: later →
    ∀ now ∈ call.activityOf sessionId,
      now - lastActivity sessionId since earlier ≤
        limitInForce sessionId minutes earlier * 60000

/-- The most recent set of the session stored the key at `since` with the limit
`minutes`, and no delete came after it. -/
structure LastSet (calls : List (StoreCall Key)) (sessionId : String) (key : Key)
    (since minutes : Int) (after : List (StoreCall Key)) : Prop where
  split : ∃ before, calls = before ++ ⟨sessionId, since, .set key minutes⟩ :: after
  keeps : ∀ call ∈ after, call.Keeps sessionId

/-- The key of the session survives the calls. -/
def Alive (calls : List (StoreCall Key)) (sessionId : String) (key : Key) : Prop :=
  ∃ since minutes after, LastSet calls sessionId key since minutes after ∧
    Unbroken sessionId since minutes after

/-! ## The stored entry -/

/-- The entry that the calls describe. -/
def Describes (calls : List (StoreCall Key)) (sessionId : String) (entry : UnlockEntry Key) :
    Prop :=
  ∃ since minutes after, LastSet calls sessionId entry.key since minutes after ∧
    Unbroken sessionId since minutes after ∧
    entry.autoLockMinutes = limitInForce sessionId minutes after ∧
    entry.lastActivityAt = lastActivity sessionId since after

section Concat

variable {calls : List (StoreCall Key)} {call : StoreCall Key} {sessionId : String} {key : Key}
  {since minutes : Int} {after : List (StoreCall Key)}

theorem lastActivity_concat : lastActivity sessionId since (after ++ [call]) =
    (call.activityOf sessionId).getD (lastActivity sessionId since after) := by
  unfold lastActivity
  rw [List.filterMap_append]
  cases hcall : call.activityOf sessionId with
  | none => simp [hcall]
  | some now => simp [hcall]

theorem limitInForce_concat : limitInForce sessionId minutes (after ++ [call]) =
    (call.limitOf sessionId).getD (limitInForce sessionId minutes after) := by
  unfold limitInForce
  rw [List.filterMap_append]
  cases hcall : call.limitOf sessionId with
  | none => simp [hcall]
  | some limit => simp [hcall]

theorem unbroken_nil :
    Unbroken sessionId since minutes ([] : List (StoreCall Key)) := by
  intro earlier call later hafter
  exact absurd hafter (by simp)

/-- A further call breaks nothing unless it is an activity that comes too late. -/
theorem unbroken_concat : Unbroken sessionId since minutes (after ++ [call]) ↔
    Unbroken sessionId since minutes after ∧ ∀ now ∈ call.activityOf sessionId,
      now - lastActivity sessionId since after ≤ limitInForce sessionId minutes after * 60000 := by
  constructor
  · intro hunbroken
    refine ⟨?_, hunbroken after call [] rfl⟩
    intro earlier other later hafter
    exact hunbroken earlier other (later ++ [call]) (by simp [hafter])
  · rintro ⟨hunbroken, hlast⟩ earlier other later hafter
    rcases concat_eq_append_cons hafter with ⟨rfl, rfl, rfl⟩ | ⟨later, rfl, hbefore⟩
    · exact hlast
    · exact hunbroken earlier other later hbefore

/-- A call that keeps the session's key extends what came after the last set. -/
theorem lastSet_concat (hkeeps : call.Keeps sessionId) :
    LastSet (calls ++ [call]) sessionId key since minutes after ↔
      ∃ earlier, after = earlier ++ [call] ∧
        LastSet calls sessionId key since minutes earlier := by
  constructor
  · rintro ⟨⟨before, hsplit⟩, hafter⟩
    rcases concat_eq_append_cons hsplit with ⟨-, -, rfl⟩ | ⟨earlier, rfl, hbefore⟩
    · exact absurd rfl ((hkeeps rfl).1 key minutes)
    · refine ⟨earlier, rfl, ⟨before, hbefore⟩, fun other hother => ?_⟩
      exact hafter other (List.mem_append_left _ hother)
  · rintro ⟨earlier, rfl, ⟨before, rfl⟩, hkept⟩
    refine ⟨⟨before, by simp⟩, fun other hother => ?_⟩
    rcases List.mem_append.mp hother with hold | hlast
    · exact hkept other hold
    · rwa [List.mem_singleton.mp hlast]

/-- What a call that keeps the session's key does to the entry described. -/
theorem describes_concat (hkeeps : call.Keeps sessionId) {entry : UnlockEntry Key} :
    Describes (calls ++ [call]) sessionId entry ↔
      ∃ before, Describes calls sessionId before ∧
        (∀ now ∈ call.activityOf sessionId,
          now - before.lastActivityAt ≤ before.autoLockMinutes * 60000) ∧
        entry = ⟨before.key, (call.limitOf sessionId).getD before.autoLockMinutes,
          (call.activityOf sessionId).getD before.lastActivityAt⟩ := by
  constructor
  · rintro ⟨since, minutes, after, hlast, hunbroken, hlimit, hactivity⟩
    obtain ⟨earlier, rfl, hearlier⟩ := (lastSet_concat hkeeps).mp hlast
    obtain ⟨hbefore, hnow⟩ := unbroken_concat.mp hunbroken
    rw [limitInForce_concat] at hlimit
    rw [lastActivity_concat] at hactivity
    refine ⟨⟨entry.key, limitInForce sessionId minutes earlier,
      lastActivity sessionId since earlier⟩, ?_, hnow, ?_⟩
    · exact ⟨since, minutes, earlier, hearlier, hbefore, rfl, rfl⟩
    · rw [← hlimit, ← hactivity]
  · rintro ⟨before, ⟨since, minutes, after, hlast, hunbroken, hlimit, hactivity⟩, hnow, rfl⟩
    rw [hlimit, hactivity] at hnow
    refine ⟨since, minutes, after ++ [call], ?_, unbroken_concat.mpr ⟨hunbroken, hnow⟩, ?_, ?_⟩
    · exact (lastSet_concat hkeeps).mpr ⟨after, rfl, hlast⟩
    · rw [limitInForce_concat, hlimit]
    · rw [lastActivity_concat, hactivity]

theorem describes_concat_set {now : Int} {entry : UnlockEntry Key} :
    Describes (calls ++ [⟨sessionId, now, .set key minutes⟩]) sessionId entry ↔
      entry = ⟨key, minutes, now⟩ := by
  constructor
  · rintro ⟨since, limit, after, ⟨⟨before, hsplit⟩, hkeeps⟩, -, hlimit, hactivity⟩
    rcases concat_eq_append_cons hsplit with ⟨rfl, -, hlast⟩ | ⟨earlier, rfl, -⟩
    · obtain ⟨-, rfl, hset⟩ := StoreCall.mk.inj hlast
      obtain ⟨rfl, rfl⟩ := StoreMethod.set.inj hset
      cases entry
      exact (UnlockEntry.mk.injEq ..).mpr ⟨rfl, hlimit, hactivity⟩
    · -- An earlier set is not followed by the last one.
      have hlast := hkeeps _ (List.mem_append_right earlier (List.mem_singleton_self _)) rfl
      exact absurd rfl (hlast.1 key minutes)
  · rintro rfl
    exact ⟨now, minutes, [], ⟨⟨calls, rfl⟩, by simp⟩, unbroken_nil, rfl, rfl⟩

theorem not_describes_concat_delete {now : Int} {entry : UnlockEntry Key} :
    ¬ Describes (calls ++ [⟨sessionId, now, .delete⟩]) sessionId entry := by
  rintro ⟨since, limit, after, ⟨⟨before, hsplit⟩, hkeeps⟩, -⟩
  rcases concat_eq_append_cons hsplit with ⟨-, -, hlast⟩ | ⟨earlier, rfl, -⟩
  · exact absurd (StoreCall.mk.inj hlast).2.2 (by simp)
  · exact (hkeeps _ (List.mem_append_right earlier (List.mem_singleton_self _)) rfl).2 rfl

end Concat

/-! ## The store follows the description -/

section Store

variable {calls : List (StoreCall Key)} {sessionId : String}

theorem callStep_of_ne (store : UnlockKeyStore Key) {call : StoreCall Key}
    (hne : sessionId ≠ call.sessionId) : callStep store call sessionId = store sessionId := by
  rcases call with ⟨other, now, method⟩
  cases method with
  | set key minutes => exact store.set_of_ne other now key minutes hne
  | touch => exact store.touch_of_ne other now hne
  | updateAutoLockMinutes minutes => exact store.updateAutoLockMinutes_of_ne other minutes hne
  | delete => exact store.delete_of_ne other hne

/-- A call that keeps the session's key leaves the entry before it, with the
limit and the activity of the call, unless the activity comes too late. -/
theorem callStep_eq_some_iff (store : UnlockKeyStore Key) {call : StoreCall Key}
    (hkeeps : call.Keeps sessionId) {entry : UnlockEntry Key} :
    callStep store call sessionId = some entry ↔
      ∃ before, store sessionId = some before ∧
        (∀ now ∈ call.activityOf sessionId,
          now - before.lastActivityAt ≤ before.autoLockMinutes * 60000) ∧
        entry = ⟨before.key, (call.limitOf sessionId).getD before.autoLockMinutes,
          (call.activityOf sessionId).getD before.lastActivityAt⟩ := by
  by_cases hsession : sessionId = call.sessionId
  · rcases call with ⟨other, now, method⟩
    obtain rfl : sessionId = other := hsession
    cases method with
    | set key minutes => exact absurd rfl ((hkeeps rfl).1 key minutes)
    | delete => exact absurd rfl (hkeeps rfl).2
    | touch =>
        rw [show callStep store ⟨sessionId, now, .touch⟩ = (store.touch sessionId now).2 from rfl,
          UnlockKeyStore.touch_entry_iff]
        simp [StoreCall.activityOf, StoreCall.limitOf]
    | updateAutoLockMinutes minutes =>
        have hstep : callStep store ⟨sessionId, now, .updateAutoLockMinutes minutes⟩ sessionId =
            (store sessionId).map fun entry => { entry with autoLockMinutes := minutes } :=
          store.updateAutoLockMinutes_self sessionId minutes
        rw [hstep, Option.map_eq_some_iff]
        simp [StoreCall.activityOf, StoreCall.limitOf, eq_comm]
  · have hactivity : call.activityOf sessionId = none := by
      unfold StoreCall.activityOf
      split <;> simp [Ne.symm hsession]
    have hlimit : call.limitOf sessionId = none := by
      unfold StoreCall.limitOf
      split <;> simp [Ne.symm hsession]
    rw [callStep_of_ne store hsession]
    simp [hactivity, hlimit]

/-- The store holds the entry that the calls describe. -/
theorem storeAfter_eq_some_iff {entry : UnlockEntry Key} :
    storeAfter calls sessionId = some entry ↔ Describes calls sessionId entry := by
  induction calls using List.reverseRecOn generalizing entry with
  | nil =>
      constructor
      · intro hentry
        contradiction
      · rintro ⟨since, minutes, after, ⟨⟨before, hsplit⟩, -⟩, -⟩
        exact absurd hsplit (by simp)
  | append_singleton calls call ih =>
      rw [storeAfter, run_concat, ← storeAfter]
      by_cases hkeeps : call.Keeps sessionId
      · simp only [callStep_eq_some_iff _ hkeeps, describes_concat hkeeps, ih]
      · -- The call sets or deletes the key of this session.
        rcases call with ⟨other, now, method⟩
        obtain ⟨hsession, hmethod⟩ := Classical.not_imp.mp hkeeps
        obtain rfl : other = sessionId := hsession
        cases method with
        | set key minutes =>
            have hset : callStep (storeAfter calls) ⟨other, now, .set key minutes⟩ other =
                some ⟨key, minutes, now⟩ := UnlockKeyStore.set_self _ _ _ _ _
            rw [describes_concat_set, hset, Option.some.injEq, eq_comm]
        | delete =>
            have hdelete : callStep (storeAfter calls) ⟨other, now, .delete⟩ other = none :=
              UnlockKeyStore.delete_self _ _
            rw [hdelete]
            exact ⟨fun h => by contradiction, fun h => absurd h not_describes_concat_delete⟩
        | touch => exact absurd ⟨by simp, by simp⟩ hmethod
        | updateAutoLockMinutes minutes => exact absurd ⟨by simp, by simp⟩ hmethod

theorem alive_iff {key : Key} :
    Alive calls sessionId key ↔ ∃ entry, Describes calls sessionId entry ∧ entry.key = key := by
  constructor
  · rintro ⟨since, minutes, after, hlast, hunbroken⟩
    refine ⟨⟨key, limitInForce sessionId minutes after, lastActivity sessionId since after⟩, ?_, rfl⟩
    exact ⟨since, minutes, after, hlast, hunbroken, rfl, rfl⟩
  · rintro ⟨entry, ⟨since, minutes, after, hlast, hunbroken, -⟩, rfl⟩
    exact ⟨since, minutes, after, hlast, hunbroken⟩

/-- A touch returns the key exactly when it survives the calls, the touch among them. -/
theorem touchAfter_eq_some_iff {now : Int} {key : Key} :
    touchAfter calls sessionId now = some key ↔
      Alive (calls ++ [⟨sessionId, now, .touch⟩]) sessionId key := by
  have hstep : storeAfter (calls ++ [⟨sessionId, now, .touch⟩]) =
      ((storeAfter calls).touch sessionId now).2 := by
    rw [storeAfter, run_concat]
    rfl
  rw [touchAfter, UnlockKeyStore.touch_eq_some_iff, alive_iff, ← hstep]
  simp only [storeAfter_eq_some_iff]

/-- The call sets the key of the session. -/
def StoreCall.Sets (sessionId : String) (call : StoreCall Key) : Prop :=
  call.sessionId = sessionId ∧ ∃ key minutes, call.method = .set key minutes

/-- Without an entry a session stays without one until it is set. -/
theorem callStep_eq_none {store : UnlockKeyStore Key} {call : StoreCall Key}
    (hnone : store sessionId = none) (hsets : ¬ call.Sets sessionId) :
    callStep store call sessionId = none := by
  by_cases hsession : sessionId = call.sessionId
  · rcases call with ⟨other, now, method⟩
    obtain rfl : sessionId = other := hsession
    cases method with
    | set key minutes => exact absurd ⟨rfl, key, minutes, rfl⟩ hsets
    | touch => simp [callStep, UnlockKeyStore.touch, hnone]
    | updateAutoLockMinutes minutes => simp [callStep, UnlockKeyStore.updateAutoLockMinutes, hnone]
    | delete => exact UnlockKeyStore.delete_self _ _
  · rw [callStep_of_ne store hsession, hnone]

/-- After a touch that returned nothing the next ones return nothing either,
until the session is set again. -/
theorem touchAfter_stays_none {later : List (StoreCall Key)} {now now' : Int}
    (hnone : touchAfter calls sessionId now = none)
    (hlater : ∀ call ∈ later, ¬ call.Sets sessionId) :
    touchAfter (calls ++ ⟨sessionId, now, .touch⟩ :: later) sessionId now' = none := by
  have hdropped : storeAfter (calls ++ [⟨sessionId, now, .touch⟩]) sessionId = none := by
    rw [storeAfter, run_concat]
    by_contra hsome
    obtain ⟨entry, hentry⟩ := Option.ne_none_iff_exists'.mp hsome
    have hkey : touchAfter calls sessionId now = some entry.key :=
      (UnlockKeyStore.touch_eq_some_iff _ _ _).mpr ⟨entry, hentry, rfl⟩
    exact absurd (hnone.symm.trans hkey) (by simp)
  have hstays : storeAfter (calls ++ ⟨sessionId, now, .touch⟩ :: later) sessionId = none := by
    rw [List.append_cons, storeAfter, run_append, ← storeAfter]
    generalize storeAfter (calls ++ [⟨sessionId, now, .touch⟩]) = store at hdropped
    induction later generalizing store with
    | nil => exact hdropped
    | cons call rest ih =>
        refine ih (fun other hother => hlater other (List.mem_cons_of_mem _ hother)) _ ?_
        exact callStep_eq_none hdropped (hlater call List.mem_cons_self)
  simp [touchAfter, UnlockKeyStore.touch, hstays]

/-- A call reads no entry but that of its own session. -/
theorem callStep_congr {store other : UnlockKeyStore Key} (call : StoreCall Key)
    (hsame : store call.sessionId = other call.sessionId) :
    callStep store call call.sessionId = callStep other call call.sessionId := by
  rcases call with ⟨sessionId, now, method⟩
  cases method with
  | set key minutes => simp [callStep]
  | touch =>
      apply Option.ext
      intro entry
      have hsame : store sessionId = other sessionId := hsame
      simp [callStep, UnlockKeyStore.touch_entry_iff, hsame]
  | updateAutoLockMinutes minutes =>
      have hsame : store sessionId = other sessionId := hsame
      simp [callStep, UnlockKeyStore.updateAutoLockMinutes_self, hsame]
  | delete => simp [callStep]

/-- The calls on other sessions do not matter. -/
theorem storeAfter_filter :
    storeAfter (calls.filter (·.sessionId = sessionId)) sessionId = storeAfter calls sessionId := by
  induction calls using List.reverseRecOn with
  | nil => rfl
  | append_singleton calls call ih =>
      rw [List.filter_append]
      by_cases hsession : call.sessionId = sessionId
      · subst hsession
        simp only [List.filter_singleton, decide_true, cond_true, storeAfter, run_concat]
        exact callStep_congr call ih
      · have hfilter : [call].filter (·.sessionId = sessionId) = [] := by simp [hsession]
        rw [hfilter, List.append_nil, ih, storeAfter, storeAfter, run_concat,
          callStep_of_ne _ (Ne.symm hsession)]

theorem touchAfter_filter (now : Int) :
    touchAfter (calls.filter (·.sessionId = sessionId)) sessionId now =
      touchAfter calls sessionId now := by
  apply Option.ext
  intro key
  rw [touchAfter, touchAfter, UnlockKeyStore.touch_eq_some_iff, UnlockKeyStore.touch_eq_some_iff]
  simp only [UnlockKeyStore.touch_entry_iff, storeAfter_filter]

end Store

end KeyHistory

/-! ## The guard and `checkStillUnlocked` -/

/-- `checkStillUnlocked` answers true exactly in a session flagged unlocked with
a live key. -/
theorem AuthService.checkStillUnlocked_true_iff {R : Runtime} {sessionId : String} {now : Int}
    {ctx : Context R} :
    (∃ ctx', AuthService.checkStillUnlocked sessionId now ctx = (.ok true, ctx')) ↔
      ctx.session.isUnlocked = true ∧ ((ctx.keys.touch sessionId now).1).isSome = true := by
  rw [AuthService.checkStillUnlocked, Handler.state_bind]
  cases ctx.session.isUnlocked with
  | false => simp
  | true =>
      simp only [if_true, Handler.modify_bind, true_and]
      cases ((ctx.keys.touch sessionId now).1).isSome with
      | false => simp
      | true => simp

/-- The guard admits a session exactly when it is logged in and
`checkStillUnlocked` answers true. -/
theorem unlockedGuard_iff_checkStillUnlocked {R : Runtime} {sessionId : String} {now : Int}
    {ctx : Context R} {userId : String} :
    (∃ key ctx', unlockedGuard sessionId now ctx = (.ok (userId, key), ctx')) ↔
      ctx.session.loggedInAs = some userId ∧
        ∃ ctx', AuthService.checkStillUnlocked sessionId now ctx = (.ok true, ctx') := by
  simp only [unlockedGuard_ok_iff, AuthService.checkStillUnlocked_true_iff, Option.isSome_iff_exists]
  constructor
  · rintro ⟨key, _, hlogged, hunlocked, hkey, -⟩
    exact ⟨hlogged, hunlocked, key, hkey⟩
  · rintro ⟨hlogged, hunlocked, key, hkey⟩
    exact ⟨key, _, hlogged, hunlocked, hkey, rfl⟩

open KeyHistory in
/-- A touch answers by the history of its session alone, nothing brings a key
back but a set, and the front end's check agrees with the guard. -/
theorem touch_by_history (R : Runtime) :
    (∀ (calls : List (StoreCall R.Key)) sessionId now key,
      touchAfter calls sessionId now = some key ↔
        Alive (calls ++ [⟨sessionId, now, .touch⟩]) sessionId key) ∧
    (∀ (calls later : List (StoreCall R.Key)) sessionId now now',
      touchAfter calls sessionId now = none → (∀ call ∈ later, ¬ call.Sets sessionId) →
        touchAfter (calls ++ ⟨sessionId, now, .touch⟩ :: later) sessionId now' = none) ∧
    (∀ (calls : List (StoreCall R.Key)) sessionId now,
      touchAfter (calls.filter (·.sessionId = sessionId)) sessionId now =
        touchAfter calls sessionId now) ∧
    ∀ sessionId now (ctx : Context R) userId,
      (∃ key ctx', unlockedGuard sessionId now ctx = (.ok (userId, key), ctx')) ↔
        ctx.session.loggedInAs = some userId ∧
          ∃ ctx', AuthService.checkStillUnlocked sessionId now ctx = (.ok true, ctx') := by
  refine ⟨fun _ _ _ _ => touchAfter_eq_some_iff, ?_, fun _ _ now => touchAfter_filter now,
    fun _ _ _ _ => unlockedGuard_iff_checkStillUnlocked⟩
  intro calls later sessionId now now' hnone hlater
  exact touchAfter_stays_none hnone hlater

open KeyHistory in
/-- A session set with a limit of one minute: a touch after exactly a minute
returns its key, one a millisecond later ends it for good. -/
theorem touch_by_history_example :
    Alive ([⟨"sid", 0, .set ("password", "salt") 1⟩] ++ [⟨"sid", 60000, .touch⟩]) "sid"
      (show symbolicRuntime.Key from ("password", "salt")) ∧
    touchAfter ([⟨"sid", 0, .set (show symbolicRuntime.Key from ("password", "salt")) 1⟩] ++
      ⟨"sid", 60001, .touch⟩ :: [⟨"sid", 60002, .updateAutoLockMinutes 240⟩]) "sid" 60003 =
        none := by
  have hhistory := touch_by_history symbolicRuntime
  refine ⟨(hhistory.1 _ "sid" 60000 _).mp (by decide), ?_⟩
  refine hhistory.2.1 _ _ "sid" 60001 60003 (by decide) ?_
  intro call hcall hsets
  obtain rfl := List.mem_singleton.mp hcall
  obtain ⟨-, key, minutes, hset⟩ := hsets
  contradiction

end MyAccountController
