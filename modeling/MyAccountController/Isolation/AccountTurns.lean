import MyAccountController.Accounts.ImportRuns
import MyAccountController.Foundation.SerialOrder
import MyAccountController.Isolation.AccountEffects

/-! # Account requests of all users in turns

Between two queries of a request the requests of any user run. An import is one
creation for each entry of its file, and the row that an update or a removal has
looked up may be gone when it is written. Still the vaults are those of a serial
order of the requests, with each creation of an import a request of its own, and
a vault has grown by what the requests of its owner report.
-/

namespace MyAccountController

open Foundation AccountsService Database

variable {R : Runtime}

/-! ## The system -/

/-- An account request with the user and the key of its guard. -/
structure AccountCall (R : Runtime) where
  userId : String
  key : R.Key
  now : Int
  op : VaultOp R

/-- The service method of the request alone. -/
def AccountCall.method (call : AccountCall R) (db : Database) :
    Except Exception Unit × Database :=
  call.op.request.service call.userId call.key call.now db

/-- The entries of an opened backup file, with the values drawn for them. -/
structure ImportLoad (R : Runtime) where
  entries : List Json
  fresh : Nat → FreshAccount R

namespace ImportLoad

/-- The creation of an entry as a request of its own. The object made of `null`
is an exception before there is one. -/
def creation (load : ImportLoad R) (entry : Json × Nat) : List (VaultOp R) :=
  match entryData entry.1 with
  | .ok data => [.create data (load.fresh entry.2)]
  | .error _ => []

/-- The creations of the first entries. -/
def creations (load : ImportLoad R) (count : Nat) : List (VaultOp R) :=
  (load.entries.take count).zipIdx.flatMap load.creation

end ImportLoad

/-- The account requests that write. -/
inductive WriteRequest (R : Runtime) where
  | one (op : VaultOp R)
  | importFile (exportPassword : Option String) (file : BackupFile) (fresh : Nat → FreshAccount R)

/-- A request whose guard has admitted the user. -/
structure AccountStart (R : Runtime) where
  userId : String
  key : R.Key
  now : Int
  write : WriteRequest R

/-- What a request is doing. An import holds the number of the entry that is next
and its two counters; with an exception it ends without an answer. -/
inductive AccountWork (R : Runtime) where
  | running (op : VaultOp R) (phase : VaultPhase)
  | returned (op : VaultOp R) (answer : Except Exception Unit)
  | importing (load : ImportLoad R) (next : Nat) (counts : ImportResult)
  | imported (load : ImportLoad R) (counts : ImportResult)
  | stopped (load : ImportLoad R) (last : Nat) (counts : ImportResult)

structure AccountTask (R : Runtime) where
  userId : String
  key : R.Key
  now : Int
  work : AccountWork R

/-- The database, and the requests in the order their effect took place, each with
what it answers alone at that moment. -/
abbrev VaultLog (R : Runtime) : Type :=
  CallLog Database (AccountCall R) (Except Exception Unit)

namespace AccountTask

def call (task : AccountTask R) (op : VaultOp R) : AccountCall R :=
  ⟨task.userId, task.key, task.now, op⟩

/-- The operations of the task whose effect has taken place. -/
def endedOps (task : AccountTask R) : List (VaultOp R) :=
  match task.work with
  | .running _ _ => []
  | .returned op _ => [op]
  | .importing load next _ => load.creations next
  | .imported load _ => load.creations load.entries.length
  | .stopped load last _ => load.creations (last + 1)

def ended (task : AccountTask R) : List (AccountCall R) := task.endedOps.map task.call

/-- The row that the task has found to be the user's, and is about to write. -/
def found (task : AccountTask R) : Option String :=
  match task.work with
  | .running op .write => op.target
  | _ => none

/-- The id of the row that the next query of the task inserts. -/
def drawn (task : AccountTask R) : Option String :=
  match task.work with
  | .running (.create _ fresh) .write => some fresh.id
  | .importing load next _ => some (load.fresh next).id
  | _ => none

end AccountTask

namespace AccountTurns

/-- A file is opened before any row is read. -/
def start (what : AccountStart R) (state : VaultLog R) : VaultLog R × Option (AccountTask R) :=
  match what.write with
  | .one op => (state, some ⟨what.userId, what.key, what.now, .running op op.firstPhase⟩)
  | .importFile exportPassword file fresh =>
      match openBackup (R := R) exportPassword file with
      | .ok entries =>
          (state, some ⟨what.userId, what.key, what.now, .importing ⟨entries, fresh⟩ 0 ⟨0, 0⟩⟩)
      | .error _ => (state, none)

/-- The database after a turn, and the operations that have ended with it. -/
def log (state : VaultLog R) (db : Database) (task : AccountTask R) (ops : List (VaultOp R)) :
    VaultLog R :=
  ⟨db, state.log ++ ops.map fun op => (task.call op, ((task.call op).method state.state).1)⟩

/-- One query of a request. -/
def turn (_input : Unit) (state : VaultLog R) (task : AccountTask R) :
    VaultLog R × AccountTask R :=
  match task.work with
  | .running op phase =>
      match op.turn task.userId task.key task.now phase state.state with
      | (.ok (some next), db) => (log state db task [], { task with work := .running op next })
      | (.ok none, db) =>
          (log state db task [op], { task with work := .returned op (.ok ()) })
      | (.error e, db) =>
          (log state db task [op], { task with work := .returned op (.error e) })
  | .importing load next counts =>
      match load.entries[next]? with
      | none => (state, { task with work := .imported load counts })
      | some entry =>
          match importEntry task.userId task.key task.now load.fresh counts (entry, next)
              state.state with
          | (.ok counts', db) =>
              (log state db task (load.creation (entry, next)),
                { task with work := .importing load (next + 1) counts' })
          | (.error _, db) =>
              (log state db task (load.creation (entry, next)),
                { task with work := .stopped load next counts })
  | _ => (state, task)

end AccountTurns

/-! ## What one turn does -/

namespace ImportLoad

/-- Every creation names declared fields only. -/
def Declared (load : ImportLoad R) : Prop :=
  ∀ op ∈ load.creations load.entries.length, op.Declared

instance (load : ImportLoad R) : Decidable load.Declared :=
  inferInstanceAs (Decidable (∀ op ∈ load.creations load.entries.length, op.Declared))

theorem Declared.creation {load : ImportLoad R} (hload : load.Declared) {next : Nat} {entry : Json}
    (hentry : load.entries[next]? = some entry) :
    ∀ op ∈ load.creation (entry, next), op.Declared := by
  intro op hop
  refine hload op (List.mem_flatMap.mpr ⟨(entry, next), ?_, hop⟩)
  rw [List.take_length]
  exact List.mem_zipIdx_iff_getElem?.mpr hentry

theorem creations_succ {load : ImportLoad R} {next : Nat} {entry : Json}
    (hentry : load.entries[next]? = some entry) :
    load.creations (next + 1) = load.creations next ++ load.creation (entry, next) := by
  obtain ⟨hnext, -⟩ := List.getElem?_eq_some_iff.mp hentry
  rw [creations, creations, List.take_add_one, hentry, List.zipIdx_append, List.flatMap_append,
    List.length_take, Nat.min_eq_left hnext.le, Nat.zero_add]
  simp

end ImportLoad

/-- What a request answers among others, and what it answers alone at the moment of
its effect. They differ only if the row that it has found is removed before it is
written: alone it finds no account, and here its write finds no row. -/
inductive AnswersAs (call : AccountCall R) : (answer alone : Except Exception Unit) → Prop where
  | alone (answer : Except Exception Unit) : AnswersAs call answer answer
  | lostUpdate {id : String} {body : JsObject} {iv : R.Iv} {db : Database} {e : Exception}
      (hop : call.op = .update id body iv) (hgone : db.accounts.find? id = none)
      (hwrite : writeUpdate id call.key call.now iv body db = (.error e, db)) :
      AnswersAs call (.error e) (.error accountNotFound)
  | lostRemoval {id : String} (hop : call.op = .remove id) :
      AnswersAs call (.error .p2025) (.error accountNotFound)

namespace AccountTask

/-- How many accounts there are more by what the task reports: the gain of an
operation that has succeeded, or the first counter of an import. -/
def gained (task : AccountTask R) : Int :=
  match task.work with
  | .returned op (.ok _) => op.gain
  | .importing _ _ counts | .imported _ counts | .stopped _ _ counts => counts.imported
  | _ => 0

/-- What is known of a task while others take their turns. A row that it has
found is its user's or gone, and an import has counted every entry. -/
def Fact (state : VaultLog R) (task : AccountTask R) : Prop :=
  match task.work with
  | .running op .find => op.Declared
  | .running op .write => op.Declared ∧
      ∀ id ∈ op.target, ∀ row, state.state.accounts.find? id = some row → row.userId = task.userId
  | .importing load next counts => load.Declared ∧ next ≤ load.entries.length ∧
      counts.imported + counts.skipped = next
  | .imported load counts => counts.imported + counts.skipped = load.entries.length
  | .returned op answer =>
      ∃ alone, AnswersAs (task.call op) answer alone ∧ (task.call op, alone) ∈ state.log
  | .stopped _ _ _ => True

/-- One turn of a task: it goes on, or one of its operations takes effect. -/
structure Goes (state : VaultLog R) (task : AccountTask R)
    (after : VaultLog R × AccountTask R) : Prop where
  call : after.2.call = task.call
  userId : after.2.userId = task.userId
  fact : after.2.Fact after.1
  effect : (after.1 = state ∧ after.2.endedOps = task.endedOps ∧ after.2.gained = task.gained) ∨
    ∃ op, op.Declared ∧ (∀ id ∈ op.drawn, id ∈ task.drawn) ∧
      after.1 = state.commit AccountCall.method (task.call op) ∧
      after.2.endedOps = task.endedOps ++ [op] ∧
      after.2.gained = task.gained +
        if ((task.call op).method state.state).1.isOk then op.gain else 0

end AccountTask

namespace AccountTurns

section Turn

variable {task : AccountTask R} {op : VaultOp R} {state : VaultLog R} {db db' : Database}

theorem log_nil : log state state.state task [] = state :=
  CallLog.ext rfl (List.append_nil _)

theorem mem_log {alone : Except Exception Unit}
    (hmethod : (task.call op).method state.state = (alone, db)) :
    (task.call op, alone) ∈ (log state db task [op]).log := by
  have halone : alone = ((task.call op).method state.state).1 := (congrArg Prod.fst hmethod).symm
  subst halone
  exact List.mem_append_right _ (List.mem_singleton_self _)

theorem log_eq_commit {alone : Except Exception Unit}
    (hmethod : (task.call op).method state.state = (alone, db)) :
    log state db task [op] = state.commit AccountCall.method (task.call op) := by
  rw [CallLog.commit, log, List.map_singleton, hmethod]

/-- A write that succeeds does what the whole request does at that moment. -/
theorem method_of_write (hop : op.Declared) {answer : Option VaultPhase}
    (howned : ∀ id ∈ op.target, ∀ row, db.accounts.find? id = some row → row.userId = task.userId)
    (hrun : op.turn task.userId task.key task.now .write db = (.ok answer, db')) :
    (task.call op).method db = (.ok (), db') :=
  VaultOp.service_of_write hop howned hrun

/-- The second query of an update that fails: the whole request finds the row and
fails with it, or the row is gone. -/
theorem method_of_update_error {id : String} {body : JsObject} {iv : R.Iv} {e : Exception}
    (howned : ∀ row, db.accounts.find? id = some row → row.userId = task.userId)
    (hrun : writeUpdate id task.key task.now iv body db = (.error e, db')) :
    ∃ alone, (task.call (.update id body iv)).method db = (.error alone, db') ∧
      AnswersAs (task.call (.update id body iv)) (.error e) (.error alone) := by
  obtain rfl := writeUpdate_error hrun
  cases hrow : db'.accounts.find? id with
  | some row =>
      have hfind : findOwned task.userId id db' = (.ok row, db') :=
        findOwned_ok_iff.mpr ⟨⟨hrow, howned row hrow⟩, rfl⟩
      have hupdate : update task.userId id task.key task.now iv body db' = (.error e, db') := by
        rw [update, Handler.bind_of_ok hfind]
        exact hrun
      exact ⟨e, Handler.bind_of_error hupdate, .alone _⟩
  | none =>
      -- The row was removed after the first query: alone, the request would not find it.
      have hfind := findOwned_of_none task.userId hrow
      have hupdate : update task.userId id task.key task.now iv body db' =
          (.error accountNotFound, db') := Handler.bind_of_error hfind
      exact ⟨accountNotFound, Handler.bind_of_error hupdate, .lostUpdate rfl hrow hrun⟩

/-- A query that fails is the end of a request that would fail alone as well. -/
theorem method_of_error {phase : VaultPhase} {e : Exception}
    (howned : phase = .write → ∀ id ∈ op.target, ∀ row, db.accounts.find? id = some row →
      row.userId = task.userId)
    (hrun : op.turn task.userId task.key task.now phase db = (.error e, db')) :
    ∃ alone, (task.call op).method db = (.error alone, db') ∧
      AnswersAs (task.call op) (.error e) (.error alone) := by
  cases op with
  | create body fresh =>
      cases phase with
      | find => exact absurd (congrArg Prod.fst hrun) (by simp [VaultOp.turn])
      | write =>
          have hcreate := Handler.bind_pure_error_iff.mp hrun
          exact ⟨e, Handler.bind_of_error hcreate, .alone _⟩
  | update id body iv =>
      cases phase with
      | find =>
          have hupdate : update task.userId id task.key task.now iv body db = (.error e, db') :=
            Handler.bind_of_error (Handler.bind_pure_error_iff.mp hrun)
          exact ⟨e, Handler.bind_of_error hupdate, .alone _⟩
      | write =>
          exact method_of_update_error (howned rfl id rfl) (Handler.bind_pure_error_iff.mp hrun)
  | remove id =>
      cases phase with
      | find =>
          have hfind : findOwned task.userId id db = (.error e, db') :=
            Handler.bind_pure_error_iff.mp hrun
          exact ⟨e, Handler.bind_of_error hfind, .alone _⟩
      | write =>
          obtain ⟨hgone, rfl, rfl⟩ :=
            (Model.delete_error_iff _).mp (Handler.bind_pure_error_iff.mp hrun)
          have hfind := findOwned_of_none task.userId hgone
          exact ⟨accountNotFound, Handler.bind_of_error hfind, .lostRemoval rfl⟩

/-- An entry is imported if its creation alone succeeds, and is skipped or the
last one if that fails. -/
theorem importEntry_method {load : ImportLoad R} {entry : Json × Nat} {data : JsObject}
    (hdata : entryData entry.1 = .ok data) {counts : ImportResult}
    {result : Except Exception ImportResult}
    (hrun : importEntry task.userId task.key task.now load.fresh counts entry db = (result, db')) :
    ∃ answer, (task.call (.create data (load.fresh entry.2))).method db = (answer, db') ∧
      ((answer.isOk = true ∧ result = .ok ⟨counts.imported + 1, counts.skipped⟩) ∨
        (answer.isOk = false ∧ (result = .ok ⟨counts.imported, counts.skipped + 1⟩ ∨
          ∃ e, result = .error e))) := by
  unfold importEntry Handler.recover at hrun
  rw [hdata, Handler.ofExcept_ok_bind] at hrun
  rcases hcreate : create task.userId task.key task.now (load.fresh entry.2) data db with
    ⟨e | row, after⟩
  · rw [Handler.bind_of_error hcreate] at hrun
    have hservice : (task.call (.create data (load.fresh entry.2))).method db =
        (.error e, after) := Handler.bind_of_error hcreate
    have hstate : after = db' := by
      cases e <;> exact congrArg Prod.snd hrun
    subst hstate
    refine ⟨.error e, hservice, .inr ⟨rfl, ?_⟩⟩
    cases e with
    | conflict message => exact .inl (congrArg Prod.fst hrun).symm
    | _ => exact .inr ⟨_, (congrArg Prod.fst hrun).symm⟩
  · rw [Handler.bind_of_ok hcreate] at hrun
    have hservice : (task.call (.create data (load.fresh entry.2))).method db = (.ok (), after) :=
      Handler.bind_of_ok hcreate
    have hstate : after = db' := congrArg Prod.snd hrun
    subst hstate
    exact ⟨.ok (), hservice, .inl ⟨rfl, (congrArg Prod.fst hrun).symm⟩⟩

/-- `null` is an exception before the creation. -/
theorem importEntry_of_error {load : ImportLoad R} {entry : Json × Nat} {e : Exception}
    (hdata : entryData entry.1 = .error e) (counts : ImportResult) :
    importEntry task.userId task.key task.now load.fresh counts entry db = (.error e, db) := by
  have herror : ∃ message, e = .error message := by
    cases hentry : entry.1 with
    | obj object =>
        rw [hentry, entryData_obj] at hdata
        split at hdata <;> contradiction
    | null =>
        rw [hentry] at hdata
        exact ⟨_, (Except.error.inj hdata).symm⟩
    | bool _ | num _ _ | str _ | arr _ =>
        rw [hentry] at hdata
        contradiction
  obtain ⟨message, rfl⟩ := herror
  unfold importEntry Handler.recover
  rw [hdata]
  rfl

end Turn

end AccountTurns

/-! ## Every turn -/

section Goes

variable {state : VaultLog R} {userId : String} {key : R.Key} {now : Int}

/-- A turn in which one operation takes effect. -/
theorem AccountTask.goes_ended {work work' : AccountWork R} {op : VaultOp R} {db : Database}
    {alone : Except Exception Unit} (hop : op.Declared)
    (hmethod : (⟨userId, key, now, op⟩ : AccountCall R).method state.state = (alone, db))
    (hdrawn : ∀ id ∈ op.drawn, id ∈ drawn ⟨userId, key, now, work⟩)
    (hfact : Fact (AccountTurns.log state db ⟨userId, key, now, work⟩ [op])
      ⟨userId, key, now, work'⟩)
    (hended : endedOps ⟨userId, key, now, work'⟩ = endedOps ⟨userId, key, now, work⟩ ++ [op])
    (hgained : gained ⟨userId, key, now, work'⟩ = gained ⟨userId, key, now, work⟩ +
      if alone.isOk then op.gain else 0) :
    Goes state ⟨userId, key, now, work⟩
      (AccountTurns.log state db ⟨userId, key, now, work⟩ [op], ⟨userId, key, now, work'⟩) where
  call := rfl
  userId := rfl
  fact := hfact
  effect := by
    refine .inr ⟨op, hop, hdrawn, AccountTurns.log_eq_commit hmethod, hended, ?_⟩
    have halone : ((⟨userId, key, now, op⟩ : AccountCall R).method state.state).1 = alone :=
      congrArg Prod.fst hmethod
    rw [← halone] at hgained
    exact hgained

theorem AccountTask.running_goes {op : VaultOp R} {phase : VaultPhase}
    (hfact : AccountTask.Fact state ⟨userId, key, now, .running op phase⟩) :
    AccountTask.Goes state ⟨userId, key, now, .running op phase⟩
      (AccountTurns.turn () state ⟨userId, key, now, .running op phase⟩) := by
  have hop : op.Declared := by
    cases phase with
    | find => exact hfact
    | write => exact hfact.1
  rcases hrun : op.turn userId key now phase state.state with ⟨e | answer, db⟩
  · -- The request ends with an exception.
    have hturn : AccountTurns.turn () state ⟨userId, key, now, .running op phase⟩ =
        (AccountTurns.log state db ⟨userId, key, now, .running op phase⟩ [op],
          ⟨userId, key, now, .returned op (.error e)⟩) := by
      simp only [AccountTurns.turn, hrun]
    have howned : phase = .write → ∀ id ∈ op.target, ∀ row,
        state.state.accounts.find? id = some row → row.userId = userId := by
      rintro rfl
      exact hfact.2
    obtain ⟨alone, hmethod, hanswers⟩ := @AccountTurns.method_of_error R
      ⟨userId, key, now, .running op phase⟩ op state.state db phase e howned hrun
    rw [hturn]
    refine AccountTask.goes_ended hop hmethod (fun id hid => ?_)
      ⟨.error alone, hanswers, AccountTurns.mem_log hmethod⟩ rfl rfl
    cases op with
    | update _ _ _ | remove _ => contradiction
    | create body fresh =>
        cases phase with
        | write => exact hid
        | find => exact absurd (congrArg Prod.fst hrun) (by simp [VaultOp.turn])
  · cases phase with
    | find =>
        -- The lookup only reads: the request still has its write before it.
        have hdb : db = state.state :=
          (congrArg Prod.snd hrun).symm.trans (VaultOp.find_state state.state)
        have hanswer : answer = some .write := by
          cases op with
          | create body fresh => exact (Except.ok.inj (congrArg Prod.fst hrun)).symm
          | update _ _ _ | remove _ =>
              obtain ⟨_, _, -, hpure⟩ := Handler.bind_ok_iff.mp hrun
              exact (Except.ok.inj (congrArg Prod.fst hpure)).symm
        subst hdb hanswer
        have hturn : AccountTurns.turn () state ⟨userId, key, now, .running op .find⟩ =
            (AccountTurns.log state state.state ⟨userId, key, now, .running op .find⟩ [],
              ⟨userId, key, now, .running op .write⟩) := by
          simp only [AccountTurns.turn, hrun]
        rw [hturn, AccountTurns.log_nil]
        exact ⟨rfl, rfl, ⟨hop, VaultOp.find_owned hrun⟩, .inl ⟨rfl, rfl, rfl⟩⟩
    | write =>
        obtain rfl := VaultOp.write_ends hrun
        have hturn : AccountTurns.turn () state ⟨userId, key, now, .running op .write⟩ =
            (AccountTurns.log state db ⟨userId, key, now, .running op .write⟩ [op],
              ⟨userId, key, now, .returned op (.ok ())⟩) := by
          simp only [AccountTurns.turn, hrun]
        have hmethod := @AccountTurns.method_of_write R
          ⟨userId, key, now, .running op .write⟩ op state.state db hop none hfact.2 hrun
        rw [hturn]
        refine AccountTask.goes_ended hop hmethod (fun id hid => ?_)
          ⟨.ok (), .alone _, AccountTurns.mem_log hmethod⟩ rfl (zero_add op.gain).symm
        cases op with
        | create body fresh => exact hid
        | update _ _ _ | remove _ => contradiction

/-- An entry of an import: its creation takes effect, and the counters say which way. -/
theorem AccountTask.goes_entry {load : ImportLoad R} {next : Nat} {counts : ImportResult}
    {entry : Json} (hentry : load.entries[next]? = some entry)
    (hfact : AccountTask.Fact state ⟨userId, key, now, .importing load next counts⟩) :
    AccountTask.Goes state ⟨userId, key, now, .importing load next counts⟩
      (AccountTurns.turn () state ⟨userId, key, now, .importing load next counts⟩) := by
  obtain ⟨hdeclared, hnext, hcounts⟩ := hfact
  have hlater : next + 1 ≤ load.entries.length := (List.getElem?_eq_some_iff.mp hentry).1
  have hcreations := ImportLoad.creations_succ hentry
  cases hdata : entryData entry with
  | error e =>
      -- The entry throws before its insert, so the import ends with the creations it has made.
      have hrun := @AccountTurns.importEntry_of_error R
        ⟨userId, key, now, .importing load next counts⟩ state.state load (entry, next) e hdata
        counts
      have hcreation : load.creation (entry, next) = [] := by rw [ImportLoad.creation, hdata]
      have hturn : AccountTurns.turn () state ⟨userId, key, now, .importing load next counts⟩ =
          (AccountTurns.log state state.state ⟨userId, key, now, .importing load next counts⟩ [],
            ⟨userId, key, now, .stopped load next counts⟩) := by
        simp only [AccountTurns.turn, hentry, hrun, hcreation]
      rw [hturn, AccountTurns.log_nil]
      rw [hcreation, List.append_nil] at hcreations
      exact ⟨rfl, rfl, trivial, .inl ⟨rfl, hcreations, rfl⟩⟩
  | ok data =>
      have hcreation : load.creation (entry, next) = [.create data (load.fresh next)] := by
        rw [ImportLoad.creation, hdata]
      have hop : (VaultOp.create data (load.fresh next)).Declared := by
        apply hdeclared.creation hentry
        rw [hcreation]
        exact List.mem_singleton_self _
      rw [hcreation] at hcreations
      rcases hrun : importEntry userId key now load.fresh counts (entry, next) state.state with
        ⟨result, db⟩
      obtain ⟨answer, hmethod, houtcome⟩ := @AccountTurns.importEntry_method R
        ⟨userId, key, now, .importing load next counts⟩ _ _ load (entry, next) data hdata counts
        result hrun
      rcases houtcome with ⟨hanswer, rfl⟩ | ⟨hanswer, rfl | ⟨e, rfl⟩⟩
      · -- imported
        have hturn : AccountTurns.turn () state ⟨userId, key, now, .importing load next counts⟩ =
            (AccountTurns.log state db ⟨userId, key, now, .importing load next counts⟩
              [.create data (load.fresh next)], ⟨userId, key, now,
                .importing load (next + 1) ⟨counts.imported + 1, counts.skipped⟩⟩) := by
          simp only [AccountTurns.turn, hentry, hrun, hcreation]
        rw [hturn]
        refine AccountTask.goes_ended hop hmethod (fun _ hid => hid) ?_ hcreations ?_
        · exact ⟨hdeclared, hlater, by dsimp only; omega⟩
        · rw [if_pos hanswer]
          rfl
      · -- skipped
        have hturn : AccountTurns.turn () state ⟨userId, key, now, .importing load next counts⟩ =
            (AccountTurns.log state db ⟨userId, key, now, .importing load next counts⟩
              [.create data (load.fresh next)], ⟨userId, key, now,
                .importing load (next + 1) ⟨counts.imported, counts.skipped + 1⟩⟩) := by
          simp only [AccountTurns.turn, hentry, hrun, hcreation]
        rw [hturn]
        refine AccountTask.goes_ended hop hmethod (fun _ hid => hid) ?_ hcreations ?_
        · exact ⟨hdeclared, hlater, by dsimp only; omega⟩
        · rw [hanswer]
          exact (Int.add_zero _).symm
      · -- the last one
        have hturn : AccountTurns.turn () state ⟨userId, key, now, .importing load next counts⟩ =
            (AccountTurns.log state db ⟨userId, key, now, .importing load next counts⟩
              [.create data (load.fresh next)],
              ⟨userId, key, now, .stopped load next counts⟩) := by
          simp only [AccountTurns.turn, hentry, hrun, hcreation]
        rw [hturn]
        refine AccountTask.goes_ended hop hmethod (fun _ hid => hid) trivial hcreations ?_
        rw [hanswer]
        exact (Int.add_zero _).symm

end Goes

/-- What one turn of a task does. -/
theorem AccountTask.turn_goes {state : VaultLog R} {task : AccountTask R}
    (hfact : task.Fact state) :
    AccountTask.Goes state task (AccountTurns.turn () state task) := by
  obtain ⟨userId, key, now, work⟩ := task
  cases work with
  | running op phase => exact AccountTask.running_goes hfact
  | importing load next counts =>
      cases hentry : load.entries[next]? with
      | some entry => exact AccountTask.goes_entry hentry hfact
      | none =>
          -- The loop has ended.
          have hnext : next = load.entries.length :=
            Nat.le_antisymm hfact.2.1 (List.getElem?_eq_none_iff.mp hentry)
          have hturn : AccountTurns.turn () state ⟨userId, key, now, .importing load next counts⟩ =
              (state, ⟨userId, key, now, .imported load counts⟩) := by
            simp only [AccountTurns.turn, hentry]
          rw [hturn]
          refine ⟨rfl, rfl, hfact.2.2.trans hnext, .inl ⟨rfl, ?_, rfl⟩⟩
          rw [AccountTask.endedOps, AccountTask.endedOps, hnext]
  | returned op answer => exact ⟨rfl, rfl, hfact, .inl ⟨rfl, rfl, rfl⟩⟩
  | imported load counts => exact ⟨rfl, rfl, hfact, .inl ⟨rfl, rfl, rfl⟩⟩
  | stopped load last counts => exact ⟨rfl, rfl, trivial, .inl ⟨rfl, rfl, rfl⟩⟩

/-! ## An import alone -/

section Alone

variable {userId : String} {key : R.Key} {now : Int} {load : ImportLoad R}

/-- So many turns of one task in a row. -/
def AccountTurns.turns (count : Nat) (state : VaultLog R) (task : AccountTask R) :
    VaultLog R × AccountTask R :=
  (fun run : VaultLog R × AccountTask R => AccountTurns.turn () run.1 run.2)^[count] (state, task)

theorem AccountTurns.turns_stopped {last : Nat} {counts : ImportResult} (count : Nat)
    (state : VaultLog R) :
    AccountTurns.turns count state ⟨userId, key, now, .stopped load last counts⟩ =
      (state, ⟨userId, key, now, .stopped load last counts⟩) :=
  Function.iterate_fixed rfl count

/-- The rest of an import alone is the rest of its loop. -/
theorem AccountTurns.turns_importing {rest : List Json} {next : Nat} {counts : ImportResult}
    {state : VaultLog R} (hrest : load.entries.drop next = rest)
    {result : Except Exception ImportResult} {db : Database}
    (hrun : (rest.zipIdx next).foldlM (importEntry userId key now load.fresh) counts state.state =
      (result, db)) :
    let run := AccountTurns.turns (rest.length + 1) state
      ⟨userId, key, now, .importing load next counts⟩
    run.1.state = db ∧
      (∀ counts', result = .ok counts' → run.2.work = .imported load counts') ∧
      ∀ e, result = .error e → ∃ last counts', run.2.work = .stopped load last counts' := by
  have hturn : ∀ count, AccountTurns.turns (count + 1) state
      ⟨userId, key, now, .importing load next counts⟩ = AccountTurns.turns count
        (AccountTurns.turn () state ⟨userId, key, now, .importing load next counts⟩).1
        (AccountTurns.turn () state ⟨userId, key, now, .importing load next counts⟩).2 :=
    fun count => Function.iterate_succ_apply _ count _
  have hnext : load.entries[next]? = rest.head? := by
    rw [← hrest, List.head?_drop]
  induction rest generalizing next counts state with
  | nil =>
      obtain ⟨rfl, rfl⟩ := Prod.mk.inj hrun
      intro run
      have hend : run = (state, ⟨userId, key, now, .imported load counts⟩) := by
        refine (hturn 0).trans ?_
        simp only [AccountTurns.turn, hnext, List.head?_nil]
        rfl
      rw [hend]
      exact ⟨rfl, fun counts' hok => by rw [Except.ok.inj hok], fun e herror => by contradiction⟩
  | cons entry rest ih =>
      rw [List.zipIdx_cons, List.foldlM_cons] at hrun
      intro run
      have hdrop : load.entries.drop (next + 1) = rest := by
        rw [← List.drop_drop, hrest, List.drop_one, List.tail_cons]
      rcases hentry : importEntry userId key now load.fresh counts (entry, next) state.state with
        ⟨e | counts', middle⟩
      · -- The loop stops here, and the turns that are left do nothing.
        rw [Handler.bind_of_error hentry] at hrun
        obtain ⟨rfl, rfl⟩ := Prod.mk.inj hrun
        have hend : run = (AccountTurns.log state middle
            ⟨userId, key, now, .importing load next counts⟩ (load.creation (entry, next)),
            ⟨userId, key, now, .stopped load next counts⟩) := by
          refine (hturn (rest.length + 1)).trans ?_
          simp only [AccountTurns.turn, hnext, List.head?_cons, hentry]
          exact AccountTurns.turns_stopped _ _
        rw [hend]
        exact ⟨rfl, fun counts' hok => by contradiction, fun e' _ => ⟨next, counts, rfl⟩⟩
      · rw [Handler.bind_of_ok hentry] at hrun
        have hstep : run = AccountTurns.turns (rest.length + 1) (AccountTurns.log state middle
            ⟨userId, key, now, .importing load next counts⟩ (load.creation (entry, next)))
            ⟨userId, key, now, .importing load (next + 1) counts'⟩ := by
          refine (hturn (rest.length + 1)).trans ?_
          simp only [AccountTurns.turn, hnext, List.head?_cons, hentry]
        rw [hstep]
        refine ih hdrop hrun (fun count => Function.iterate_succ_apply _ count _) ?_
        rw [← hdrop, List.head?_drop]

/-- Alone, the turns of an import are `importAccounts`. -/
theorem AccountTurns.import_alone {exportPassword : Option String} {file : BackupFile}
    (hopen : openBackup (R := R) exportPassword file = .ok load.entries) (db : Database) :
    let run := AccountTurns.turns (load.entries.length + 1) ⟨db, []⟩
      ⟨userId, key, now, .importing load 0 ⟨0, 0⟩⟩
    let result := importAccounts userId key now load.fresh exportPassword file db
    run.1.state = result.2 ∧
      (∀ counts, result.1 = .ok counts → run.2.work = .imported load counts) ∧
      ∀ e, result.1 = .error e → ∃ last counts, run.2.work = .stopped load last counts := by
  intro run result
  refine AccountTurns.turns_importing List.drop_zero ?_
  show _ = result
  unfold result importAccounts
  rw [hopen, Handler.ofExcept_ok_bind]

end Alone

/-! ## All runs -/

/-- The requests of all users, with the log of their effects. -/
abbrev AccountPool (R : Runtime) : Type := Pool (VaultLog R) (AccountTask R)

/-- The operations of a request, one for each entry of a file that can be opened. -/
def WriteRequest.ops : WriteRequest R → List (VaultOp R)
  | one op => [op]
  | importFile exportPassword file fresh =>
      match openBackup (R := R) exportPassword file with
      | .ok entries => ImportLoad.creations ⟨entries, fresh⟩ entries.length
      | .error _ => []

theorem WriteRequest.ops_importFile {exportPassword : Option String} {file : BackupFile}
    {fresh : Nat → FreshAccount R} {entries : List Json}
    (hopen : openBackup (R := R) exportPassword file = .ok entries) :
    (importFile exportPassword file fresh).ops =
      ImportLoad.creations ⟨entries, fresh⟩ entries.length := by
  rw [ops, hopen]

/-- The bodies and entries of the request name declared fields only. -/
def AccountStart.Declared (what : AccountStart R) : Prop := ∀ op ∈ what.write.ops, op.Declared

instance (what : AccountStart R) : Decidable what.Declared :=
  inferInstanceAs (Decidable (∀ op ∈ what.write.ops, op.Declared))

/-- A request that starts has declared bodies, and an id that is drawn for a new
row is not that of a row another request has just found. -/
def AccountTurns.Sound (pool : AccountPool R) : Move (AccountStart R) Unit → Prop
  | .start what => what.Declared
  | .turn index _ => ∀ task ∈ pool.tasks[index]?, ∀ id ∈ task.drawn,
      ∀ other ∈ pool.tasks, id ∉ other.found

instance (pool : AccountPool R) :
    ∀ move : Move (AccountStart R) Unit, Decidable (AccountTurns.Sound pool move)
  | .start what => inferInstanceAs (Decidable what.Declared)
  | .turn index _ => inferInstanceAs (Decidable (∀ task ∈ pool.tasks[index]?, ∀ id ∈ task.drawn,
      ∀ other ∈ pool.tasks, id ∉ other.found))

/-- What the task reports to the user. -/
def AccountTask.gainedBy (userId : String) (task : AccountTask R) : Int :=
  if task.userId = userId then task.gained else 0

/-- The vaults after the requests have taken turns: those of a serial order of the
operations that have ended. Each has answered what it answers there, unless the row
that it had found was removed before its write. Each vault has grown by what the
requests of its owner report, an import has counted all entries of its file, and
nothing changes for a user who has made no request. -/
structure RunsInTurns (db : Database) (pool : AccountPool R) : Prop where
  serial : CallLog.Serial AccountCall.method db pool.shared
  ended : (pool.shared.log.map Prod.fst).Perm (pool.tasks.flatMap AccountTask.ended)
  answered : ∀ task ∈ pool.tasks, ∀ op answer, task.work = .returned op answer →
    ∃ alone, AnswersAs (task.call op) answer alone ∧ (task.call op, alone) ∈ pool.shared.log
  counted : ∀ task ∈ pool.tasks, ∀ load counts, task.work = .imported load counts →
    counts.imported + counts.skipped = load.entries.length
  grown : ∀ userId, ((vault pool.shared.state userId).length : Int) =
    (vault db userId).length + (pool.tasks.map (AccountTask.gainedBy userId)).sum
  untouched : ∀ userId, (∀ task ∈ pool.tasks, task.userId ≠ userId) →
    pool.shared.state.rowsOf userId = db.rowsOf userId

namespace AccountTurns

/-- What is true in every state of a run. -/
structure Invariant (db : Database) (pool : AccountPool R) : Prop where
  facts : Pool.Holds (fun _ => True) AccountTask.Fact pool
  serial : CallLog.Serial AccountCall.method db pool.shared
  ended : (pool.shared.log.map Prod.fst).Perm (pool.tasks.flatMap AccountTask.ended)
  grown : ∀ userId, ((vault pool.shared.state userId).length : Int) =
    (vault db userId).length + (pool.tasks.map (AccountTask.gainedBy userId)).sum
  untouched : ∀ userId, (∀ task ∈ pool.tasks, task.userId ≠ userId) →
    pool.shared.state.rowsOf userId = db.rowsOf userId

theorem start_importFile {userId : String} {key : R.Key} {now : Int}
    {exportPassword : Option String} {file : BackupFile} {fresh : Nat → FreshAccount R}
    {entries : List Json} (hopen : openBackup (R := R) exportPassword file = .ok entries)
    (state : VaultLog R) :
    start ⟨userId, key, now, .importFile exportPassword file fresh⟩ state =
      (state, some ⟨userId, key, now, .importing ⟨entries, fresh⟩ 0 ⟨0, 0⟩⟩) := by
  simp only [start, hopen]

/-- A request that starts has changed nothing. -/
theorem start_cases {what : AccountStart R} (hdeclared : what.Declared) (state : VaultLog R) :
    (start what state).1 = state ∧ ∀ task ∈ (start what state).2,
      task.Fact state ∧ task.ended = [] ∧ task.gained = 0 := by
  obtain ⟨userId, key, now, write⟩ := what
  cases write with
  | one op =>
      have hop : op.Declared := hdeclared op (List.mem_singleton_self op)
      refine ⟨rfl, fun task htask => ?_⟩
      obtain rfl := Option.some.inj htask
      refine ⟨?_, rfl, rfl⟩
      cases op with
      | create body fresh => exact ⟨hop, fun _ hid => by contradiction⟩
      | update _ _ _ | remove _ => exact hop
  | importFile exportPassword file fresh =>
      cases hopen : openBackup (R := R) exportPassword file with
      | error e =>
          simp only [start, hopen]
          exact ⟨trivial, fun _ htask => by contradiction⟩
      | ok entries =>
          rw [AccountStart.Declared, WriteRequest.ops_importFile hopen] at hdeclared
          rw [start_importFile hopen]
          refine ⟨rfl, fun task htask => ?_⟩
          obtain rfl := Option.some.inj htask
          exact ⟨⟨hdeclared, Nat.zero_le _, rfl⟩, rfl, rfl⟩

section Step

variable {db : Database} {state : VaultLog R} {task : AccountTask R}
  {after : VaultLog R × AccountTask R}

/-- A turn grows the vault of the user of the task by what the task reports, and
leaves the rows of all others as they are. -/
theorem goes_vault (hgoes : AccountTask.Goes state task after) :
    SameForOthers task.userId state.state after.1.state ∧
      ((vault after.1.state task.userId).length : Int) =
        (vault state.state task.userId).length + (after.2.gained - task.gained) := by
  rcases hgoes.effect with ⟨hsame, -, hgained⟩ | ⟨op, hop, -, hcommit, -, hgained⟩
  · rw [hsame, hgained]
    exact ⟨.refl _ _, by omega⟩
  · have hcases := @VaultOp.service_cases R task.userId task.key task.now op hop state.state
    rw [hcommit, hgained]
    refine ⟨VaultOp.service_sameForOthers hop state.state, ?_⟩
    rcases hcases with ⟨hfailed, hsame⟩ | ⟨hok, hwrites⟩
    · have hmethod : ((task.call op).method state.state).1.isOk = false := hfailed
      have hstate : (state.commit AccountCall.method (task.call op)).state = state.state := hsame
      rw [hmethod, hstate]
      simp
    · have hmethod : ((task.call op).method state.state).1.isOk = true := hok
      have hlength := hwrites.length
      rw [hmethod, if_pos rfl]
      have hrest : task.gained + op.gain - task.gained = op.gain := by omega
      rw [hrest]
      exact hlength

/-- What another task knows outlives the turn. -/
theorem goes_other {other : AccountTask R} (hgoes : AccountTask.Goes state task after)
    (hsound : ∀ id ∈ task.drawn, id ∉ other.found) (hfact : other.Fact state) :
    other.Fact after.1 := by
  rcases hgoes.effect with ⟨hsame, -⟩ | ⟨op, hop, hdrawn, hcommit, -⟩
  · rwa [hsame]
  · rw [hcommit]
    obtain ⟨userId, key, now, work⟩ := other
    cases work with
    | running op' phase =>
        cases phase with
        | find => exact hfact
        | write =>
            refine ⟨hfact.1, fun id hid row' hrow' => ?_⟩
            have hcases := @VaultOp.service_cases R task.userId task.key task.now op hop state.state
            rcases hcases with ⟨-, hsame⟩ | ⟨-, hwrites⟩
            · have hstate : (state.commit AccountCall.method (task.call op)).state = state.state :=
                hsame
              rw [hstate] at hrow'
              exact hfact.2 id hid row' hrow'
            · obtain ⟨row, hrow, hsame⟩ :=
                hwrites.owner (fun hmem => hsound id (hdrawn id hmem) hid) hrow'
              exact hsame.symm.trans (hfact.2 id hid row hrow)
    | returned op' answer =>
        obtain ⟨alone, hanswers, hlogged⟩ := hfact
        exact ⟨alone, hanswers, List.mem_append_left _ hlogged⟩
    | importing load next counts => exact hfact
    | imported load counts => exact hfact
    | stopped load last counts => trivial

theorem Invariant.start {pool : AccountPool R} (hinvariant : Invariant db pool)
    {what : AccountStart R} (hdeclared : what.Declared) :
    Invariant db (pool.step AccountTurns.start AccountTurns.turn (.start what)) := by
  obtain ⟨hsame, hnew⟩ := start_cases hdeclared pool.shared
  have htasks : ∀ task ∈ (AccountTurns.start what pool.shared).2.toList,
      task.Fact pool.shared ∧ task.ended = [] ∧ task.gained = 0 :=
    fun task htask => hnew task (Option.mem_toList.mp htask)
  rw [Pool.step_start, hsame]
  constructor
  case facts =>
    refine ⟨trivial, fun task htask => ?_⟩
    rcases List.mem_append.mp htask with hold | hadded
    · exact hinvariant.facts.2 task hold
    · exact (htasks task hadded).1
  case serial => exact hinvariant.serial
  case ended =>
    have hnone : (AccountTurns.start what pool.shared).2.toList.flatMap AccountTask.ended = [] :=
      List.flatMap_eq_nil_iff.mpr fun task htask => (htasks task htask).2.1
    rw [List.flatMap_append, hnone, List.append_nil]
    exact hinvariant.ended
  case grown =>
    intro userId
    have hzero : ((AccountTurns.start what pool.shared).2.toList.map
        (AccountTask.gainedBy userId)).sum = 0 := by
      apply List.sum_eq_zero
      intro amount hamount
      obtain ⟨task, htask, rfl⟩ := List.mem_map.mp hamount
      simp [AccountTask.gainedBy, (htasks task htask).2.2]
    rw [List.map_append, List.sum_append, hzero, add_zero]
    exact hinvariant.grown userId
  case untouched =>
    intro userId hnone
    exact hinvariant.untouched userId fun task htask => hnone task (List.mem_append_left _ htask)

theorem Invariant.turn {pool : AccountPool R} (hinvariant : Invariant db pool) {index : Nat}
    {task : AccountTask R} (htask : pool.tasks[index]? = some task)
    (hsound : ∀ id ∈ task.drawn, ∀ other ∈ pool.tasks, id ∉ other.found) :
    Invariant db (pool.step AccountTurns.start AccountTurns.turn (.turn index ())) := by
  have hmem : task ∈ pool.tasks := List.mem_of_getElem? htask
  have hgoes : task.Goes pool.shared (AccountTurns.turn () pool.shared task) :=
    AccountTask.turn_goes (hinvariant.facts.2 task hmem)
  obtain ⟨hothers, hlength⟩ := goes_vault hgoes
  constructor
  case facts =>
    refine hinvariant.facts.turn htask trivial hgoes.fact fun other hother hfact => ?_
    exact goes_other hgoes (fun id hid => hsound id hid other hother) hfact
  all_goals rw [Pool.step_turn _ _ htask]
  case serial =>
    rcases hgoes.effect with ⟨hsame, -⟩ | ⟨op, -, -, hcommit, -⟩
    · rw [hsame]
      exact hinvariant.serial
    · rw [hcommit]
      exact hinvariant.serial.commit _
  case ended =>
    rcases hgoes.effect with ⟨hsame, hended, -⟩ | ⟨op, -, -, hcommit, hended, -⟩
    · have hnothing : (AccountTurns.turn () pool.shared task).2.ended = task.ended ++ [] := by
        rw [AccountTask.ended, hended, hgoes.call, List.append_nil]
        rfl
      have hperm := flatMap_set_perm htask hnothing
      rw [List.append_nil] at hperm
      rw [hsame]
      exact hinvariant.ended.trans hperm.symm
    · have hadded : (AccountTurns.turn () pool.shared task).2.ended =
          task.ended ++ [task.call op] := by
        rw [AccountTask.ended, hended, hgoes.call, List.map_append]
        rfl
      rw [hcommit, CallLog.commit, List.map_append]
      exact (hinvariant.ended.append_right _).trans (flatMap_set_perm htask hadded).symm
  case grown =>
    intro userId
    rw [sum_map_set htask, AccountTask.gainedBy, AccountTask.gainedBy, hgoes.userId]
    have hbefore := hinvariant.grown userId
    by_cases huser : task.userId = userId
    · subst huser
      rw [if_pos rfl, if_pos rfl]
      dsimp only
      omega
    · have hkept : vault (AccountTurns.turn () pool.shared task).1.state userId =
          vault pool.shared.state userId :=
        congrArg OwnRows.accounts (hothers userId (Ne.symm huser))
      rw [if_neg huser, if_neg huser, hkept]
      omega
  case untouched =>
    intro userId hnone
    have huser : task.userId ≠ userId := by
      rw [← hgoes.userId]
      exact hnone _ (mem_set_self htask)
    refine (hothers userId huser.symm).trans (hinvariant.untouched userId fun other hother => ?_)
    by_cases hsame : other = task
    · rwa [hsame]
    · exact hnone other (mem_set_of_ne htask hother hsame)

theorem Invariant.step {pool : AccountPool R} {move : Move (AccountStart R) Unit}
    (hinvariant : Invariant db pool) (hsound : Sound pool move) :
    Invariant db (pool.step AccountTurns.start AccountTurns.turn move) := by
  cases move with
  | start what => exact hinvariant.start hsound
  | turn index input =>
      cases htask : pool.tasks[index]? with
      | none =>
          rw [Pool.step_turn_of_none _ _ htask]
          exact hinvariant
      | some task => exact hinvariant.turn htask (hsound task htask)

end Step

end AccountTurns

/-- In whatever order the account requests of all users take their turns, they
are as good as one after the other. -/
theorem runsInTurns (db : Database) {moves : List (Move (AccountStart R) Unit)}
    (hsound : Along (Pool.step AccountTurns.start AccountTurns.turn) AccountTurns.Sound
      ⟨⟨db, []⟩, []⟩ moves) :
    RunsInTurns db (run (Pool.step AccountTurns.start AccountTurns.turn) ⟨⟨db, []⟩, []⟩ moves) := by
  have hinit : AccountTurns.Invariant db (⟨⟨db, []⟩, []⟩ : AccountPool R) := by
    refine ⟨⟨trivial, by simp⟩, CallLog.serial_init db, .refl _, by simp, fun _ _ => rfl⟩
  have hinvariant : AccountTurns.Invariant db (run (Pool.step AccountTurns.start AccountTurns.turn)
      ⟨⟨db, []⟩, []⟩ moves) :=
    run_invariant (fun _ _ h => h.step) hinit hsound
  refine ⟨hinvariant.serial, hinvariant.ended, ?_, ?_, hinvariant.grown, hinvariant.untouched⟩
  · intro task htask op answer hwork
    have hfact := hinvariant.facts.2 task htask
    rw [AccountTask.Fact, hwork] at hfact
    exact hfact
  · intro task htask load counts hwork
    have hfact := hinvariant.facts.2 task htask
    rw [AccountTask.Fact, hwork] at hfact
    exact hfact

namespace TwoVaults

/-- The owner has stored the account of the file. -/
def db : Database := PlainBackup.stored PlainBackup.body

/-- Another user imports a file with two entries of one login. -/
def importStart : AccountStart symbolicRuntime where
  userId := "v"
  key := PlainBackup.receiverKey
  now := 2
  write := .importFile (some "export-password") RepeatedImport.file PlainBackup.fresh

/-- Meanwhile the owner removes the account of that login and stores it again. -/
def moves : List (Move (AccountStart symbolicRuntime) Unit) :=
  [.start ⟨"u", PlainBackup.ownerKey, 2, .one (.remove "a")⟩,
    .start ⟨"u", PlainBackup.ownerKey, 2, .one (.create PlainBackup.body ⟨"b", "iv"⟩)⟩,
    .turn 1 (), .turn 0 (), .turn 2 (), .turn 1 (), .turn 0 (), .turn 0 ()]

end TwoVaults

open TwoVaults in
theorem runsInTurns_example :
    RunsInTurns db (run (Pool.step AccountTurns.start AccountTurns.turn) ⟨⟨db, []⟩, []⟩
      (.start importStart :: moves)) := by
  have hopen : openBackup (R := symbolicRuntime) (some "export-password") RepeatedImport.file =
      .ok RepeatedImport.entries :=
    openBackup_backupFile symbolicRuntime.aesGcmLaws symbolicRuntime.jsonRoundTrip _
  apply runsInTurns
  constructor
  · have hdeclared : ImportLoad.Declared
        (⟨RepeatedImport.entries, PlainBackup.fresh⟩ : ImportLoad symbolicRuntime) := by
      decide +kernel
    intro op hop
    rw [importStart, WriteRequest.ops_importFile hopen] at hop
    exact hdeclared op hop
  · rw [Pool.step_start, importStart, AccountTurns.start_importFile hopen]
    decide +kernel

end MyAccountController
