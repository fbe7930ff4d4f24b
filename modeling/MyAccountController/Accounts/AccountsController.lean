import MyAccountController.Accounts.AccountsService

/-! # `AccountsController`

Every route under `/accounts` is behind `UnlockedGuard`, which supplies the user
id and the key.
-/

namespace MyAccountController

open Foundation

variable {R : Runtime}

/-- A request to a route under `/accounts`. -/
inductive AccountRequest (R : Runtime) where
  | findOne (id : String)
  | create (body : JsObject) (fresh : FreshAccount R)
  | update (id : String) (body : JsObject) (iv : R.Iv)
  | remove (id : String)
  | exportAccounts (exportPassword : Option String) (salt : String) (iv : R.Iv)
  | importAccounts (exportPassword : Option String) (file : BackupFile)
      (fresh : Nat → FreshAccount R)

namespace AccountRequest

/-- The service method a request calls. The response body is dropped. -/
def service (userId : String) (encryptionKey : R.Key) (now : Int) :
    AccountRequest R → Query Unit
  | .findOne id => do
      let _ ← AccountsService.findOne userId id encryptionKey
  | .create body fresh => do
      let _ ← AccountsService.create userId encryptionKey now fresh body
  | .update id body iv => do
      let _ ← AccountsService.update userId id encryptionKey now iv body
  | .remove id => AccountsService.remove userId id
  | .exportAccounts exportPassword salt iv => do
      let _ ← AccountsService.exportAccounts userId encryptionKey exportPassword now salt iv
  | .importAccounts exportPassword file fresh => do
      let _ ← AccountsService.importAccounts userId encryptionKey now fresh exportPassword file

/-- The guard, then the service. -/
def route (sessionId : String) (now : Int) (request : AccountRequest R) : Route R Unit := do
  let (userId, encryptionKey) ← unlockedGuard sessionId now
  onDatabase (request.service userId encryptionKey now)

end AccountRequest

end MyAccountController
