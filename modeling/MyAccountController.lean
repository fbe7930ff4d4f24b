import MyAccountController.Foundation.Run
import MyAccountController.Foundation.Handler
import MyAccountController.Foundation.Table
import MyAccountController.Common.Json
import MyAccountController.Common.JsonText
import MyAccountController.Common.Exception
import MyAccountController.Common.Runtime
import MyAccountController.Common.SymbolicRuntime
import MyAccountController.Prisma.Schema
import MyAccountController.Prisma.Client
import MyAccountController.Auth.UnlockKeyStore
import MyAccountController.Auth.Session
import MyAccountController.Auth.AuthService
import MyAccountController.Auth.ChangeMasterPassword
import MyAccountController.Auth.WebAuthnService
import MyAccountController.Auth.AuthController
import MyAccountController.Auth.Server
import MyAccountController.Auth.SessionEffect
import MyAccountController.Auth.KeyProvenance
import MyAccountController.Accounts.AccountsService
import MyAccountController.Accounts.AccountsController
import MyAccountController.Accounts.AccountWrites
import MyAccountController.Accounts.VaultKeys
import MyAccountController.Accounts.Backup
import MyAccountController.Auth.RequestTurns
import MyAccountController.Auth.LockRaces
import MyAccountController.Accounts.VaultOperations
import MyAccountController.Accounts.RotationRaces
import MyAccountController.Auth.FailedRequests
import MyAccountController.Auth.KeyHistory
import MyAccountController.Auth.LockedSessions
import MyAccountController.Auth.LoginCallback
import MyAccountController.Accounts.ImportRuns
import MyAccountController.Common.Text
import MyAccountController.Mail.CandidatesService
import MyAccountController.Mail.GmailProvider
import MyAccountController.Mail.ScanFailures
import MyAccountController.Mail.ScanSpec
import MyAccountController.EmailAccounts.EmailAccountsService
import MyAccountController.Mail.MailRequests
import MyAccountController.Mail.MailboxCalls
import MyAccountController.Foundation.Program
import MyAccountController.Mail.DecisionRaces
import MyAccountController.Mail.ImportantMail
import MyAccountController.Mail.ShownActions
import MyAccountController.Mail.Attachments
import MyAccountController.Mail.ImportantCount
import MyAccountController.Mail.ScannedMail
import MyAccountController.Auth.SignatureCounters
import MyAccountController.Auth.IdleLimits
import MyAccountController.Auth.SessionTokens
import MyAccountController.Auth.SingleUse
import MyAccountController.EmailAccounts.MailboxLabels
import MyAccountController.Mail.RuleRoundTrip
import MyAccountController.Mail.RuleUpdates
import MyAccountController.Foundation.Base64
import MyAccountController.Foundation.Utf8
import MyAccountController.Isolation.OthersAccounts
import MyAccountController.Isolation.ReadRequests
import MyAccountController.Isolation.UserRequests
import MyAccountController.Web.DeviceUnlock
import MyAccountController.Accounts.GeneratePassword
import MyAccountController.Common.Aes
import MyAccountController.Common.LowerCase
import MyAccountController.Mail.KeywordCase
import MyAccountController.Mail.SenderDomain
import MyAccountController.Notifications.ImportantSummaries
import MyAccountController.Web.AccountForm
import MyAccountController.Web.RegistrationFailures
import MyAccountController.Accounts.PlainServer
import MyAccountController.Application.CandidateRules
import MyAccountController.Application.Devices
import MyAccountController.Application.Integrity
import MyAccountController.Application.TokenKeys
import MyAccountController.Foundation.SerialOrder
import MyAccountController.Isolation.AccountEffects
import MyAccountController.Isolation.AccountTurns
import MyAccountController.Web.LoginPage
