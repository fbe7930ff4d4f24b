import MyAccountController.Foundation.Handler

/-! # Exceptions of the API server

Nest's HTTP exceptions carry their message. A known Prisma error carries its
code, and a validation error is raised before any SQL is sent. Everything else
a handler can throw is an `Error` with a message.
-/

namespace MyAccountController

inductive Exception where
  | unauthorized (message : String)
  | badRequest (message : String)
  | conflict (message : String)
  | notFound (message : String)
  | prismaKnownRequest (code : String)
  | prismaValidation
  | error (message : String)
  deriving DecidableEq, Repr

namespace Exception

/-- The unique-index violation of Prisma. -/
def p2002 : Exception := .prismaKnownRequest "P2002"

/-- The foreign-key violation of Prisma. -/
def p2003 : Exception := .prismaKnownRequest "P2003"

/-- A value that does not fit the type of its column. -/
def p2020 : Exception := .prismaKnownRequest "P2020"

/-- The row a Prisma write needs does not exist. -/
def p2025 : Exception := .prismaKnownRequest "P2025"

end Exception

end MyAccountController
