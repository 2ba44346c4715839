/-!
# Who is calling, and as whom

A caller can ask which account its credentials belong to, and can assume a role in another account,
which gives it a session there: credentials that are good for some time.
-/

namespace AccountLending

/-- The credentials of an assumed role. -/
structure Session where
  accessKey : String
  secretKey : String := ""
  token : String := ""
  deriving DecidableEq, Repr, Inhabited

namespace Identity

/-- A request about the caller's identity. -/
inductive Request
  /-- The account that the caller's credentials belong to. -/
  | caller
  /-- Assume a role, naming the session and how long it lasts. -/
  | assumeRole (arn name : String) (seconds : Int32)
  deriving DecidableEq

/-- What a request returns. -/
@[reducible] def Request.Answer : Request → Type
  | .caller => String
  | .assumeRole .. => Session

end Identity

end AccountLending
