import AccountLending.Iam.Request
import AccountLending.Identity.Request
import AccountLending.Organization.Request

/-!
# What can be asked of the cloud

The requests to the three services that lending accounts needs: the organization, the caller's
identity, and the IAM of one account.
-/

namespace AccountLending.Cloud

/-- A request to one of the services. -/
inductive Request
  | organization (request : Organization.Request)
  | identity (request : Identity.Request)
  /-- A request to the IAM of the account that a session belongs to, or of the caller's own account
  when there is no session. -/
  | iam (session : Option Session) (request : Iam.Request)
  deriving DecidableEq

/-- What a request returns. -/
@[reducible] def Request.Answer : Request → Type
  | .organization request => request.Answer
  | .identity request => request.Answer
  | .iam _ request => request.Answer

end AccountLending.Cloud
