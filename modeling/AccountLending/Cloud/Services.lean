import AccountLending.Cloud.Request
import AccountLending.Iam.Contents
import AccountLending.Organization.Members

/-!
# The cloud in memory

An organization, the caller's identity and the IAM of every account, each with a journal of its own.
Assuming a role opens a session in the account that the role's resource name names, and a session in
memory has the number of its account as access key.

* `Cloud.serve` — how each request is answered.
-/

namespace AccountLending

/-- What the journal of the caller's identity records. -/
inductive Identity.Event
  /-- A role of an account was to be assumed. -/
  | assumed (account : String)
  /-- A session of a name was opened. -/
  | opened (name : String)
  deriving DecidableEq, Repr

/-- The line that records an event. -/
def Identity.Event.entry : Identity.Event → String
  | .assumed account => "AssumeRole:" ++ account
  | .opened name => "Session:" ++ name

/-- The services of the cloud. -/
structure Cloud where
  organization : Journaled Organization Organization.Request := ⟨{}, [], Dict.empty⟩
  /-- The account that the caller's credentials belong to, or why it is not known. -/
  identity : Journaled (Except ServiceError.Reason String) Identity.Event
  /-- The IAM of each account that has been looked at. -/
  iam : Dict (Journaled Iam Iam.Request) := Dict.empty

namespace Cloud

/-- The cloud of a caller, with nothing in it. -/
def ofCaller (caller : Except ServiceError.Reason String) : Cloud :=
  { identity := ⟨caller, [], Dict.empty⟩ }

/-- The IAM of an account; it is empty until something is put into it. -/
def iamOf (cloud : Cloud) (account : String) : Journaled Iam Iam.Request :=
  (cloud.iam.get? account).getD ⟨{}, [], Dict.empty⟩

/-- Change the IAM of an account. -/
def changeIam (cloud : Cloud) (account : String)
    (f : Journaled Iam Iam.Request → Journaled Iam Iam.Request) : Cloud :=
  { cloud with iam := cloud.iam.insert account (f (cloud.iamOf account)) }

/-- Change the contents of the organization. -/
def changeOrganization (cloud : Cloud) (f : Organization → Organization) : Cloud :=
  { cloud with organization := cloud.organization.modify f }

/-- The session in memory that belongs to an account. -/
def sessionOf (account : String) : Session := { accessKey := account }

/-- The account that the resource name of a role names. -/
def accountOfRole? (arn : String) : Option String := Text.field? ':' 4 arn

/-- Assume a role. -/
def assumeRole (cloud : Cloud) (arn name : String) : Except ServiceError Session × Cloud :=
  match accountOfRole? arn with
  | none => (.error ⟨.identity, .malformedArn arn⟩, cloud)
  | some account =>
    let event := Identity.Event.assumed account
    let asked := { cloud with identity := cloud.identity.record event }
    if cloud.identity.fails event.entry then
      (.error ⟨.identity, .refused event.entry⟩, asked)
    else
      (.ok (sessionOf account),
        -- a session alone makes the account's IAM one that has been looked at
        { asked with identity := asked.identity.record (.opened name) }.changeIam account id)

/-- Answer a request about the caller's identity. -/
def serveIdentity (request : Identity.Request) (cloud : Cloud) :
    Except ServiceError request.Answer × Cloud :=
  match request with
  | .caller => (cloud.identity.state.mapError (ServiceError.mk .identity), cloud)
  | .assumeRole arn name _ => cloud.assumeRole arn name

/-- The account that a session belongs to; without one it is the caller's. -/
def accountOf (cloud : Cloud) : Option Session → String
  | some session => session.accessKey
  | none => cloud.identity.state.toOption.getD ""

/-- Answer a request to an account's IAM. -/
def serveIam (account : String) (request : Iam.Request) (cloud : Cloud) :
    Except ServiceError request.Answer × Cloud :=
  let (reply, iam) := Iam.serve request (cloud.iamOf account)
  (reply, cloud.changeIam account fun _ => iam)

/-- Answer a request to the organization. -/
def serveOrganization (request : Organization.Request) (cloud : Cloud) :
    Except ServiceError request.Answer × Cloud :=
  let (reply, organization) := Organization.serve request cloud.organization
  (reply, { cloud with organization })

/-- Answer a request. -/
def serve (request : Request) (cloud : Cloud) : Except ServiceError request.Answer × Cloud :=
  match request with
  | .organization request => serveOrganization request cloud
  | .identity request => serveIdentity request cloud
  | .iam session request => serveIam (cloud.accountOf session) request cloud

end Cloud

end AccountLending
