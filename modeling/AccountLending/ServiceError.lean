/-!
# Failures of a service

A request to a service can fail.  The failure says which service it came from and why: the service
answered with a fault, its answer lacked something, the account or artifact does not exist, or the
request was registered to fail.  `ServiceError.message` has the words for it.
-/

namespace AccountLending

/-- The services that can fail. -/
inductive Service
  /-- The caller's own credentials. -/
  | configuration
  | organizations
  | tagging
  | iam
  | identity
  deriving DecidableEq, Repr, Inhabited

/-- How error reports name a service. -/
def Service.label : Service → String
  | .configuration => "AWS configuration error"
  | .organizations => "Organizations client error"
  | .tagging => "Resource tagging client error"
  | .iam => "IAM client error"
  | .identity => "AWS SDK error"

/-- A fault that a service answers with: its code and its description. -/
structure Fault where
  code : String
  text : String
  deriving DecidableEq, Repr, Inhabited

namespace ServiceError

/-- Why a request failed. -/
inductive Reason
  /-- The request was registered to fail. -/
  | refused (entry : String)
  /-- The failure of another service that this one relies on. -/
  | relayed (service : Service) (reason : Reason)
  /-- A failure that is known by its description only. -/
  | described (text : String)
  | noAccount (account : String)
  /-- The account is not in the unit that it should be moved from. -/
  | notUnder (account parent : String)
  | noEntity (entity : String)
  /-- Something else still depends on what should be deleted. -/
  | inUse (entity : String)
  | malformedArn (arn : String)
  /-- A fault of the organization. -/
  | callFault (operation target : String) (fault : Fault)
  /-- A fault of the search by tag. -/
  | searchFault (key value : String) (fault : Fault)
  /-- A fault of the IAM of an account. -/
  | requestFault (action subject : String) (fault : Fault)
  | callerFault (fault : Fault)
  | sessionFault (role : String) (fault : Fault)
  | noCaller
  | noCredentials (role : String)
  | noParent (account : String)
  /-- No credentials are set up for a profile. -/
  | noProvider (profile : Option String)
  /-- A listing went on for more pages than are ever requested. -/
  | endless (pages : Nat)
  deriving DecidableEq, Repr, Inhabited

/-- The description of a reason. -/
def Reason.message : Reason → String
  | .refused entry => entry ++ ": injected failure"
  | .relayed service reason => service.label ++ ": " ++ reason.message
  | .described text => text
  | .noAccount account => "AccountNotFoundException: account " ++ account ++ " does not exist"
  | .notUnder account parent =>
    "SourceParentNotFoundException: account " ++ account ++ " is not under " ++ parent
  | .noEntity entity => "NoSuchEntity: " ++ entity ++ " does not exist"
  | .inUse entity => "DeleteConflict: " ++ entity ++ " still has dependent entities"
  | .malformedArn arn => "malformed role ARN " ++ arn
  | .callFault operation target fault =>
    "Failed to call " ++ operation ++ " for '" ++ target ++ "': " ++ fault.text
  | .searchFault key value fault =>
    "Failed to call get-resources for tag " ++ key ++ "=" ++ value ++ ": " ++ fault.text
  | .requestFault action subject fault =>
    action ++ " failed for '" ++ subject ++ "': " ++ fault.text
  | .callerFault fault => "STS GetCallerIdentity failed: " ++ fault.text
  | .sessionFault role fault => "STS AssumeRole for " ++ role ++ " failed: " ++ fault.text
  | .noCaller => "STS GetCallerIdentity missing Account"
  | .noCredentials role => "STS AssumeRole for " ++ role ++ " returned no credentials"
  | .noParent account => "Account " ++ account ++ " has no parent"
  | .noProvider profile => "no AWS credentials provider for profile " ++ profile.getD "default"
  | .endless pages => "the listing has more than " ++ toString pages ++ " pages"

end ServiceError

/-- The failure of a request to a service. -/
structure ServiceError where
  service : Service
  reason : ServiceError.Reason
  deriving DecidableEq, Repr, Inhabited

/-- The description of a failure. -/
def ServiceError.message (error : ServiceError) : String :=
  error.service.label ++ ": " ++ error.reason.message

/-! ## Replies with another kind of failure -/

section MapError

variable {ε ε' α : Type} (f : ε → ε')

@[simp] theorem mapError_ok (a : α) : (Except.ok a).mapError f = .ok a := rfl

@[simp] theorem mapError_error (failure : ε) :
    (Except.error failure : Except ε α).mapError f = .error (f failure) := rfl

theorem ok_of_mapError {f : ε → ε'} {reply : Except ε α} {a : α} (h : reply.mapError f = .ok a) :
    reply = .ok a := by
  cases reply with
  | error failure => cases h
  | ok b => exact congrArg _ (Except.ok.inj h)

end MapError

end AccountLending
