import AccountLending.Json.Basic
import AccountLending.Log

/-!
# Reports of a clearing

When an account is cleared, every artifact that is dealt with leaves one entry in the account's
report: it was deleted, it was left for a reason, or deleting it failed.  A listing that failed has
an entry too, since what it would have listed was left.

* `Artifact.logLine` — what the log says when an entry is made;
* `Report.toJson` — the document of a report.
-/

namespace AccountLending

namespace Artifact

/-- What kind of artifact an entry is about. -/
inductive Kind
  | role
  | rolePolicyAttachment
  | roleInlinePolicy
  | policy
  | policyVersion
  | policyAttachment
  | loginProfile
  | accessKey
  | signingCertificate
  | userInlinePolicy
  | userPolicyAttachment
  | groupMembership
  | user
  /-- A listing that failed. -/
  | listing
  deriving DecidableEq, Repr, Inhabited

namespace Kind

/-- All kinds. -/
def all : List Kind :=
  [.role, .rolePolicyAttachment, .roleInlinePolicy, .policy, .policyVersion, .policyAttachment,
   .loginProfile, .accessKey, .signingCertificate, .userInlinePolicy, .userPolicyAttachment,
   .groupMembership, .user, .listing]

theorem mem_all (kind : Kind) : kind ∈ all := by cases kind <;> decide

/-- The name of a kind in a document. -/
def name : Kind → String
  | .role => "Role"
  | .rolePolicyAttachment => "RolePolicyAttachment"
  | .roleInlinePolicy => "RoleInlinePolicy"
  | .policy => "Policy"
  | .policyVersion => "PolicyVersion"
  | .policyAttachment => "PolicyAttachment"
  | .loginProfile => "LoginProfile"
  | .accessKey => "AccessKey"
  | .signingCertificate => "SigningCertificate"
  | .userInlinePolicy => "UserInlinePolicy"
  | .userPolicyAttachment => "UserPolicyAttachment"
  | .groupMembership => "GroupMembership"
  | .user => "User"
  | .listing => "Listing"

/-- A kind in words. -/
def words : Kind → String
  | .role => "role"
  | .rolePolicyAttachment => "role policy attachment"
  | .roleInlinePolicy => "role inline policy"
  | .policy => "policy"
  | .policyVersion => "policy version"
  | .policyAttachment => "policy attachment"
  | .loginProfile => "login profile"
  | .accessKey => "access key"
  | .signingCertificate => "signing certificate"
  | .userInlinePolicy => "user inline policy"
  | .userPolicyAttachment => "user policy attachment"
  | .groupMembership => "group membership"
  | .user => "user"
  | .listing => "listing"

/-- The kind of a name. -/
def ofName? (name : String) : Option Kind := all.find? (·.name = name)

theorem ofName?_name (kind : Kind) : ofName? kind.name = some kind := by
  cases kind <;> decide

end Kind

/-- What became of an artifact. -/
inductive Status
  /-- It was deleted. -/
  | succeeded
  /-- It was left. -/
  | skipped (reason : String)
  /-- Deleting it failed. -/
  | failed (reason : String)
  deriving DecidableEq, Repr, Inhabited

namespace Status

/-- Whether the artifact was deleted. -/
def isSucceeded : Status → Bool
  | .succeeded => true
  | _ => false

/-- Whether the artifact was left. -/
def isSkipped : Status → Bool
  | .skipped _ => true
  | _ => false

/-- Whether deleting the artifact failed. -/
def isFailed : Status → Bool
  | .failed _ => true
  | _ => false

/-- The members of a status in the document of its artifact. -/
def members : Status → List (String × Json)
  | .succeeded => [("Status", .str "Succeeded")]
  | .skipped reason => [("Status", .str "Skipped"), ("Reason", .str reason)]
  | .failed reason => [("Status", .str "Failed"), ("Reason", .str reason)]

end Status

end Artifact

/-- One entry of a report. -/
structure Artifact where
  kind : Artifact.Kind
  /-- The artifact's name; what depends on a principal or policy has that name and a slash in
  front. -/
  name : String
  status : Artifact.Status
  deriving DecidableEq, Repr, Inhabited

namespace Artifact

/-- The document of an entry. -/
def toJson (artifact : Artifact) : Json :=
  .record ([("Kind", .str artifact.kind.name), ("Name", .str artifact.name)]
    ++ artifact.status.members)

/-- What the log says when an entry is made in an account's report. -/
def logLine (account : String) (artifact : Artifact) : Log.Line :=
  let what := artifact.kind.words ++ " " ++ artifact.name
  match artifact.status with
  | .succeeded => ⟨.info, "[" ++ account ++ "] Deleted " ++ what⟩
  | .skipped reason => ⟨.info, "[" ++ account ++ "] Skipped " ++ what ++ ": " ++ reason⟩
  | .failed reason => ⟨.warn, "[" ++ account ++ "] Failed to delete " ++ what ++ ": " ++ reason⟩

end Artifact

/-- What clearing an account came to. -/
structure Report where
  account : String
  /-- The owner that the account had before. -/
  owner : Option String
  artifacts : List Artifact := []
  deriving DecidableEq, Repr, Inhabited

namespace Report

/-- Add entries to a report. -/
def add (report : Report) (artifacts : List Artifact) : Report :=
  { report with artifacts := report.artifacts ++ artifacts }

/-- The entries of what could not be deleted. -/
def failures (report : Report) : List Artifact :=
  report.artifacts.filter (·.status.isFailed)

/-- How many artifacts were deleted. -/
def deletedCount (report : Report) : Nat := report.artifacts.countP (·.status.isSucceeded)

/-- How many artifacts were left. -/
def skippedCount (report : Report) : Nat := report.artifacts.countP (·.status.isSkipped)

/-- How many artifacts could not be deleted. -/
def failedCount (report : Report) : Nat := report.artifacts.countP (·.status.isFailed)

/-- Whether nothing failed. -/
def isClean (report : Report) : Bool := report.failedCount = 0

theorem failedCount_eq_length (report : Report) : report.failedCount = report.failures.length :=
  List.countP_eq_length_filter

theorem isClean_iff (report : Report) :
    report.isClean = true ↔ ∀ artifact ∈ report.artifacts, artifact.status.isFailed = false := by
  simp [isClean, failedCount, List.countP_eq_zero]

@[simp] theorem deletedCount_add (report : Report) (artifacts : List Artifact) :
    (report.add artifacts).deletedCount =
      report.deletedCount + artifacts.countP (·.status.isSucceeded) := by
  simp [deletedCount, add]

@[simp] theorem failedCount_add (report : Report) (artifacts : List Artifact) :
    (report.add artifacts).failedCount =
      report.failedCount + artifacts.countP (·.status.isFailed) := by
  simp [failedCount, add]

/-- The document of a report. -/
def toJson (report : Report) : Json :=
  .record [("AccountId", .str report.account), ("Owner", .textOrNull report.owner),
    ("Artifacts", .array (report.artifacts.map Artifact.toJson))]

end Report

end AccountLending
