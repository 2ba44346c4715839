import AccountLending.Wire.Layout
import AccountLending.Wire.Sending

/-!
# The documents of requests and outputs

Every request that is sent has the name of its action and a document with its parameters, and every
output comes back as a document.  The IAM and the identity service have parameters that are all
texts; the organization and the search by tag have structured ones.  In an output that can be read
at all (`Wire/Layout.lean`), a member that is null or missing is absent: a text that is promised is
then empty, a truth value false, a list empty.

* `Wire.Request.action`, `Wire.Request.parameters` — a request that is sent;
* `Wire.outputOf?` — an output that comes back;
* `Wire.Request.toJson`, `Wire.replyOf` — a whole exchange as two documents.
-/

namespace AccountLending.Wire

/-! ## Requests -/

/-- A member that is left out when it has no value. -/
def optionalMember (name : String) : Option String → List (String × Json)
  | none => []
  | some value => [(name, .str value)]

/-- The document of tags. -/
def tagsDocument (tags : Tags) : Json :=
  .array (tags.entries.map fun (key, value) => .record [("Key", .str key), ("Value", .str value)])

/-- The parameters of a request to an organization. -/
def organizationParameters (marker : Option String) : Organization.Request → List (String × Json)
  | .listAccounts parent => ("ParentId", .str parent) :: optionalMember "NextToken" marker
  | .parentOf account => [("ChildId", .str account)]
  | .listTags account => ("ResourceId", .str account) :: optionalMember "NextToken" marker
  | .tag account tags => [("ResourceId", .str account), ("Tags", tagsDocument tags)]
  | .untag account keys => [("ResourceId", .str account), ("TagKeys", .texts keys)]
  | .move account source destination =>
    [("AccountId", .str account), ("SourceParentId", .str source),
      ("DestinationParentId", .str destination)]
  | .findResources key value =>
    [("ResourceTypeFilters", .texts ["organizations:account"]),
      ("TagFilters", .array [.record [("Key", .str key), ("Values", .texts [value])]])]
      ++ optionalMember "PaginationToken" marker

/-- The parameters of a request about the caller's identity. -/
def identityParameters : Identity.Request → List (String × Json)
  | .caller => []
  | .assumeRole arn name seconds =>
    [("RoleArn", .str arn), ("RoleSessionName", .str name),
      ("DurationSeconds", .str (toString seconds.toInt))]

namespace Request

/-- The action of a request. -/
def action (sent : Request) : String :=
  match sent.request with
  | .organization request => request.action
  | .identity .caller => "GetCallerIdentity"
  | .identity (.assumeRole ..) => "AssumeRole"
  | .iam _ request => request.action

/-- The parameters of a request. -/
def parameters (sent : Request) : Json :=
  .record <| match sent.request with
    | .organization request => organizationParameters sent.marker request
    | .identity request => identityParameters request
    | .iam _ request =>
      request.parameters.map (fun (name, value) => (name, Json.str value))
        ++ optionalMember "Marker" sent.marker

end Request

/-! ## Outputs -/

/-- The value of a member, when it is not absent. -/
def member? (name : String) : Json → Option Json
  | .object members =>
    match members.lookup (some name) with
    | some .null => none
    | found => found
  | _ => none

/-- The text of a member. -/
def textOf? (name : String) (document : Json) : Option String := do
  markupText? (← member? name document)

/-- The text of a member that is promised. -/
def textOf (name : String) (document : Json) : String := (textOf? name document).getD ""

/-- The truth value of a member. -/
def boolOf (name : String) (document : Json) : Bool := textOf? name document = some "true"

/-- The items of a member that is a list. -/
def itemsOf (name : String) (document : Json) : List Json :=
  match member? name document with
  | some (.array items) => items
  | _ => []

/-- The texts of a member that is a list. -/
def textsOf (name : String) (document : Json) : List String :=
  (itemsOf name document).filterMap markupText?

/-- The items of a page of an IAM listing. -/
def queryItems (document : Json) : (query : Iam.Query) → List query.Item
  | .roles => (itemsOf "Roles" document).map fun item =>
    ⟨textOf "RoleName" item, textOf "Path" item⟩
  | .rolePolicies _ | .userPolicies _ =>
    (itemsOf "AttachedPolicies" document).map fun item =>
      ⟨textOf? "PolicyName" item, textOf? "PolicyArn" item⟩
  | .localPolicies =>
    (itemsOf "Policies" document).map fun item => ⟨textOf? "PolicyName" item, textOf? "Arn" item⟩
  | .policyEntities _ =>
    (itemsOf "PolicyUsers" document).map (fun item => .user (textOf? "UserName" item))
      ++ (itemsOf "PolicyGroups" document).map (fun item => .group (textOf? "GroupName" item))
      ++ (itemsOf "PolicyRoles" document).map (fun item => .role (textOf? "RoleName" item))
  | .policyVersions _ =>
    (itemsOf "Versions" document).map fun item =>
      ⟨textOf? "VersionId" item, boolOf "IsDefaultVersion" item⟩
  | .users => (itemsOf "Users" document).map (textOf "UserName")
  | .accessKeys _ => (itemsOf "AccessKeyMetadata" document).map (textOf? "AccessKeyId")
  | .certificates _ => (itemsOf "Certificates" document).map (textOf "CertificateId")
  | .roleInline _ | .userInline _ => textsOf "PolicyNames" document
  | .userGroups _ => (itemsOf "Groups" document).map (textOf "GroupName")

/-- The output of a request to an organization. -/
def organizationOutput (document : Json) :
    (request : Organization.Request) → OrganizationOutput request
  | .listAccounts _ =>
    { items := (itemsOf "Accounts" document).map fun item =>
        { id := textOf? "Id" item
          name := textOf? "Name" item
          email := textOf? "Email" item
          status := textOf? "Status" item }
      marker := textOf? "NextToken" document }
  | .parentOf _ => (itemsOf "Parents" document).map (textOf? "Id")
  | .listTags _ =>
    { items := (itemsOf "Tags" document).map fun item => (textOf "Key" item, textOf "Value" item)
      marker := textOf? "NextToken" document }
  | .findResources .. =>
    { items := (itemsOf "ResourceTagMappingList" document).map (textOf? "ResourceARN")
      marker := textOf? "PaginationToken" document }
  | .tag .. | .untag .. | .move .. => ()

/-- The credentials of a document; none when their expiry is no moment. -/
def credentialsOf? (document : Json) : Option Credentials := do
  let expiry ← match textOf? "Expiration" document with
    | none => some ⟨0, 0⟩
    | some text => Time.Moment.ofText? text
  return {
    session := ⟨textOf "AccessKeyId" document, textOf "SecretAccessKey" document,
      textOf "SessionToken" document⟩
    expiry }

/-- The output of a request about the caller's identity. -/
def identityOutput? (document : Json) :
    (request : Identity.Request) → Option (IdentityOutput request)
  | .caller => some (textOf? "Account" document)
  | .assumeRole .. =>
    match member? "Credentials" document with
    | none => some none
    | some credentials => (credentialsOf? credentials).map some

/-- The output of a request to the IAM of an account. -/
def iamOutput (document : Json) : (request : Iam.Request) → IamOutput request
  | .query query =>
    { items := queryItems document query
      truncated := boolOf "IsTruncated" document
      marker := textOf? "Marker" document }
  | .remove _ | .deleteLoginProfile _ => ()

/-- The output that a readable document describes; none when its credentials have no expiry. -/
def described? (document : Json) : (request : Cloud.Request) → Option (Output request)
  | .organization request => some (organizationOutput document request)
  | .identity request => identityOutput? document request
  | .iam _ request => some (iamOutput document request)

/-- The output that a document describes; none when it cannot be read. -/
def outputOf? (document : Json) (request : Cloud.Request) : Option (Output request) :=
  if isReadable document request then described? document request else none

/-! ## Exchanges -/

/-- The document of a request, with the session that it is made with. -/
def Request.toJson (sent : Request) : Json :=
  let session := match sent.session? with
    | none => []
    | some session =>
      [("Session", Json.record [("AccessKeyId", .str session.accessKey),
        ("SecretAccessKey", .str session.secretKey), ("SessionToken", .str session.token)])]
  .record ([("Action", .str sent.action), ("Parameters", sent.parameters)] ++ session)

/-- The reply to a request that a document describes: a fault, or an output.  A fault that cannot be
read is a fault as well. -/
def replyOf (document : Json) (request : Cloud.Request) : Except Fault (Output request) :=
  match member? "Fault" document with
  | some fault =>
    if isMarkedUp request && !holdsMarkup fault then .error unreadable
    else .error ⟨textOf "Code" fault, textOf "Message" fault⟩
  | none =>
    match outputOf? document request with
    | some output => .ok output
    | none => .error unreadable

end AccountLending.Wire
