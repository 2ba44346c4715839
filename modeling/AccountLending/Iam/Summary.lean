import AccountLending.Json.Record

/-!
# What the listings of IAM tell

The items that the listings of an account's IAM return: a role by its name and path, a managed
policy by its name and resource name, a version of a policy, and the principals that a policy is
attached to.
-/

namespace AccountLending.Iam

/-- A role in a listing. -/
structure RoleSummary where
  name : String
  path : String
  deriving DecidableEq, Repr, Inhabited

/-- A managed policy in a listing. -/
structure PolicySummary where
  name : String
  arn : String
  deriving DecidableEq, Repr, Inhabited

/-- A version of a managed policy in a listing. -/
structure VersionSummary where
  id : String
  isDefault : Bool
  deriving DecidableEq, Repr, Inhabited

/-- The principals that a managed policy is attached to. -/
structure PolicyEntities where
  users : List String := []
  groups : List String := []
  roles : List String := []
  deriving DecidableEq, Repr, Inhabited

namespace RoleSummary

/-- The document of a role. -/
def toJson (role : RoleSummary) : Json :=
  .record [("Name", .str role.name), ("Path", .str role.path)]

/-- The role of a document. -/
def ofJson? (document : Json) : Option RoleSummary := do
  let fields ← Json.fields? ["Name", "Path"] document
  return ⟨← fields.required Json.text? "Name", ← fields.required Json.text? "Path"⟩

end RoleSummary

namespace PolicySummary

/-- The document of a policy. -/
def toJson (policy : PolicySummary) : Json :=
  .record [("Name", .str policy.name), ("Arn", .str policy.arn)]

/-- The policy of a document. -/
def ofJson? (document : Json) : Option PolicySummary := do
  let fields ← Json.fields? ["Name", "Arn"] document
  return ⟨← fields.required Json.text? "Name", ← fields.required Json.text? "Arn"⟩

end PolicySummary

namespace VersionSummary

/-- The document of a policy version. -/
def toJson (version : VersionSummary) : Json :=
  .record [("VersionId", .str version.id), ("IsDefault", .bool version.isDefault)]

/-- The policy version of a document. -/
def ofJson? (document : Json) : Option VersionSummary := do
  let fields ← Json.fields? ["VersionId", "IsDefault"] document
  return ⟨← fields.required Json.text? "VersionId", ← fields.required Json.bool? "IsDefault"⟩

end VersionSummary

namespace PolicyEntities

/-- The document of the principals of a policy. -/
def toJson (entities : PolicyEntities) : Json :=
  .record [("Users", .texts entities.users), ("Groups", .texts entities.groups),
    ("Roles", .texts entities.roles)]

/-- The principals of a document. -/
def ofJson? (document : Json) : Option PolicyEntities := do
  let fields ← Json.fields? ["Users", "Groups", "Roles"] document
  return {
    users := ← fields.required (Json.list? Json.text?) "Users"
    groups := ← fields.required (Json.list? Json.text?) "Groups"
    roles := ← fields.required (Json.list? Json.text?) "Roles" }

end PolicyEntities

end AccountLending.Iam
