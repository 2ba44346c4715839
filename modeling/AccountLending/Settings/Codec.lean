import AccountLending.Settings
import AccountLending.Json.Record

/-!
# The document of settings

Settings are written as an object with one member for each field; fields that have a default may be
left out when settings are read.

* `PoolSettings.toJson`, `PoolSettings.ofJson?` — the two directions, and likewise for the parts.
-/

namespace AccountLending

namespace Payer

/-- The document of a payer. -/
def toJson (payer : Payer) : Json :=
  .record [("RootOuId", .str payer.root), ("ClaimedOuId", .str payer.claimed),
    ("Profile", .textOrNull payer.profile), ("Region", .str payer.region)]

/-- The payer of a document. -/
def ofJson? (document : Json) : Option Payer := do
  let fields ← Json.fields? ["RootOuId", "ClaimedOuId", "Profile", "Region"] document
  return {
    root := ← fields.required Json.text? "RootOuId"
    claimed := ← fields.required Json.text? "ClaimedOuId"
    profile := ← fields.withDefault (Json.nullable Json.text?) none "Profile"
    region := ← fields.withDefault Json.text? "us-east-1" "Region" }

end Payer

namespace ReclaimSettings

/-- The document of reclamation settings. -/
def toJson (settings : ReclaimSettings) : Json :=
  .record [("AdminRoleName", .str settings.adminRole),
    ("SessionNamePrefix", .str settings.sessionNameStart),
    ("SessionDurationSeconds", .int settings.sessionSeconds.toInt),
    ("ProtectedOwnerPrefixes", .texts settings.protectedOwnerStarts),
    ("ProtectedRoleNames", .texts settings.protectedRoles)]

/-- The reclamation settings of a document. -/
def ofJson? (document : Json) : Option ReclaimSettings := do
  let fields ← Json.fields? ["AdminRoleName", "SessionNamePrefix", "SessionDurationSeconds",
    "ProtectedOwnerPrefixes", "ProtectedRoleNames"] document
  let usual : ReclaimSettings := {}
  return {
    adminRole := ← fields.withDefault Json.text? usual.adminRole "AdminRoleName"
    sessionNameStart := ←
      fields.withDefault Json.text? usual.sessionNameStart "SessionNamePrefix"
    sessionSeconds := ←
      fields.withDefault Json.int32? usual.sessionSeconds "SessionDurationSeconds"
    protectedOwnerStarts := ←
      fields.withDefault (Json.list? Json.text?) usual.protectedOwnerStarts "ProtectedOwnerPrefixes"
    protectedRoles := ←
      fields.withDefault (Json.list? Json.text?) usual.protectedRoles "ProtectedRoleNames" }

end ReclaimSettings

namespace AllocationSettings

/-- The document of allocation settings. -/
def toJson (settings : AllocationSettings) : Json :=
  .record [("ClaimSettleMillis", .nat settings.settleMilliseconds.toNat)]

/-- The allocation settings of a document. -/
def ofJson? (document : Json) : Option AllocationSettings := do
  let fields ← Json.fields? ["ClaimSettleMillis"] document
  let usual : AllocationSettings := {}
  return {
    settleMilliseconds := ←
      fields.withDefault Json.uint64? usual.settleMilliseconds "ClaimSettleMillis" }

end AllocationSettings

namespace PoolSettings

/-- The document of a pool's settings. -/
def toJson (settings : PoolSettings) : Json :=
  .record [
    ("Payers", .record (settings.payers.entries.map fun (name, payer) => (name, payer.toJson))),
    ("Reclaim", settings.reclaim.toJson),
    ("Allocation", settings.allocation.toJson)]

/-- The settings of a document. -/
def ofJson? (document : Json) : Option PoolSettings := do
  let fields ← Json.fields? ["Payers", "Reclaim", "Allocation"] document
  return {
    payers := ← fields.required (Json.dict? Payer.ofJson?) "Payers"
    reclaim := ← fields.withDefault ReclaimSettings.ofJson? {} "Reclaim"
    allocation := ← fields.withDefault AllocationSettings.ofJson? {} "Allocation" }

end PoolSettings

end AccountLending
