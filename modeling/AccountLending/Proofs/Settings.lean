import AccountLending.Proofs.Json.Records
import AccountLending.Settings.Reading

/-!
# Settings that are written are read back

Settings are written as a document in which every field that has its usual value may be left out, a
whole part of the settings as well as a field of it.  Whatever is left out, and whether the document
is written without blanks or with one item a line, reading it gives exactly the settings that were
written, unless they are at fault.

* `PoolSettings.IsUsable`, `fault?_eq_none_iff` — settings that are not at fault;
* `PoolSettings.document` — the document of settings, without the fields that are left out;
* `document_eq_toJson` — the document in which nothing is left out;
* `ofJson?_document` — the document of settings is read back;
* `ofText_of_written` — so is its text, exactly when the settings are usable, and no text gives
  other settings.
-/

namespace AccountLending

/-! ## Settings without fault -/

namespace PoolSettings

/-- Settings that are not at fault. -/
structure IsUsable (settings : PoolSettings) : Prop where
  /-- There is a payer. -/
  payer : ∃ name payer, settings.payers.get? name = some payer
  /-- Every payer has two different units. -/
  units : ∀ name payer, settings.payers.get? name = some payer →
    payer.root ≠ "" ∧ payer.claimed ≠ "" ∧ payer.root ≠ payer.claimed
  /-- A session lasts between a quarter of an hour and half a day. -/
  session :
    900 ≤ settings.reclaim.sessionSeconds.toInt ∧ settings.reclaim.sessionSeconds.toInt ≤ 43200

theorem payerFault?_eq_none_iff (name : String) (payer : Payer) :
    payerFault? name payer = none ↔
    payer.root ≠ "" ∧ payer.claimed ≠ "" ∧ payer.root ≠ payer.claimed := by
  rw [payerFault?]
  by_cases hempty : payer.root = "" ∨ payer.claimed = ""
  · simp only [if_pos hempty, reduceCtorEq, false_iff]
    rintro ⟨hroot, hclaimed, -⟩
    exact hempty.elim hroot hclaimed
  · rw [if_neg hempty]
    obtain ⟨hroot, hclaimed⟩ := not_or.1 hempty
    by_cases hsame : payer.root = payer.claimed <;> simp [hroot, hclaimed, hsame]

theorem fault?_eq_none_iff (settings : PoolSettings) :
    settings.fault? = none ↔ settings.IsUsable := by
  have hpayer :
      settings.payers.isEmpty = false ↔ ∃ name payer, settings.payers.get? name = some payer := by
    rw [← Bool.not_eq_true, Dict.isEmpty_iff]
    simp only [Dict.contains, not_forall, Bool.not_eq_false, Option.isSome_iff_exists]
  have hunits :
      (settings.payers.entries.findSome? fun entry => payerFault? entry.1 entry.2) = none ↔
      ∀ name payer, settings.payers.get? name = some payer →
        payer.root ≠ "" ∧ payer.claimed ≠ "" ∧ payer.root ≠ payer.claimed := by
    simp only [List.findSome?_eq_none_iff, Prod.forall, Dict.mem_entries_iff,
      payerFault?_eq_none_iff]
  have hsession :
      (900 ≤ settings.reclaim.sessionSeconds ∧ settings.reclaim.sessionSeconds ≤ 43200) ↔
      900 ≤ settings.reclaim.sessionSeconds.toInt ∧
      settings.reclaim.sessionSeconds.toInt ≤ 43200 := by
    rw [Int32.le_iff_toInt_le, Int32.le_iff_toInt_le]
    rfl
  have hfault : settings.fault? = none ↔ settings.payers.isEmpty = false ∧
      (settings.payers.entries.findSome? fun entry => payerFault? entry.1 entry.2) = none ∧
      900 ≤ settings.reclaim.sessionSeconds ∧ settings.reclaim.sessionSeconds ≤ 43200 := by
    rw [fault?]
    cases settings.payers.isEmpty with
    | true => simp
    | false =>
      cases settings.payers.entries.findSome? fun entry => payerFault? entry.1 entry.2 with
      | some fault => simp
      | none => simp
  rw [hfault, hpayer, hunits, hsession]
  constructor
  · rintro ⟨hpayer, hunits, hsession⟩
    exact ⟨hpayer, hunits, hsession⟩
  · rintro ⟨hpayer, hunits, hsession⟩
    exact ⟨hpayer, hunits, hsession⟩

theorem isUsable_builtIn : builtIn.IsUsable := builtIn.fault?_eq_none_iff.1 fault?_builtIn

/-- No text gives settings that are at fault. -/
theorem isUsable_of_ofText {text : String} {settings : PoolSettings}
    (h : ofText text = .ok settings) : settings.IsUsable := by
  obtain ⟨document, -, -, hfault⟩ := (ofText_eq_ok_iff text settings).1 h
  exact settings.fault?_eq_none_iff.1 hfault

end PoolSettings

/-! ## Documents of settings -/

namespace Payer

/-- The fields of a payer, of which some may be left out. -/
def fields (leaves : String → Bool) (payer : Payer) : List Json.Field :=
  [.always "RootOuId" (.str payer.root),
    .always "ClaimedOuId" (.str payer.claimed),
    .unlessUsual leaves "Profile" .textOrNull none payer.profile,
    .unlessUsual leaves "Region" .str "us-east-1" payer.region]

/-- The document of a payer, without the fields that are left out. -/
def document (leaves : String → Bool) (payer : Payer) : Json := .abridged (payer.fields leaves)

theorem document_never : document (fun _ => false) = toJson := by
  funext payer
  simp only [document, fields, Json.Field.unlessUsual_never]
  rfl

theorem isExact_document (leaves : String → Bool) (payer : Payer) :
    Json.IsExact (payer.document leaves) := by
  refine .abridged ?_
  simp only [fields, List.forall_mem_cons]
  exact ⟨.str _, .str _, .textOrNull _, .str _, nofun⟩

theorem ofJson?_document (leaves : String → Bool) (payer : Payer) :
    ofJson? (payer.document leaves) = some payer := by
  have hnames : (payer.fields leaves).map Json.Field.name = ["RootOuId", "ClaimedOuId", "Profile",
      "Region"] := rfl
  have hnodup : ["RootOuId", "ClaimedOuId", "Profile", "Region"].Nodup := by decide
  have hroot := Json.required_always hnames hnodup 0 rfl (Json.text?_str payer.root)
  have hclaimed := Json.required_always hnames hnodup 1 rfl (Json.text?_str payer.claimed)
  have hprofile :=
    Json.withDefault_unlessUsual hnames hnodup 2 rfl (Json.nullable_textOrNull payer.profile)
  have hregion := Json.withDefault_unlessUsual hnames hnodup 3 rfl (Json.text?_str payer.region)
  rw [ofJson?, document, Json.fields?_abridged hnames hnodup]
  simp only [Option.bind_eq_bind, Option.bind_some, hroot, hclaimed, hprofile, hregion]
  rfl

end Payer

namespace ReclaimSettings

/-- The fields of reclamation settings, of which some may be left out. -/
def fields (leaves : String → Bool) (settings : ReclaimSettings) : List Json.Field :=
  let usual : ReclaimSettings := {}
  [.unlessUsual leaves "AdminRoleName" .str usual.adminRole settings.adminRole,
    .unlessUsual leaves "SessionNamePrefix" .str usual.sessionNameStart settings.sessionNameStart,
    .unlessUsual leaves "SessionDurationSeconds" (fun seconds : Int32 => .int seconds.toInt)
      usual.sessionSeconds settings.sessionSeconds,
    .unlessUsual leaves "ProtectedOwnerPrefixes" .texts usual.protectedOwnerStarts
      settings.protectedOwnerStarts,
    .unlessUsual leaves "ProtectedRoleNames" .texts usual.protectedRoles settings.protectedRoles]

/-- The document of reclamation settings, without the fields that are left out. -/
def document (leaves : String → Bool) (settings : ReclaimSettings) : Json :=
  .abridged (settings.fields leaves)

theorem document_never : document (fun _ => false) = toJson := by
  funext settings
  simp only [document, fields, Json.Field.unlessUsual_never]
  rfl

theorem isExact_document (leaves : String → Bool) (settings : ReclaimSettings) :
    Json.IsExact (settings.document leaves) := by
  refine .abridged ?_
  simp only [fields, List.forall_mem_cons]
  exact ⟨.str _, .str _, .int _, .texts _, .texts _, nofun⟩

theorem ofJson?_document (leaves : String → Bool) (settings : ReclaimSettings) :
    ofJson? (settings.document leaves) = some settings := by
  have hnames : (settings.fields leaves).map Json.Field.name =
      ["AdminRoleName", "SessionNamePrefix", "SessionDurationSeconds", "ProtectedOwnerPrefixes",
        "ProtectedRoleNames"] := rfl
  have hnodup :
      ["AdminRoleName", "SessionNamePrefix", "SessionDurationSeconds", "ProtectedOwnerPrefixes",
      "ProtectedRoleNames"].Nodup := by decide
  have hrole := Json.withDefault_unlessUsual hnames hnodup 0 rfl (Json.text?_str settings.adminRole)
  have hstart :=
    Json.withDefault_unlessUsual hnames hnodup 1 rfl (Json.text?_str settings.sessionNameStart)
  have hseconds :=
    Json.withDefault_unlessUsual hnames hnodup 2 rfl (Json.int32?_int settings.sessionSeconds)
  have howners := Json.withDefault_unlessUsual hnames hnodup 3 rfl
      (Json.list?_texts settings.protectedOwnerStarts)
  have hroles :=
    Json.withDefault_unlessUsual hnames hnodup 4 rfl (Json.list?_texts settings.protectedRoles)
  rw [ofJson?, document, Json.fields?_abridged hnames hnodup]
  simp only [Option.bind_eq_bind, Option.bind_some, hrole, hstart, hseconds, howners, hroles]
  rfl

end ReclaimSettings

namespace AllocationSettings

/-- The fields of allocation settings, of which some may be left out. -/
def fields (leaves : String → Bool) (settings : AllocationSettings) : List Json.Field :=
  let usual : AllocationSettings := {}
  [.unlessUsual leaves "ClaimSettleMillis" (fun delay : UInt64 => .nat delay.toNat)
    usual.settleMilliseconds settings.settleMilliseconds]

/-- The document of allocation settings, without the fields that are left out. -/
def document (leaves : String → Bool) (settings : AllocationSettings) : Json :=
  .abridged (settings.fields leaves)

theorem document_never : document (fun _ => false) = toJson := by
  funext settings
  simp only [document, fields, Json.Field.unlessUsual_never]
  rfl

theorem isExact_document (leaves : String → Bool) (settings : AllocationSettings) :
    Json.IsExact (settings.document leaves) := by
  refine .abridged ?_
  simp only [fields, List.forall_mem_cons]
  exact ⟨.nat _, nofun⟩

theorem ofJson?_document (leaves : String → Bool) (settings : AllocationSettings) :
    ofJson? (settings.document leaves) = some settings := by
  have hnames : (settings.fields leaves).map Json.Field.name = ["ClaimSettleMillis"] := rfl
  have hnodup : ["ClaimSettleMillis"].Nodup := by decide
  have hdelay :=
    Json.withDefault_unlessUsual hnames hnodup 0 rfl (Json.uint64?_nat settings.settleMilliseconds)
  rw [ofJson?, document, Json.fields?_abridged hnames hnodup]
  simp only [Option.bind_eq_bind, Option.bind_some, hdelay]
  rfl

end AllocationSettings

namespace PoolSettings

/-- The fields of a pool's settings, of which some may be left out, each told by its path. -/
def fields (leaves : List String → Bool) (settings : PoolSettings) : List Json.Field :=
  [.always "Payers"
      (.ofDict (fun name => Payer.document fun field => leaves ["Payers", name, field])
        settings.payers),
    .unlessUsual (fun part => leaves [part]) "Reclaim"
      (ReclaimSettings.document fun field => leaves ["Reclaim", field]) {} settings.reclaim,
    .unlessUsual (fun part => leaves [part]) "Allocation"
      (AllocationSettings.document fun field => leaves ["Allocation", field]) {}
      settings.allocation]

/-- The document of a pool's settings, without the fields that are left out. -/
def document (leaves : List String → Bool) (settings : PoolSettings) : Json :=
  .abridged (settings.fields leaves)

/-- The document of settings in which nothing is left out. -/
theorem document_eq_toJson (settings : PoolSettings) :
    settings.document (fun _ => false) = settings.toJson := by
  simp only [document, fields, Json.Field.unlessUsual_never, ReclaimSettings.document_never,
    AllocationSettings.document_never, Payer.document_never]
  rfl

theorem isExact_document (leaves : List String → Bool) (settings : PoolSettings) :
    Json.IsExact (settings.document leaves) := by
  refine .abridged ?_
  simp only [fields, List.forall_mem_cons]
  exact ⟨.ofDict (fun name => Payer.isExact_document fun field => leaves ["Payers", name, field])
    settings.payers,
    ReclaimSettings.isExact_document .., AllocationSettings.isExact_document .., nofun⟩

/-- Settings are read back from their document, whatever is left out. -/
theorem ofJson?_document (leaves : List String → Bool) (settings : PoolSettings) :
    ofJson? (settings.document leaves) = some settings := by
  have hnames :
      (settings.fields leaves).map Json.Field.name = ["Payers", "Reclaim", "Allocation"] := rfl
  have hnodup : ["Payers", "Reclaim", "Allocation"].Nodup := by decide
  have hpayers := Json.required_always hnames hnodup 0 rfl (Json.dict?_ofDict
    (fun name => Payer.ofJson?_document fun field => leaves ["Payers", name, field])
    settings.payers)
  have hreclaim := Json.withDefault_unlessUsual hnames hnodup 1 rfl
    (ReclaimSettings.ofJson?_document (fun field => leaves ["Reclaim", field]) settings.reclaim)
  have hallocation := Json.withDefault_unlessUsual hnames hnodup 2 rfl
    (AllocationSettings.ofJson?_document (fun field => leaves ["Allocation", field])
      settings.allocation)
  rw [ofJson?, document, Json.fields?_abridged hnames hnodup]
  simp only [Option.bind_eq_bind, Option.bind_some, hpayers, hreclaim, hallocation]
  rfl

/-! ## Reading the text of settings -/

/-- A text that was written for settings, with some usual values left out or none, gives back these
settings when they are usable, and is refused when they are not.  No text at all gives settings that
are not usable. -/
theorem ofText_of_written (settings : PoolSettings) (leaves : List String → Bool) (text : String)
    (htext : text = (settings.document leaves).compact ∨ text = (settings.document leaves).pretty) :
    settings.document (fun _ => false) = settings.toJson ∧
      (∀ found, ofText text = .ok found ↔ settings.IsUsable ∧ found = settings) ∧
      ∀ other found, ofText other = .ok found → found.IsUsable := by
  have hexact := settings.isExact_document leaves
  have hparse : Json.parse? text = some (settings.document leaves) := by
    rcases htext with rfl | rfl
    · exact Json.parse?_compact hexact
    · exact Json.parse?_pretty hexact
  refine ⟨settings.document_eq_toJson, fun found => ?_, fun other found => isUsable_of_ofText⟩
  simp only [ofText_eq_ok_iff, hparse, Option.some.injEq, exists_eq_left', ofJson?_document,
    fault?_eq_none_iff]
  constructor
  · rintro ⟨rfl, husable⟩
    exact ⟨husable, rfl⟩
  · rintro ⟨husable, rfl⟩
    exact ⟨rfl, husable⟩

/-- Settings whose usual values are all left out. -/
theorem ofText_of_written_lab :
    let lab : PoolSettings :=
      { payers := .ofList [("lab", { root := "r-lab", claimed := "ou-lab" })],
        reclaim := { sessionSeconds := 1800 } }
    ofText
      ("\x7b\"Payers\":\x7b\"lab\":\x7b\"RootOuId\":\"r-lab\",\"ClaimedOuId\":\"ou-lab\"\x7d\x7d," ++
        "\"Reclaim\":\x7b\"SessionDurationSeconds\":1800\x7d\x7d") = .ok lab := by
  intro lab
  have husable : lab.IsUsable := lab.fault?_eq_none_iff.1 (by decide +kernel)
  exact ((ofText_of_written lab (fun _ => true) _ (.inl (by decide +kernel))).2.1 lab).2
    ⟨husable, rfl⟩

end PoolSettings

end AccountLending
