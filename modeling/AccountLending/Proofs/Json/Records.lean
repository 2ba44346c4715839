import Mathlib.Data.List.Nodup
import AccountLending.Proofs.Dict
import AccountLending.Proofs.Json.Spelling
import AccountLending.Json.Record

/-!
# Records that are written are read back

A record is written field by field, and a field that has its usual value may be left out.  Whatever
is left out, every field is read back with the value that it has.

* `Field`, `abridged` — the document of a record, without the fields that are left out;
* `fields?_abridged` — such a document gives the fields that are kept, each once;
* `required_always`, `withDefault_unlessUsual` — reading a field that is always written, and one
  that may be left out;
* `dict?_ofDict` — reading a dictionary.
-/

namespace AccountLending.Json

/-! ## Values -/

@[simp] theorem text?_str (value : String) : text? (.str value) = some value := rfl

@[simp] theorem nullable_textOrNull (value : Option String) :
    nullable text? (.textOrNull value) = some value := by
  cases value <;> rfl

@[simp] theorem list?_texts (values : List String) : list? text? (.texts values) = some values := by
  have hread : text? ∘ str = fun value => pure (id value) := funext text?_str
  rw [texts, list?, List.mapM_map, hread, List.mapM_pure, List.map_id]
  rfl

theorem int?_int (value : Int) : int? (.int value) = some value := by
  by_cases h : value < 0
  · have hne : value.natAbs ≠ 0 := by omega
    rw [int, decide_eq_true h, int?, if_neg hne, Int.ofNat_natAbs_of_nonpos (Int.le_of_lt h),
      Int.neg_neg]
  · rw [int, decide_eq_false h, int?, Int.natAbs_of_nonneg (Int.not_lt.1 h)]

theorem int32?_of_int? {document : Json} {n : Int} (h : int? document = some n)
    (hn : Int32.minValue.toInt ≤ n ∧ n ≤ Int32.maxValue.toInt) :
    int32? document = some (Int32.ofInt n) := by
  rw [int32?, h]
  exact if_pos hn

theorem uint64?_of_int? {document : Json} {n : Int} (h : int? document = some n)
    (hn : 0 ≤ n ∧ n < UInt64.size) : uint64? document = some (UInt64.ofNat n.toNat) := by
  rw [uint64?, h]
  exact if_pos hn

@[simp] theorem int32?_int (value : Int32) : int32? (.int value.toInt) = some value := by
  rw [int32?_of_int? (int?_int _) ⟨value.le_toInt, value.toInt_le⟩, Int32.ofInt_toInt]

@[simp] theorem uint64?_nat (value : UInt64) : uint64? (.nat value.toNat) = some value := by
  have hvalue : int? (.nat value.toNat) = some (value.toNat : Int) := rfl
  rw [uint64?_of_int? hvalue ⟨Int.natCast_nonneg _, Int.ofNat_lt.2 value.toNat_lt_size⟩,
    Int.toNat_natCast, UInt64.ofNat_toNat]

/-- The document of a dictionary. -/
def ofDict {α : Type} (write : String → α → Json) (d : Dict α) : Json :=
  .record (d.entries.map fun (name, value) => (name, write name value))

theorem IsExact.ofDict {α : Type} {write : String → α → Json}
    (h : ∀ name value, IsExact (write name value)) (d : Dict α) : IsExact (.ofDict write d) := by
  refine .record fun member hmember => ?_
  obtain ⟨⟨name, value⟩, -, rfl⟩ := List.mem_map.1 hmember
  exact h name value

/-- A dictionary is read back when its values are. -/
theorem dict?_ofDict {α : Type} {read : Json → Option α} {write : String → α → Json}
    (h : ∀ name value, read (write name value) = some value) (d : Dict α) :
    dict? read (ofDict write d) = some d := by
  have hentries (entries : List (String × α)) :
      (entries.map fun entry => (some entry.1, write entry.1 entry.2)).mapM
        (fun member : Option String × Json => return (← member.1, ← read member.2)) =
          some entries := by
    induction entries with
    | nil => rfl
    | cons entry rest ih =>
      obtain ⟨name, value⟩ := entry
      rw [List.map_cons, List.mapM_cons, ih]
      simp only [h]
      rfl
  rw [ofDict, record, List.map_map]
  refine (congrArg (Option.bind · fun entries => some (Dict.ofList entries))
    (hentries d.entries)).trans ?_
  rw [Option.bind_some, Dict.ofList_entries]

/-! ## Records -/

/-- A field of a record, as it is written. -/
structure Field where
  name : String
  value : Json
  /-- Whether the field is left out. -/
  isLeft : Bool

namespace Field

/-- A field that is always written. -/
def always (name : String) (value : Json) : Field := ⟨name, value, false⟩

/-- A field that may be left out when it has its usual value. -/
def unlessUsual {α : Type} [DecidableEq α] (leaves : String → Bool) (name : String)
    (write : α → Json) (usual value : α) : Field :=
  ⟨name, write value, decide (value = usual) && leaves name⟩

@[simp] theorem unlessUsual_never {α : Type} [DecidableEq α] (name : String) (write : α → Json)
    (usual value : α) :
    unlessUsual (fun _ => false) name write usual value = always name (write value) := by
  rw [unlessUsual, Bool.and_false, always]

end Field

/-- The members of a record that are written. -/
def kept (fields : List Field) : List (String × Json) :=
  (fields.filter fun field => !field.isLeft).map fun field => (field.name, field.value)

/-- The document of a record, without the fields that are left out. -/
def abridged (fields : List Field) : Json := .record (kept fields)

variable {fields : List Field} {field : Field} {names : List String}

theorem IsExact.abridged (h : ∀ field ∈ fields, IsExact field.value) :
    IsExact (.abridged fields) := by
  refine .record fun member hmember => ?_
  obtain ⟨field, hfield, rfl⟩ := List.mem_map.1 hmember
  exact h field (List.mem_of_mem_filter hfield)

theorem knownMembers?_record {members : List (String × Json)}
    (hnodup : (members.map Prod.fst).Nodup) (hknown : ∀ member ∈ members, member.1 ∈ names) :
    knownMembers? names (members.map fun (name, value) => (some name, value)) = some members := by
  induction members with
  | nil => rfl
  | cons member rest ih =>
    obtain ⟨name, value⟩ := member
    obtain ⟨hfresh, hnodup⟩ := List.nodup_cons.1 hnodup
    obtain ⟨hname, hknown⟩ := List.forall_mem_cons.1 hknown
    rw [List.map_cons, knownMembers?, ih hnodup hknown]
    dsimp only [Option.bind_eq_bind, Option.bind_some]
    rw [if_pos hname, if_neg hfresh]

/-- A record that is written gives the fields that are kept. -/
theorem fields?_abridged (hnames : fields.map Field.name = names) (hnodup : names.Nodup) :
    fields? names (.abridged fields) = some { positional := false, given := kept fields } := by
  have hkept : ((kept fields).map Prod.fst).Nodup := by
    rw [kept, List.map_map]
    exact (hnames ▸ hnodup).sublist (List.filter_sublist.map _)
  have hknown : ∀ member ∈ kept fields, member.1 ∈ names := by
    intro member hmember
    obtain ⟨field, hfield, rfl⟩ := List.mem_map.1 hmember
    exact hnames ▸ List.mem_map_of_mem (List.mem_of_mem_filter hfield)
  rw [abridged, record, fields?, knownMembers?_record hkept hknown]
  rfl

theorem kept_cons (first : Field) (rest : List Field) :
    kept (first :: rest) = if first.isLeft then kept rest
      else (first.name, first.value) :: kept rest := by
  cases h : first.isLeft <;> simp [kept, h]

theorem lookup_kept_of_not_mem {name : String} (h : name ∉ fields.map Field.name) :
    (kept fields).lookup name = none := by
  rw [List.lookup_eq_none_iff]
  intro member hmember
  obtain ⟨field, hfield, rfl⟩ := List.mem_map.1 hmember
  have hne : name ≠ field.name :=
    fun heq => h (heq ▸ List.mem_map_of_mem (List.mem_of_mem_filter hfield))
  simp [hne]

/-- Looking the name of a field up among the fields that are kept. -/
theorem lookup_kept (hnames : fields.map Field.name = names) (hnodup : names.Nodup)
    (hfield : field ∈ fields) :
    (kept fields).lookup field.name = if field.isLeft then none else some field.value := by
  subst hnames
  induction fields with
  | nil => cases hfield
  | cons first rest ih =>
    obtain ⟨hfresh, hnodup⟩ := List.nodup_cons.1 hnodup
    rw [kept_cons]
    rcases List.mem_cons.1 hfield with rfl | hfield
    · split
      · exact lookup_kept_of_not_mem hfresh
      · rw [Dict.lookup_cons_eq, if_pos rfl]
    · have hne : field.name ≠ first.name := fun heq => hfresh (heq ▸ List.mem_map_of_mem hfield)
      rw [← ih hfield hnodup, apply_ite (List.lookup field.name), Dict.lookup_cons_eq,
        if_neg hne, ite_self]

section Reading

variable {α : Type} {read : Json → Option α} {name : String}

/-- A field that is always written is read back. -/
theorem required_always {value : Json} {found : α} (hnames : fields.map Field.name = names)
    (hnodup : names.Nodup) (i : Nat) (hfield : fields[i]? = some (.always name value))
    (h : read value = some found) :
    Fields.required ⟨false, kept fields⟩ read name = some found := by
  have hlookup : (kept fields).lookup name = some value :=
    lookup_kept hnames hnodup (List.mem_of_getElem? hfield)
  rw [Fields.required, Fields.get?, hlookup]
  exact h

/-- A field that may be left out is read back, whether it is left out or not. -/
theorem withDefault_unlessUsual [DecidableEq α] {leaves : String → Bool} {write : α → Json}
    {usual value : α} (hnames : fields.map Field.name = names) (hnodup : names.Nodup) (i : Nat)
    (hfield : fields[i]? = some (.unlessUsual leaves name write usual value))
    (h : read (write value) = some value) :
    Fields.withDefault ⟨false, kept fields⟩ read usual name = some value := by
  have hlookup : (kept fields).lookup name =
      if (decide (value = usual) && leaves name) = true then none else some (write value) :=
    lookup_kept hnames hnodup (List.mem_of_getElem? hfield)
  rw [Fields.withDefault, Fields.get?, hlookup]
  by_cases hleft : (decide (value = usual) && leaves name) = true
  · obtain ⟨husual, -⟩ := Bool.and_eq_true_iff.1 hleft
    rw [if_pos hleft, of_decide_eq_true husual]
  · rw [if_neg hleft]
    exact h

end Reading

end AccountLending.Json
