import Mathlib.Data.List.Nodup
import AccountLending.Claim
import AccountLending.Cloud.Services
import AccountLending.Proofs.Dict

/-!
# What requests do to the members of an organization

Tags and places of the members after each request that changes them, for an organization whose
members have different numbers.  A rival that waits for a write is not covered: the laws about
writing are for accounts without one.

* `Organization.find?_of_mem` — a member is found by its number;
* `Organization.parent?_change`, `Organization.tags_change` — what a change of one member leaves
  alone;
* `Organization.answer_move` — a member that is where a move says it is gets the new place;
* `Organization.answer_cases` — what any request can change;
* `Tags.owner?_written`, `Tags.isFree_written` — a claim that was just written is there.
-/

namespace AccountLending

/-! ## The tags of a claim -/

namespace Tags

theorem get?_ofClaim (owner token name : String) :
    (ofClaim owner token).get? name =
      if name = tokenKey then some token
      else if name = claimedKey then some "true"
      else if name = ownerKey then some owner
      else none := by
  simp only [ofClaim, Dict.ofList, Dict.insertAll, List.foldl_cons, List.foldl_nil,
    Dict.get?_insert, Dict.get?_empty]

@[simp] theorem owner?_written (old : Tags) (owner token : String) :
    (Organization.written old (ofClaim owner token) none).owner? = some owner := by
  simp only [Organization.written, owner?, Dict.get?_insertAll_entries, get?_ofClaim]
  simp [ownerKey, tokenKey, claimedKey]

@[simp] theorem token_written (old : Tags) (owner token : String) :
    (Organization.written old (ofClaim owner token) none).get? tokenKey = some token := by
  simp [Organization.written, Dict.get?_insertAll_entries, get?_ofClaim]

/-- An account that was tagged is not free. -/
theorem isFree_written (old : Tags) (owner token : String) :
    (Claim.ofTags (Organization.written old (ofClaim owner token) none)).isFree = false := by
  rw [← Bool.not_eq_true, Claim.isFree_ofTags_iff]
  simp

end Tags

namespace Organization

variable {organization : Organization}

/-! ## Members by their numbers -/

/-- The members have different numbers. -/
def IsDistinct (organization : Organization) : Prop :=
  (organization.members.map (·.account.id)).Nodup

instance : Decidable organization.IsDistinct :=
  inferInstanceAs (Decidable (organization.members.map (·.account.id)).Nodup)

theorem find?_of_mem (h : organization.IsDistinct) {member : Member}
    (hmember : member ∈ organization.members) :
    organization.find? member.account.id = some member := by
  obtain ⟨members, resources, rivals⟩ := organization
  change (members.map (·.account.id)).Nodup at h
  change member ∈ members at hmember
  change members.find? (·.account.id = member.account.id) = some member
  induction members with
  | nil => simp at hmember
  | cons first rest ih =>
    obtain ⟨hfirst, hrest⟩ := List.nodup_cons.1 h
    rcases List.mem_cons.1 hmember with rfl | hmember
    · simp
    · have hne : ¬ first.account.id = member.account.id := by
        intro heq
        exact hfirst (List.mem_map.2 ⟨member, hmember, heq.symm⟩)
      simpa [hne] using ih hrest hmember

/-- Listing a unit gives the accounts of its members, each with the unit as its parent. -/
theorem parent?_of_mem_filter (h : organization.IsDistinct) {parent : String} {account : Account}
    (haccount : account ∈ (organization.members.filter (·.parent = parent)).map (·.account)) :
    organization.parent? account.id = some parent := by
  obtain ⟨member, hmember, rfl⟩ := List.mem_map.1 haccount
  obtain ⟨hmem, hparent⟩ := List.mem_filter.1 hmember
  simpa [parent?, find?_of_mem h hmem] using hparent

/-! ## Changes of one member -/

theorem map_id_changeFirst (account : String) (f : Member → Member)
    (hf : ∀ member, (f member).account.id = member.account.id) (members : List Member) :
    (changeFirst account f members).map (·.account.id) = members.map (·.account.id) := by
  induction members with
  | nil => rfl
  | cons member rest ih =>
    rw [changeFirst]
    split
    · simp [hf]
    · simp [ih]

theorem IsDistinct.change (h : organization.IsDistinct) (account : String) (f : Member → Member)
    (hf : ∀ member, (f member).account.id = member.account.id) :
    (organization.change account f).IsDistinct := by
  unfold IsDistinct Organization.change
  rw [map_id_changeFirst account f hf]
  exact h

/-- A change of one member leaves all others alone. -/
theorem find?_change_of_ne {account other : String} {f : Member → Member}
    (hf : ∀ member, (f member).account.id = member.account.id) (hother : other ≠ account) :
    (organization.change account f).find? other = organization.find? other := by
  rw [find?_change organization account other f hf, if_neg hother]

theorem parent?_change (account other : String) (f : Member → Member)
    (hf : ∀ member, (f member).account.id = member.account.id) :
    (organization.change account f).parent? other =
      if other = account then (organization.find? other).map fun member => (f member).parent
      else organization.parent? other := by
  rw [parent?, find?_change organization account other f hf]
  split
  · simp [Function.comp_def]
  · rfl

theorem tags_change (account other : String) (f : Member → Member)
    (hf : ∀ member, (f member).account.id = member.account.id) :
    (organization.change account f).tags other =
      if other = account then
        ((organization.find? other).map fun member => (f member).tags).getD Dict.empty
      else organization.tags other := by
  rw [tags, find?_change organization account other f hf]
  split
  · simp [Function.comp_def]
  · rfl

/-- There is nothing to change of an account that is no member. -/
theorem change_of_find?_eq_none {account : String} (h : organization.find? account = none)
    (f : Member → Member) : organization.change account f = organization := by
  obtain ⟨members, resources, rivals⟩ := organization
  simp only [find?, List.find?_eq_none, decide_eq_true_eq] at h
  simp only [change, Organization.mk.injEq, and_true]
  induction members with
  | nil => rfl
  | cons member rest ih =>
    rw [changeFirst, if_neg (h member List.mem_cons_self),
      ih fun other hother => h other (List.mem_cons_of_mem _ hother)]

/-! ## Single requests -/

theorem exists_of_fromMember {α : Type} {account : String} {f : Member → α} {a : α}
    (h : organization.fromMember account f = .ok a) :
    ∃ member, organization.find? account = some member ∧ f member = a := by
  unfold fromMember at h
  split at h
  · simp at h
  · rename_i member hmember
    exact ⟨member, hmember, Except.ok.inj h⟩

theorem answer_move {account source destination : String} {member : Member}
    (hmember : organization.find? account = some member) (hparent : member.parent = source) :
    organization.answer (.move account source destination) =
      (.ok (), organization.change account fun member =>
        { member with parent := destination }) := by
  simp only [answer, hmember, hparent, if_true]

theorem exists_of_answer_move {account source destination : String} {a : Unit}
    (h : (organization.answer (.move account source destination)).1 = .ok a) :
    ∃ member, organization.find? account = some member ∧ member.parent = source := by
  simp only [answer] at h
  split at h
  · cases h
  · rename_i member hmember
    split at h
    · rename_i hparent
      exact ⟨member, hmember, hparent⟩
    · cases h

/-! ## Any request -/

/-- A request changes nothing, or one member, and uses up the rival of the member that it tags. -/
theorem answer_cases (organization : Organization) (request : Request) :
    (organization.answer request).2 = organization ∨
      ∃ account f, (∀ member : Member, (f member).account.id = member.account.id) ∧
        ((organization.answer request).2 = organization.change account f ∨
          (organization.answer request).2 =
            { organization with rivals := organization.rivals.erase account }.change
              account f) := by
  cases request with
  | tag account tags =>
    exact .inr ⟨account, fun member =>
      { member with tags := written member.tags tags (organization.rivals.get? account) },
      fun _ => rfl, .inr rfl⟩
  | untag account keys =>
    exact .inr ⟨account, fun member => { member with tags := member.tags.eraseAll keys },
      fun _ => rfl, .inl rfl⟩
  | move account source destination =>
    simp only [answer]
    split
    · exact .inl rfl
    · split
      · exact .inr ⟨account, fun member => { member with parent := destination },
          fun _ => rfl, .inl rfl⟩
      · exact .inl rfl
  | _ => exact .inl rfl

theorem resources_answer (organization : Organization) (request : Request) :
    (organization.answer request).2.resources = organization.resources := by
  rcases organization.answer_cases request with h | ⟨account, f, -, h | h⟩ <;> rw [h] <;> rfl

theorem rivals_answer (h : organization.rivals = Dict.empty) (request : Request) :
    (organization.answer request).2.rivals = Dict.empty := by
  rcases organization.answer_cases request with hsame | ⟨account, f, -, hchange | hchange⟩
  · rw [hsame, h]
  · rw [hchange]
    exact h
  · rw [hchange]
    show organization.rivals.erase account = Dict.empty
    rw [h]
    rfl

theorem IsDistinct.answer (h : organization.IsDistinct) (request : Request) :
    (organization.answer request).2.IsDistinct := by
  rcases organization.answer_cases request with hsame | ⟨account, f, hid, hchange | hchange⟩
  · rwa [hsame]
  · rw [hchange]
    exact h.change account f hid
  · rw [hchange]
    have hrivals : IsDistinct { organization with rivals := organization.rivals.erase account } := h
    exact hrivals.change account f hid

/-- A request that is no mutation changes nothing, whether it is refused or not. -/
theorem state_serve_of_isMutation {request : Request} (h : request.isMutation = false)
    (service : Journaled Organization Request) :
    (serve request service).2.state = service.state := by
  unfold serve
  split
  · rfl
  · cases request <;> first | rfl | simp [Request.isMutation] at h

theorem failing_serve (request : Request) (service : Journaled Organization Request) :
    (serve request service).2.failing = service.failing := by
  unfold serve
  split <;> rfl

/-! ## Members that are the same -/

theorem tags_of_find? {account : String} {member : Member}
    (h : organization.find? account = some member) : organization.tags account = member.tags := by
  simp [tags, h]

theorem parent?_congr {other : Organization} {account : String}
    (h : other.find? account = organization.find? account) :
    other.parent? account = organization.parent? account := by
  rw [parent?, h, parent?]

theorem tags_congr {other : Organization} {account : String}
    (h : other.find? account = organization.find? account) :
    other.tags account = organization.tags account := by
  rw [tags, h, tags]

end Organization

end AccountLending
