import AccountLending.Proofs.Concurrent
import AccountLending.Proofs.Organization

/-!
# An organization that nobody else changes

A cloud in which no request to the organization is registered to fail, no rival waits for a write,
and all members have different numbers.  What each request of lending replies there, and what it
leaves behind, is stated once for every request.
-/

namespace AccountLending

/-- No request to the organization is registered to fail, no rival waits, and the members have
different numbers. -/
structure Cloud.IsUndisturbed (cloud : Cloud) : Prop where
  answering : ∀ request : Organization.Request, cloud.organization.fails request.entry = false
  alone : cloud.organization.state.rivals = Dict.empty
  distinct : cloud.organization.state.IsDistinct

/-- Whether the tags of an account say that it is lent, or contradict each other. -/
def Organization.IsTaken (organization : Organization) (account : String) : Prop :=
  (Claim.ofTags (organization.tags account)).isFree = false

theorem Organization.isTaken_iff (organization : Organization) (account : String) :
    organization.IsTaken account ↔
      (organization.tags account).contains Tags.ownerKey = true ∨
        (organization.tags account).contains Tags.claimedKey = true := by
  rw [IsTaken, ← Bool.not_eq_true, Claim.isFree_ofTags_iff]
  simp only [Tags.owner?, Dict.contains]
  cases (organization.tags account).get? Tags.ownerKey <;>
    cases (organization.tags account).get? Tags.claimedKey <;> simp

namespace Cloud.IsUndisturbed

variable {cloud after : Cloud}

/-- The reply is the organization's answer, and the organization is the one after it. -/
theorem answer (h : cloud.IsUndisturbed) {request : Organization.Request}
    {reply : Except ServiceError request.Answer}
    (hanswers : Cloud.Answers (.cloud (.organization request)) cloud reply after) :
    reply = (cloud.organization.state.answer request).1.mapError (ServiceError.mk .organizations) ∧
      after.organization.state = (cloud.organization.state.answer request).2 ∧
      after.organization.failing = cloud.organization.failing := by
  have hserve : Cloud.serveOrganization request cloud = (reply, after) := hanswers
  simp only [Cloud.serveOrganization, Organization.serve, h.answering, Bool.false_eq_true, if_false]
    at hserve
  obtain ⟨rfl, rfl⟩ := Prod.mk.inj hserve
  exact ⟨rfl, rfl, rfl⟩

/-- What the organization's members become is all that has to be looked at. -/
theorem of_state (h : cloud.IsUndisturbed)
    (hfailing : after.organization.failing = cloud.organization.failing)
    (halone : after.organization.state.rivals = Dict.empty)
    (hdistinct : after.organization.state.IsDistinct) : after.IsUndisturbed where
  answering request := by
    have := h.answering request
    rwa [Journaled.fails, ← hfailing] at this
  alone := halone
  distinct := hdistinct

theorem of_state_eq (h : cloud.IsUndisturbed)
    (hfailing : after.organization.failing = cloud.organization.failing)
    (hstate : after.organization.state = cloud.organization.state) : after.IsUndisturbed :=
  h.of_state hfailing (hstate ▸ h.alone) (hstate ▸ h.distinct)

/-- Nobody has a rival claim waiting to be written over another one. -/
theorem erase_rivals (h : cloud.IsUndisturbed) (account : String) :
    ({ cloud.organization.state with rivals := cloud.organization.state.rivals.erase account } :
      Organization) = cloud.organization.state := by
  have herase : (Dict.empty : Dict String).erase account = Dict.empty := rfl
  rw [h.alone, herase, ← h.alone]

/-- Listing a unit names the accounts that it holds, and changes nothing. -/
theorem listAccounts (h : cloud.IsUndisturbed) {parent : String} {accounts : List Account}
    (hanswers : Cloud.Answers (.cloud (.organization (.listAccounts parent))) cloud
      (.ok accounts) after) :
    after.IsUndisturbed ∧ after.organization.state = cloud.organization.state ∧
      ∀ account ∈ accounts, cloud.organization.state.parent? account.id = some parent := by
  obtain ⟨hreply, hstate, hfailing⟩ := h.answer hanswers
  refine ⟨h.of_state_eq hfailing hstate, hstate, fun account haccount => ?_⟩
  refine Organization.parent?_of_mem_filter h.distinct ?_
  rwa [← Except.ok.inj hreply]

/-- Reading the tags of an account replies with them, and changes nothing. -/
theorem listTags (h : cloud.IsUndisturbed) {account : String} {tags : Tags}
    (hanswers : Cloud.Answers (.cloud (.organization (.listTags account))) cloud (.ok tags) after) :
    after.IsUndisturbed ∧ after.organization.state = cloud.organization.state ∧
      cloud.organization.state.tags account = tags := by
  obtain ⟨hreply, hstate, hfailing⟩ := h.answer hanswers
  refine ⟨h.of_state_eq hfailing hstate, hstate, ?_⟩
  cases hfind : cloud.organization.state.find? account with
  | none => simp [Organization.answer, Organization.fromMember, hfind] at hreply
  | some member =>
    simp only [Organization.answer, Organization.fromMember, hfind, mapError_ok] at hreply
    rw [Organization.tags_of_find? hfind]
    exact (Except.ok.inj hreply).symm

/-- A claim that is written to an account adds its tags and changes nothing else. -/
theorem tag (h : cloud.IsUndisturbed) {account : String} {tags : Tags}
    (hanswers : Cloud.Answers (.cloud (.organization (.tag account tags))) cloud (.ok ()) after) :
    after.IsUndisturbed ∧
      after.organization.state.tags account =
        Organization.written (cloud.organization.state.tags account) tags none ∧
      (∀ other, after.organization.state.parent? other = cloud.organization.state.parent? other) ∧
      ∀ other, other ≠ account →
        after.organization.state.find? other = cloud.organization.state.find? other := by
  obtain ⟨hreply, hstate, hfailing⟩ := h.answer hanswers
  have hrivals := h.erase_rivals account
  have hafter : after.organization.state = cloud.organization.state.change account fun member =>
      { member with tags := Organization.written member.tags tags none } := by
    simp only [hstate, Organization.answer, hrivals]
    rw [h.alone]
    rfl
  have hid : ∀ member : Member,
      ({ member with tags := Organization.written member.tags tags none } :
      Member).account.id = member.account.id := fun _ => rfl
  rw [hafter]
  refine ⟨h.of_state hfailing ?_ ?_, ?_, fun other => ?_, fun other hne => ?_⟩
  · rw [hafter]
    exact h.alone
  · rw [hafter]
    exact h.distinct.change account _ hid
  · rw [Organization.tags_change _ _ _ hid, if_pos rfl]
    cases hfind : cloud.organization.state.find? account with
    | none => simp [Organization.answer, Organization.fromMember, hfind] at hreply
    | some member => simp [Organization.tags_of_find? hfind]
  · rw [Organization.parent?_change _ _ _ hid]
    split <;> rfl
  · rw [Organization.find?_change _ _ _ _ hid, if_neg hne]

/-- An account that is moved was under the source, is under the destination, and is otherwise as it
was, like all other members. -/
theorem move (h : cloud.IsUndisturbed) {account source destination : String}
    (hanswers : Cloud.Answers (.cloud (.organization (.move account source destination)))
      cloud (.ok ()) after) :
    after.IsUndisturbed ∧ cloud.organization.state.parent? account = some source ∧
      after.organization.state.parent? account = some destination ∧
      (∀ other, after.organization.state.tags other = cloud.organization.state.tags other) ∧
      ∀ other, other ≠ account →
        after.organization.state.find? other = cloud.organization.state.find? other := by
  obtain ⟨hreply, hstate, hfailing⟩ := h.answer hanswers
  cases hfind : cloud.organization.state.find? account with
  | none => simp [Organization.answer, hfind] at hreply
  | some member =>
    by_cases hparent : member.parent = source
    · simp only [Organization.answer, hfind, hparent, if_true] at hstate
      have hid : ∀ member : Member, ({ member with parent := destination } : Member).account.id =
          member.account.id := fun _ => rfl
      rw [hstate]
      refine ⟨h.of_state hfailing ?_ ?_, ?_, ?_, fun other => ?_, fun other hne => ?_⟩
      · rw [hstate]
        exact h.alone
      · rw [hstate]
        exact h.distinct.change account _ hid
      · simp [Organization.parent?, hfind, hparent]
      · rw [Organization.parent?_change _ _ _ hid, if_pos rfl, hfind]
        rfl
      · rw [Organization.tags_change _ _ _ hid]
        split <;> rfl
      · rw [Organization.find?_change _ _ _ _ hid, if_neg hne]
    · simp [Organization.answer, hfind, hparent] at hreply

/-! ## Failures -/

theorem not_failed_listAccounts (h : cloud.IsUndisturbed) {parent : String}
    {failure : ServiceError} :
    ¬ Cloud.Answers (.cloud (.organization (.listAccounts parent))) cloud
      (.error failure) after := by
  intro hanswers
  simpa [Organization.answer] using (h.answer hanswers).1

/-- Tags can be read of every member. -/
theorem failed_listTags (h : cloud.IsUndisturbed) {account : String} {failure : ServiceError}
    (hanswers : Cloud.Answers (.cloud (.organization (.listTags account))) cloud
      (.error failure) after) :
    cloud.organization.state.find? account = none := by
  have hreply := (h.answer hanswers).1
  cases hfind : cloud.organization.state.find? account with
  | none => rfl
  | some member =>
    simp [Organization.answer, Organization.fromMember, hfind] at hreply

/-- Tags can be written to every member. -/
theorem failed_tag (h : cloud.IsUndisturbed) {account : String} {tags : Tags}
    {failure : ServiceError} (hanswers : Cloud.Answers (.cloud (.organization (.tag account tags)))
      cloud (.error failure) after) :
    cloud.organization.state.find? account = none := by
  have hreply := (h.answer hanswers).1
  cases hfind : cloud.organization.state.find? account with
  | none => rfl
  | some member =>
    simp [Organization.answer, Organization.fromMember, hfind] at hreply

/-- A move only fails when the account is not under the source, and then changes nothing. -/
theorem failed_move (h : cloud.IsUndisturbed) {account source destination : String}
    {failure : ServiceError}
    (hanswers : Cloud.Answers (.cloud (.organization (.move account source destination))) cloud
      (.error failure) after) :
    after.IsUndisturbed ∧ after.organization.state = cloud.organization.state ∧
      cloud.organization.state.parent? account ≠ some source := by
  obtain ⟨hreply, hstate, hfailing⟩ := h.answer hanswers
  -- an account that is no member, or that stands elsewhere, is left where it is
  have hunmoved : after.organization.state = cloud.organization.state ∧
      cloud.organization.state.parent? account ≠ some source := by
    cases hfind : cloud.organization.state.find? account with
    | none =>
      simp only [Organization.answer, hfind] at hstate
      exact ⟨hstate, by simp [Organization.parent?, hfind]⟩
    | some member =>
      by_cases hparent : member.parent = source
      · simp [Organization.answer, hfind, hparent] at hreply
      · simp only [Organization.answer, hfind, hparent, if_false] at hstate
        exact ⟨hstate, by simpa [Organization.parent?, hfind] using hparent⟩
  exact ⟨h.of_state_eq hfailing hunmoved.1, hunmoved.1, hunmoved.2⟩

/-- A request that fails changes nothing. -/
theorem failed (h : cloud.IsUndisturbed) {request : Organization.Request} {failure : ServiceError}
    (hanswers : Cloud.Answers (.cloud (.organization request)) cloud (.error failure) after) :
    after.IsUndisturbed ∧ after.organization.state = cloud.organization.state := by
  obtain ⟨hreply, hstate, hfailing⟩ := h.answer hanswers
  -- only an account that is no member can neither be read nor be written
  have hnone : ∀ {α : Type} {account : String} {f : Member → α},
      (Except.error failure : Except ServiceError α) =
        (cloud.organization.state.fromMember account f).mapError (ServiceError.mk .organizations) →
      cloud.organization.state.find? account = none := by
    intro α account f hfrom
    cases hfind : cloud.organization.state.find? account with
    | none => rfl
    | some member => simp [Organization.fromMember, hfind] at hfrom
  have hsame : after.organization.state = cloud.organization.state := by
    rw [hstate]
    cases request with
    | listAccounts parent => simp [Organization.answer] at hreply
    | findResources key value => simp [Organization.answer] at hreply
    | parentOf account => rfl
    | listTags account => rfl
    | tag account tags =>
      show Organization.change { cloud.organization.state with
        rivals := cloud.organization.state.rivals.erase account } account _ = _
      rw [h.erase_rivals]
      exact Organization.change_of_find?_eq_none (hnone hreply) _
    | untag account keys => exact Organization.change_of_find?_eq_none (hnone hreply) _
    | move account source destination => exact hstate ▸ (h.failed_move hanswers).2.1
  exact ⟨h.of_state_eq hfailing hsame, hsame⟩

end Cloud.IsUndisturbed

end AccountLending
