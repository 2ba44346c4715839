import AccountLending.Proofs.Clearing.Whole
import AccountLending.Proofs.Following

/-!
# What is listed before a deletion

A role, a policy or a user is only deleted after all its dependents were listed: when one of the
listings fails, the deletion is not even tried.  This is kept whatever the surroundings reply, since
it rests on the order of the calls in the program alone.

* `Precedes` — in a list, elements of one kind come only after one of another kind;
* `Iam.Removal.listings` — the listings of the dependents that a deletion needs;
* `Foresees` — a program that makes a deletion only after a listing was answered, closed under
  sequences;
* `foresees_clear` — a clearing makes each deletion only after every listing that it needs.
-/

namespace AccountLending

/-- In a list, each element of the second kind comes after one of the first kind. -/
def Precedes {α : Type} (first second : α → Prop) (l : List α) : Prop :=
  ∀ before a after, l = before ++ a :: after → second a → ∃ b ∈ before, first b

namespace Precedes

variable {α : Type} {first second : α → Prop} {l l' : List α}

theorem of_forall_not (h : ∀ a ∈ l, ¬ second a) : Precedes first second l := by
  rintro before a after rfl ha
  exact absurd ha (h a (by simp))

theorem append (h : Precedes first second l) (h' : Precedes first second l') :
    Precedes first second (l ++ l') := by
  intro before a after hsplit ha
  rcases List.append_eq_append_iff.1 hsplit with ⟨middle, rfl, hlater⟩ | ⟨rest, rfl, hrest⟩
  · obtain ⟨b, hb, hfirst⟩ := h' middle a after hlater ha
    exact ⟨b, List.mem_append_right _ hb, hfirst⟩
  · cases rest with
    | nil =>
      obtain ⟨b, hb, -⟩ := h' [] a after hrest.symm ha
      exact absurd hb List.not_mem_nil
    | cons other rest =>
      obtain rfl : a = other := (List.cons.inj hrest).1
      exact h before a rest rfl ha

/-- What is found in a first part precedes all of a second part. -/
theorem append_of_mem {b : α} (h : ∀ a ∈ l, ¬ second a) (hb : b ∈ l) (hfirst : first b) :
    Precedes first second (l ++ l') := by
  intro before a after hsplit ha
  obtain ⟨middle, rfl, -⟩ := exists_of_append_eq hsplit fun hmem => h a hmem ha
  exact ⟨b, List.mem_append_left _ hb, hfirst⟩

theorem flatMap {ι : Type} {items : List ι} {f : ι → List α}
    (h : ∀ item ∈ items, Precedes first second (f item)) :
    Precedes first second (items.flatMap f) := by
  induction items with
  | nil => exact of_forall_not (by simp)
  | cons item rest ih =>
    rw [List.flatMap_cons]
    exact (h item List.mem_cons_self).append (ih fun other hother =>
      h other (List.mem_cons_of_mem _ hother))

end Precedes

/-! ## Deletions -/

namespace Iam.Removal

/-- Whether a removal deletes a role, a policy or a user, and not something that depends on one. -/
def isFinal : Removal → Bool
  | .deleteRole _ | .deletePolicy _ | .deleteUser _ => true
  | _ => false

/-- The listings of what depends on a role, a policy or a user that is to be deleted. -/
def listings : Removal → List Query
  | .deleteRole role => [.rolePolicies role, .roleInline role]
  | .deletePolicy arn => [.policyEntities arn, .policyVersions arn]
  | .deleteUser user =>
    [.accessKeys user, .certificates user, .userInline user, .userPolicies user, .userGroups user]
  | _ => []

theorem isFinal_of_mem_listings {removal : Removal} {query : Query} (h : query ∈ removal.listings) :
    removal.isFinal = true := by
  cases removal <;> first | rfl | exact absurd h List.not_mem_nil

theorem ne_of_isFinal {removal deletion : Removal} (h : removal.isFinal = false)
    (h' : deletion.isFinal = true) : removal ≠ deletion := by
  rintro rfl
  exact absurd (h.symm.trans h') Bool.false_ne_true

end Iam.Removal

namespace Lending

open Iam (Query Removal PolicySummary)

/-- A request was made to the IAM of a session. -/
def IsAsked (session : Session) (request : Iam.Request) (exchange : Exchange Call.Reply) : Prop :=
  exchange.op = .cloud (.iam (some session) request)

/-- Something was listed in a session, and the listing was answered. -/
def IsListed (session : Session) (query : Query) (exchange : Exchange Call.Reply) : Prop :=
  ∃ answer : query.Answer, exchange = ⟨.cloud (.iam (some session) (.query query)), .ok answer⟩

variable {session : Session} {query : Query} {deletion : Removal} {α β : Type}

/-! ## Programs that leave a deletion alone -/

/-- A program does not make a deletion, whatever is replied. -/
def Spares (session : Session) (deletion : Removal) (program : Engine α) : Prop :=
  program.Uses (· ≠ .cloud (.iam (some session) (.remove deletion)))

variable {site : Site}

theorem spares_done (a : α) : Spares session deletion (.done a) := trivial

theorem Spares.bind {program : Engine α} {f : α → Engine β}
    (hprogram : Spares session deletion program) (hf : ∀ a, Spares session deletion (f a)) :
    Spares session deletion (program.bind f) :=
  Program.Uses.bind hprogram hf

theorem spares_note (artifact : Artifact) : Spares session deletion (note site artifact) :=
  ⟨Call.noConfusion, fun _ => trivial⟩

theorem spares_query (other : Session) (query : Query) :
    Spares session deletion (Engine.iam other (.query query)) :=
  ⟨by simp, fun _ => trivial⟩

theorem spares_attempt {target : Target} (h : target.removal ≠ deletion) :
    Spares session deletion (attempt site target) :=
  ⟨by simp [h], fun _ => spares_note _⟩

theorem spares_attempts {targets : List Target}
    (h : ∀ target ∈ targets, target.removal ≠ deletion) :
    Spares session deletion (forEach (attempt site) targets) :=
  uses_forEach fun target htarget => spares_attempt (h target htarget)

/-- The removal of what depends on a principal spares a deletion that is not among the removals. -/
theorem spares_strip {dependents : List Dependents}
    (h : ∀ kind ∈ dependents, ∀ answer, ∀ target ∈ kind.targets answer, target.removal ≠ deletion)
    (principal : String) (blocked : Option String) :
    Spares session deletion (strip site principal blocked dependents) := by
  induction dependents generalizing blocked with
  | nil => trivial
  | cons kind rest ih =>
    have hrest := ih fun other hother => h other (List.mem_cons_of_mem _ hother)
    apply (spares_query _ _).bind
    intro reply
    cases reply with
    | ok answer =>
      exact (spares_attempts (h kind List.mem_cons_self answer)).bind fun _ =>
        (hrest _).bind fun _ => spares_done _
    | error failure => exact (spares_note _).bind fun _ => (hrest _).bind fun _ => spares_done _

/-! ## Programs that list before a deletion -/

/-- A program makes a deletion only after a listing was answered, whatever the surroundings
reply. -/
def Foresees (session : Session) (query : Query) (deletion : Removal) (program : Engine α) : Prop :=
  ∀ (σ : Type) (handle : (call : Call) → σ → call.Reply × σ) (s : σ),
    Precedes (IsListed session query) (IsAsked session (.remove deletion))
      (program.exchanges handle s)

theorem Spares.not_isAsked {program : Engine α} (h : Spares session deletion program) {σ : Type}
    {handle : (call : Call) → σ → call.Reply × σ} {s : σ} :
    ∀ exchange ∈ program.exchanges handle s, ¬ IsAsked session (.remove deletion) exchange :=
  fun _ hexchange => Program.Uses.mem_exchanges h hexchange

theorem Spares.foresees {program : Engine α} (h : Spares session deletion program) :
    Foresees session query deletion program :=
  fun _ _ _ => .of_forall_not h.not_isAsked

theorem Foresees.bind {program : Engine α} {f : α → Engine β}
    (hprogram : Foresees session query deletion program)
    (hf : ∀ a, Foresees session query deletion (f a)) :
    Foresees session query deletion (program.bind f) := by
  intro σ handle s
  rw [Program.exchanges_bind]
  exact (hprogram σ handle s).append (hf _ σ handle _)

theorem foresees_forEach {act : α → Engine (List Artifact)} {items : List α}
    (h : ∀ item, Foresees session query deletion (act item)) :
    Foresees session query deletion (forEach act items) := by
  induction items with
  | nil => exact (spares_done _).foresees
  | cons item rest ih => exact (h item).bind fun _ => ih.bind fun _ => (spares_done _).foresees

/-- After a listing was answered nothing more is asked for; when it fails, the deletion has to be
spared. -/
theorem foresees_listing {f : Except ServiceError query.Answer → Engine α}
    (herror : ∀ failure, Spares session deletion (f (.error failure))) :
    Foresees session query deletion ((Engine.iam session (.query query)).bind f) := by
  intro σ handle s
  let call : Call := .cloud (.iam (some session) (.query query))
  have hexchanges : ((Engine.iam session (.query query)).bind f).exchanges handle s =
      [⟨call, (handle call s).1⟩] ++ (f (handle call s).1).exchanges handle (handle call s).2 := rfl
  have hlisting : ∀ exchange ∈ [(⟨call, (handle call s).1⟩ : Exchange Call.Reply)],
      ¬ IsAsked session (.remove deletion) exchange := by
    simp [IsAsked, call]
  rw [hexchanges]
  cases hreply : (handle call s).1 with
  | ok answer =>
    rw [hreply] at hlisting
    exact .append_of_mem hlisting (List.mem_singleton_self _) ⟨answer, rfl⟩
  | error failure =>
    rw [hreply] at hlisting
    exact .append (.of_forall_not hlisting) ((herror failure).foresees _ _ _)

/-! ## Principals -/

variable {principal : String} {kind : Dependents} {dependents : List Dependents}
  {blocked : Option String}

/-- What follows the removal of all dependents follows the removal of those that come first. -/
theorem strip_cons_bind (f : List Artifact × Option String → Engine α) :
    (strip site principal blocked (kind :: dependents)).bind f =
      (Engine.iam site.session (.query kind.query)).bind fun
        | .ok answer => (forEach (attempt site) (kind.targets answer)).bind fun entries =>
          (strip site principal blocked dependents).bind fun (others, blocked) =>
            f (entries ++ others, blocked)
        | .error failure =>
          (note site ⟨.listing, principal ++ "/" ++ kind.words, .failed failure.message⟩).bind
            fun entries =>
            (strip site principal (some ("could not list " ++ kind.words)) dependents).bind
              fun (others, blocked) => f (entries ++ others, blocked) := by
  rw [strip, Program.bind_eq, Program.bind_assoc]
  refine congrArg (Program.bind _) (funext fun reply => ?_)
  cases reply <;> simp [Program.bind_assoc]

/-- A principal that is blocked stays blocked, whatever its other dependents are. -/
theorem spares_strip_blocked
    (htargets : ∀ kind ∈ dependents, ∀ answer, ∀ target ∈ kind.targets answer,
      target.removal ≠ deletion)
    {reason : String} {f : List Artifact × Option String → Engine α}
    (hf : ∀ entries reason, Spares session deletion (f (entries, some reason))) :
    Spares session deletion ((strip site principal (some reason) dependents).bind f) := by
  induction dependents generalizing reason f with
  | nil => exact hf [] reason
  | cons kind rest ih =>
    obtain ⟨hkind, htargets⟩ := List.forall_mem_cons.1 htargets
    have hrest : ∀ entries reason, Spares session deletion
        ((strip site principal (some reason) rest).bind fun (others, blocked) =>
          f (entries ++ others, blocked)) :=
      fun entries reason => ih htargets fun others reason => hf _ reason
    rw [strip_cons_bind]
    refine (spares_query _ _).bind fun reply => ?_
    cases reply with
    | ok answer => exact (spares_attempts (hkind answer)).bind fun _ => hrest _ _
    | error failure => exact (spares_note _).bind fun _ => hrest _ _

/-- Unless the principal is blocked, each kind of its dependents was listed. -/
theorem foresees_strip
    (htargets : ∀ kind ∈ dependents, ∀ answer, ∀ target ∈ kind.targets answer,
      target.removal ≠ deletion)
    (hkind : kind ∈ dependents) {f : List Artifact × Option String → Engine α}
    (hf : ∀ entries reason, Spares site.session deletion (f (entries, some reason))) :
    Foresees site.session kind.query deletion
      ((strip site principal blocked dependents).bind f) := by
  induction dependents generalizing blocked f with
  | nil => exact absurd hkind List.not_mem_nil
  | cons first rest ih =>
    obtain ⟨hfirst, hrest⟩ := List.forall_mem_cons.1 htargets
    have hblocked : ∀ entries reason, Spares site.session deletion
        ((strip site principal (some reason) rest).bind fun (others, blocked) =>
          f (entries ++ others, blocked)) :=
      fun entries reason => spares_strip_blocked hrest fun others reason => hf _ reason
    rw [strip_cons_bind]
    rcases List.mem_cons.1 hkind with rfl | hkind
    · exact foresees_listing fun failure => (spares_note _).bind fun _ => hblocked _ _
    refine (spares_query _ _).foresees.bind fun reply => ?_
    cases reply with
    | ok answer =>
      exact (spares_attempts (hfirst answer)).foresees.bind fun entries =>
        ih hrest hkind fun others reason => hf _ reason
    | error failure => exact (spares_note _).foresees.bind fun _ => (hblocked _ _).foresees

/-- A principal is deleted only after the listings that this needs, and no other principal is
deleted. -/
theorem foresees_removePrincipal {target : Target}
    (htargets : ∀ kind ∈ dependents, ∀ answer, ∀ target ∈ kind.targets answer,
      target.removal.isFinal = false)
    (hlistings : target.removal.listings = dependents.map (·.query))
    (hquery : query ∈ deletion.listings) :
    Foresees site.session query deletion (removePrincipal site dependents target) := by
  have hspared : ∀ kind ∈ dependents, ∀ answer, ∀ target ∈ kind.targets answer,
      target.removal ≠ deletion :=
    fun kind hkind answer target htarget =>
      Removal.ne_of_isFinal (htargets kind hkind answer target htarget)
        (Removal.isFinal_of_mem_listings hquery)
  by_cases htarget : target.removal = deletion
  · rw [← htarget, hlistings] at hquery
    obtain ⟨kind, hkind, rfl⟩ := List.mem_map.1 hquery
    exact foresees_strip hspared hkind fun _ _ => (spares_note _).bind fun _ => spares_done _
  · refine Spares.foresees ((spares_strip hspared _ _).bind fun (_, blocked) => ?_)
    cases blocked with
    | some reason => exact (spares_note _).bind fun _ => spares_done _
    | none => exact (spares_attempt htarget).bind fun _ => spares_done _

theorem foresees_removeRole (role : String) (hquery : query ∈ deletion.listings) :
    Foresees site.session query deletion (removeRole site role) := by
  refine foresees_removePrincipal (fun kind hkind answer target htarget => ?_) rfl hquery
  simp only [roleDependents, List.mem_cons, List.not_mem_nil, or_false] at hkind
  rcases hkind with rfl | rfl <;>
    (obtain ⟨name, -, rfl⟩ := List.mem_map.1 htarget
     rfl)

theorem foresees_removeUser (user : String) (hquery : query ∈ deletion.listings) :
    Foresees site.session query deletion (removeUser site user) := by
  have hprofile :
      Spares site.session deletion (Engine.iam site.session (.deleteLoginProfile user)) :=
    ⟨by simp, fun _ => trivial⟩
  refine hprofile.foresees.bind fun _ => (spares_note _).foresees.bind fun _ =>
    Foresees.bind ?_ fun _ =>
    (spares_done _).foresees
  refine foresees_removePrincipal (fun kind hkind answer target htarget => ?_) rfl hquery
  simp only [userDependents, List.mem_cons, List.not_mem_nil, or_false] at hkind
  rcases hkind with rfl | rfl | rfl | rfl | rfl <;>
    (obtain ⟨name, -, rfl⟩ := List.mem_map.1 htarget
     rfl)

/-! ## Policies -/

variable {policy : PolicySummary}

theorem isFinal_of_mem_attachments {entities : Iam.PolicyEntities} {target : Target}
    (h : target ∈ attachments policy entities) : target.removal.isFinal = false := by
  simp only [attachments, List.mem_append, List.mem_map] at h
  rcases h with (⟨_, -, rfl⟩ | ⟨_, -, rfl⟩) | ⟨_, -, rfl⟩ <;> rfl

theorem isFinal_of_mem_oldVersions {versions : List Iam.VersionSummary} {target : Target}
    (h : target ∈ oldVersions policy versions) : target.removal.isFinal = false := by
  obtain ⟨_, -, rfl⟩ := List.mem_map.1 h
  rfl

theorem spares_leavePolicy (part reason : String) (failure : ServiceError) :
    Spares session deletion (leavePolicy site policy part reason failure) :=
  (spares_note _).bind fun _ => (spares_note _).bind fun _ => spares_done _

/-- The removal of a policy spares all other deletions. -/
theorem spares_removePolicy (settings : ReclaimSettings) (kept : List String)
    (hfinal : deletion.isFinal = true) (hother : .deletePolicy policy.arn ≠ deletion) :
    Spares session deletion (removePolicy site settings kept policy) := by
  refine (spares_query _ _).bind fun reply => ?_
  cases reply with
  | error failure => exact spares_leavePolicy _ _ _
  | ok entities =>
    dsimp only
    split
    · exact spares_note _
    refine (spares_attempts fun target htarget =>
      Removal.ne_of_isFinal (isFinal_of_mem_attachments htarget) hfinal).bind fun _ =>
        Spares.bind ?_ fun _ => spares_done _
    refine (spares_query _ _).bind fun reply => ?_
    cases reply with
    | error failure => exact spares_leavePolicy _ _ _
    | ok versions =>
      exact (spares_attempts fun target htarget =>
        Removal.ne_of_isFinal (isFinal_of_mem_oldVersions htarget) hfinal).bind fun _ =>
          (spares_attempt hother).bind fun _ => spares_done _

/-- A policy is deleted only after its attachments and its versions were listed. -/
theorem foresees_removePolicy (settings : ReclaimSettings) (kept : List String)
    (policy : PolicySummary) (hquery : query ∈ deletion.listings) :
    Foresees site.session query deletion (removePolicy site settings kept policy) := by
  by_cases hother : .deletePolicy policy.arn = deletion
  swap
  · exact (spares_removePolicy settings kept (Removal.isFinal_of_mem_listings hquery)
      hother).foresees
  subst hother
  simp only [Removal.listings, List.mem_cons, List.not_mem_nil, or_false] at hquery
  rcases hquery with rfl | rfl
  · exact foresees_listing fun failure => spares_leavePolicy _ _ _
  refine (spares_query _ _).foresees.bind fun reply => ?_
  cases reply with
  | error failure => exact (spares_leavePolicy _ _ _).foresees
  | ok entities =>
    dsimp only
    split
    · exact (spares_note _).foresees
    · refine (spares_attempts fun target htarget =>
        Removal.ne_of_isFinal (isFinal_of_mem_attachments htarget) rfl).foresees.bind fun _ =>
          Foresees.bind ?_ fun _ => (spares_done _).foresees
      exact foresees_listing fun failure => spares_leavePolicy _ _ _

/-! ## The whole account -/

/-- The listing of the whole account makes no deletion, so only what is done with its answer
counts. -/
theorem foresees_all {all : Query} {f : Except ServiceError all.Answer → Engine α}
    (herror : ∀ failure, Spares site.session deletion (f (.error failure)))
    (hok : ∀ answer, Foresees site.session query deletion (f (.ok answer))) :
    Foresees site.session query deletion ((Engine.iam site.session (.query all)).bind f) := by
  refine (spares_query _ _).foresees.bind fun reply => ?_
  cases reply with
  | error failure => exact (herror failure).foresees
  | ok answer => exact hok answer

/-- A clearing makes each deletion only after all the listings that it needs were answered. -/
theorem foresees_clear (site : Site) (settings : ReclaimSettings)
    (hquery : query ∈ deletion.listings) :
    Foresees site.session query deletion (clear site settings) := by
  refine Foresees.bind ?_ fun (_, kept) => Foresees.bind ?_ fun _ => Foresees.bind ?_ fun _ =>
    (spares_done _).foresees
  · refine foresees_all (fun failure => (spares_note _).bind fun _ => spares_done _) fun roles => ?_
    refine Foresees.bind (foresees_forEach fun role => ?_) fun _ => (spares_done _).foresees
    split
    · exact Spares.foresees ⟨Call.noConfusion, fun _ => trivial⟩
    · exact foresees_removeRole _ hquery
  · exact foresees_all (fun failure => spares_note _) fun policies =>
      foresees_forEach fun policy => foresees_removePolicy settings kept policy hquery
  · exact foresees_all (fun failure => spares_note _) fun users =>
      foresees_forEach fun user => foresees_removeUser user hquery

end Lending

end AccountLending
