import AccountLending.AccountId
import AccountLending.Journal
import AccountLending.Organization.Request
import AccountLending.ServiceError

/-!
# An organization in memory

The members of an organization in the order in which they joined, each with the unit that holds it
and its tags.  The index of tagged resources sees the members' tags at once, and further resources
besides, which may name members by tags that they no longer have.  A rival waits for the next tags
written to an account and then claims it for itself.

* `Organization.answer` — what each request returns and changes;
* `Organization.serve` — the same with a journal and registered failures.
-/

namespace AccountLending

/-- A member of an organization. -/
structure Member where
  account : Account
  parent : String
  tags : Tags := Dict.empty
  deriving DecidableEq, Repr, Inhabited

/-- A tagged resource. -/
structure Resource where
  arn : String
  tags : Tags
  deriving DecidableEq, Repr, Inhabited

/-- The members and resources of an organization. -/
structure Organization where
  members : List Member := []
  resources : List Resource := []
  /-- The rivals that wait for the next tags written to an account. -/
  rivals : Dict String := Dict.empty
  deriving DecidableEq, Repr, Inhabited

namespace Organization

/-! ## Members -/

/-- The first member of a number. -/
def find? (organization : Organization) (account : String) : Option Member :=
  organization.members.find? (·.account.id = account)

/-- Change the first member of a number. -/
def changeFirst (account : String) (f : Member → Member) : List Member → List Member
  | [] => []
  | member :: rest =>
    if member.account.id = account then f member :: rest
    else member :: changeFirst account f rest

/-- Change the member of a number. -/
def change (organization : Organization) (account : String) (f : Member → Member) : Organization :=
  { organization with members := changeFirst account f organization.members }

/-- The tags of an account; none when it is no member. -/
def tags (organization : Organization) (account : String) : Tags :=
  ((organization.find? account).map (·.tags)).getD Dict.empty

/-- The unit that holds an account. -/
def parent? (organization : Organization) (account : String) : Option String :=
  (organization.find? account).map (·.parent)

theorem find?_change (organization : Organization) (account other : String)
    (f : Member → Member) (h : ∀ member, (f member).account.id = member.account.id) :
    (organization.change account f).find? other =
      if other = account then (organization.find? other).map f else organization.find? other := by
  obtain ⟨members, resources, rivals⟩ := organization
  simp only [change, find?]
  induction members with
  | nil => simp [changeFirst]
  | cons member rest ih =>
    by_cases hm : member.account.id = account
    · by_cases ho : other = account
      · subst ho
        simp [changeFirst, hm, h]
      · have : ¬ account = other := fun e => ho e.symm
        simp [changeFirst, hm, h, ho, this]
    · by_cases hmo : member.account.id = other
      · have : ¬ other = account := fun e => hm (hmo.trans e)
        simp [changeFirst, hmo, this]
      · simpa [changeFirst, hm, hmo] using ih

/-! ## Setting up -/

/-- Add a member. -/
def addMember (organization : Organization) (member : Member) : Organization :=
  { organization with members := organization.members ++ [member] }

/-- Add a tagged resource. -/
def addResource (organization : Organization) (resource : Resource) : Organization :=
  { organization with resources := organization.resources ++ [resource] }

/-- Let a rival wait for the next tags written to an account. -/
def addRival (organization : Organization) (account owner : String) : Organization :=
  { organization with rivals := organization.rivals.insert account owner }

/-! ## Requests -/

/-- The tags of an account after tags are written to it, and a rival's claim after them. -/
def written (old new : Tags) (rival : Option String) : Tags :=
  let tags := old.insertAll new.entries
  match rival with
  | none => tags
  | some owner => tags.insertAll (Tags.ofClaim owner ("rival-" ++ owner)).entries

/-- The resource names of everything that carries a tag of a value: members first, then other
resources. -/
def resourcesWith (organization : Organization) (key value : String) : List String :=
  (organization.members.filter (·.tags.get? key = some value)).map
      (fun member => AccountId.arn member.account.id)
    ++ (organization.resources.filter (·.tags.get? key = some value)).map (·.arn)

/-- Answer from a member, which must exist. -/
def fromMember {α : Type} (organization : Organization) (account : String) (f : Member → α) :
    Except ServiceError.Reason α :=
  match organization.find? account with
  | none => .error (.noAccount account)
  | some member => .ok (f member)

/-- What a request returns, and the organization after it. -/
def answer (organization : Organization) :
    (request : Request) → Except ServiceError.Reason request.Answer × Organization
  | .listAccounts parent =>
    (.ok ((organization.members.filter (·.parent = parent)).map (·.account)), organization)
  | .parentOf account => (organization.fromMember account (·.parent), organization)
  | .listTags account => (organization.fromMember account (·.tags), organization)
  | .tag account tags =>
    -- a rival is used up even when there is no member to claim
    let rival := organization.rivals.get? account
    (organization.fromMember account fun _ => (),
      { organization with rivals := organization.rivals.erase account }.change account
        fun member => { member with tags := written member.tags tags rival })
  | .untag account keys =>
    (organization.fromMember account fun _ => (),
      organization.change account fun member => { member with tags := member.tags.eraseAll keys })
  | .move account source destination =>
    match organization.find? account with
    | none => (.error (.noAccount account), organization)
    | some member =>
      if member.parent = source then
        (.ok (), organization.change account fun member => { member with parent := destination })
      else (.error (.notUnder account source), organization)
  | .findResources key value => (.ok (organization.resourcesWith key value), organization)

/-- The failure of a request that is registered to fail.  The search by tag belongs to another
service, which passes the organization's failure on. -/
def refusal (request : Request) : ServiceError :=
  match request with
  | .findResources .. => ⟨.tagging, .relayed .organizations (.refused request.entry)⟩
  | _ => ⟨.organizations, .refused request.entry⟩

/-- Record a request and answer it, unless it is registered to fail. -/
def serve (request : Request) (service : Journaled Organization Request) :
    Except ServiceError request.Answer × Journaled Organization Request :=
  let recorded := service.record request
  if service.fails request.entry then (.error (refusal request), recorded)
  else
    let (reply, organization) := service.state.answer request
    (reply.mapError (ServiceError.mk .organizations), { recorded with state := organization })

/-- Every request is recorded, whatever becomes of it. -/
theorem calls_serve (request : Request) (service : Journaled Organization Request) :
    (serve request service).2.calls = service.calls ++ [request] := by
  unfold serve
  split <;> rfl

/-- A request that is registered to fail changes nothing. -/
theorem state_serve_of_fails {request : Request} {service : Journaled Organization Request}
    (h : service.fails request.entry = true) : (serve request service).2.state = service.state := by
  simp [serve, h]

end Organization

end AccountLending
