import AccountLending.Client
import AccountLending.Host.Desk
import AccountLending.Proofs.Dict
import AccountLending.Proofs.Uses

/-!
# Listings over all their pages

A service that answers a listing gives a chain of pages.  The first one comes for a request without
a marker, and every page that is not the last one carries the marker for the next one.  The chain
ends with a last page, or with a fault where a page was wanted.  Which page is the last one differs
from service to service, and nothing is said about how many pages there are, how many items they
have, or what marker the last one carries.

Following a listing requests every page of such a chain once, in order, and nothing else.  What it
returns is what the items of all pages describe, page after page, without those that lack a field
which is needed; and a fault anywhere leaves no answer but the fault.

* `Client.Listing` — the listings that come in pages, with their last pages;
* `Client.Yields`, `Client.Listing.Lists` — what a listing should return that finds some pages;
* `Client.Chain` — the pages that a service gives, one after the other;
* `Client.Chain.nodup_markers` — no page of a chain comes twice;
* `Client.answer_listing` — how a listing is answered by a service that gives a chain of pages.
-/

namespace AccountLending

namespace Client

open Wire (Page)

/-! ## Listings -/

/-- A request that is answered page by page. -/
inductive Listing
  /-- The accounts directly under a unit. -/
  | accounts (parent : String)
  | tags (account : String)
  /-- Everything that carries a tag of a value. -/
  | resources (key value : String)
  /-- What an account's IAM lists. -/
  | iam (session : Option Session) (query : Iam.Query)

namespace Listing

/-- The request of a listing. -/
@[reducible] def request : Listing → Cloud.Request
  | .accounts parent => .organization (.listAccounts parent)
  | .tags account => .organization (.listTags account)
  | .resources key value => .organization (.findResources key value)
  | .iam session query => .iam session (.query query)

/-- The items on the pages of a listing. -/
@[reducible] def Item : Listing → Type
  | .accounts _ => Wire.AccountItem
  | .tags _ => String × String
  | .resources .. => Option String
  | .iam _ query => query.Item

/-- A page, or a fault in its place, as the reply to the request that it comes for. -/
def reply : (listing : Listing) → Except Fault (Page listing.Item) →
    Except Fault (Wire.Output listing.request)
  | .accounts _, page | .tags _, page | .resources .., page | .iam .., page => page

/-- The service that answers a listing. -/
def service : Listing → Service
  | .accounts _ | .tags _ => .organizations
  | .resources .. => .tagging
  | .iam .. => .iam

/-- Whether a page is the last one of a listing: one without a marker, and in the search by tag also
one with an empty marker; from the IAM, one that is not marked as truncated, whatever marker it
carries. -/
def IsLast : (listing : Listing) → Page listing.Item → Prop
  | .accounts _, page | .tags _, page => page.marker = none
  | .resources .., page => page.marker = none ∨ page.marker = some ""
  | .iam .., page => page.truncated = false

end Listing

/-! ## What a listing should return -/

/-- What the items of a list describe, in order.  An item that describes nothing is passed over. -/
inductive Yields {ι α : Type} (describes : ι → α → Prop) : List ι → List α → Prop
  | nil : Yields describes [] []
  | pass {item : ι} {items : List ι} {found : List α} (nothing : ∀ a, ¬describes item a)
      (rest : Yields describes items found) : Yields describes (item :: items) found
  | take {item : ι} {a : α} {items : List ι} {found : List α} (described : describes item a)
      (rest : Yields describes items found) : Yields describes (item :: items) (a :: found)

/-- Reading item by item yields what the items describe. -/
theorem yields_filterMap {ι α : Type} {describes : ι → α → Prop} {read : ι → Option α}
    (hread : ∀ item a, read item = some a ↔ describes item a) (items : List ι) :
    Yields describes items (items.filterMap read) := by
  induction items with
  | nil => exact .nil
  | cons item rest ih =>
    cases hitem : read item with
    | none =>
      rw [List.filterMap_cons_none hitem]
      refine .pass (fun a ha => ?_) ih
      rw [(hread item a).2 ha] at hitem
      exact Option.some_ne_none a hitem
    | some a =>
      rw [List.filterMap_cons_some hitem]
      exact .take ((hread item a).1 hitem) ih

/-- Only one list is what the items describe, so this says all about what a listing returns. -/
theorem Yields.eq_filterMap {ι α : Type} {describes : ι → α → Prop} {read : ι → Option α}
    {items : List ι} {found : List α} (h : Yields describes items found)
    (hread : ∀ item a, read item = some a ↔ describes item a) : found = items.filterMap read := by
  induction h with
  | nil => rfl
  | pass nothing _ ih =>
    have hnone := Option.eq_none_iff_forall_ne_some.2 fun a ha => nothing a ((hread _ a).1 ha)
    rw [List.filterMap_cons_none hnone]
    exact ih
  | take described _ ih => rw [List.filterMap_cons_some ((hread _ _).2 described), ← ih]

/-- An item describes a policy when it has both of its names. -/
def DescribesPolicy (item : Wire.PolicyItem) (policy : Iam.PolicySummary) : Prop :=
  item.name = some policy.name ∧ item.arn = some policy.arn

/-- An item describes a version when it has its number. -/
def DescribesVersion (item : Wire.VersionItem) (version : Iam.VersionSummary) : Prop :=
  item.id = some version.id ∧ item.isDefault = version.isDefault

/-- An item describes an account when it has its number.  Name and address may be missing, and so
may the status, which is then unknown. -/
structure DescribesAccount (item : Wire.AccountItem) (account : Account) : Prop where
  id : item.id = some account.id
  name : item.name = account.name
  email : item.email = account.email
  given : ∀ text, item.status = some text → account.status = .ofWire text
  unset : item.status = none → account.status = .unknown "UNSET"

theorem policy?_eq_some_iff (item : Wire.PolicyItem) (policy : Iam.PolicySummary) :
    item.policy? = some policy ↔ DescribesPolicy item policy := by
  obtain ⟨name, arn⟩ := item
  obtain ⟨name', arn'⟩ := policy
  cases name <;> cases arn <;> simp [Wire.PolicyItem.policy?, DescribesPolicy]

theorem version?_eq_some_iff (item : Wire.VersionItem) (version : Iam.VersionSummary) :
    item.version? = some version ↔ DescribesVersion item version := by
  obtain ⟨id, isDefault⟩ := item
  obtain ⟨id', isDefault'⟩ := version
  cases id <;> simp [Wire.VersionItem.version?, DescribesVersion]

theorem account?_eq_some_iff (item : Wire.AccountItem) (account : Account) :
    item.account? = some account ↔ DescribesAccount item account := by
  constructor
  · intro h
    obtain ⟨id, hid, rfl⟩ := Option.map_eq_some_iff.1 h
    exact ⟨hid, rfl, rfl, fun text htext => by simp [htext], fun hnone => by simp [hnone]⟩
  · rintro ⟨hid, hname, hemail, hgiven, hunset⟩
    have hstatus :
        (item.status.map AccountStatus.ofWire).getD (.unknown "UNSET") = account.status := by
      cases htext : item.status with
      | none => exact (hunset htext).symm
      | some text => exact (hgiven text htext).symm
    rw [Wire.AccountItem.account?, hid, Option.map_some, hname, hemail, hstatus]

/-- What an IAM listing should return that finds these pages.  The principals of a policy are told
apart by their kinds. -/
def ListsIam : (query : Iam.Query) → List (Page query.Item) → query.Answer → Prop
  | .rolePolicies _, pages, found | .localPolicies, pages, found | .userPolicies _, pages, found =>
    Yields DescribesPolicy (pages.flatMap Page.items) found
  | .policyEntities _, pages, found =>
    Yields (fun item name => item = .user (some name)) (pages.flatMap Page.items) found.users ∧
      Yields (fun item name => item = .group (some name)) (pages.flatMap Page.items) found.groups ∧
      Yields (fun item name => item = .role (some name)) (pages.flatMap Page.items) found.roles
  | .policyVersions _, pages, found => Yields DescribesVersion (pages.flatMap Page.items) found
  | .accessKeys _, pages, found =>
    Yields (fun item name => item = some name) (pages.flatMap Page.items) found
  | .roles, pages, found | .roleInline _, pages, found | .users, pages, found
  | .certificates _, pages, found | .userInline _, pages, found | .userGroups _, pages, found =>
    found = pages.flatMap Page.items

/-- What a listing should return that finds these pages: what their items describe, page after page.
Of two tags with one name the later one stays. -/
def Listing.Lists : (listing : Listing) → List (Page listing.Item) → listing.request.Answer → Prop
  | .accounts _, pages, found => Yields DescribesAccount (pages.flatMap Page.items) found
  | .tags _, pages, found => ∀ key, found.get? key = (pages.flatMap Page.items).reverse.lookup key
  | .resources .., pages, found =>
    Yields (fun item name => item = some name) (pages.flatMap Page.items) found
  | .iam _ query, pages, found => ListsIam query pages found

/-! ## Chains of pages -/

section Chain

variable {α : Type} {isLast : Page α → Prop} {service : Option String → Except Fault (Page α)}
  {marker : Option String} {markers : List String} {pages : List (Page α)} {fault : Option Fault}

/-- What a service gives, beginning with the page for one marker: the markers of the pages after
that one, the pages, and the fault that comes instead of a page, if one does. -/
inductive Chain (isLast : Page α → Prop) (service : Option String → Except Fault (Page α)) :
    Option String → List String → List (Page α) → Option Fault → Prop
  | last {marker : Option String} {page : Page α} (answered : service marker = .ok page)
      (ends : isLast page) : Chain isLast service marker [] [page] none
  | fault {marker : Option String} {fault : Fault} (answered : service marker = .error fault) :
      Chain isLast service marker [] [] (some fault)
  | next {marker : Option String} {page : Page α} {following : String} {markers : List String}
      {pages : List (Page α)} {fault : Option Fault} (answered : service marker = .ok page)
      (goesOn : ¬isLast page) (carries : page.marker = some following)
      (rest : Chain isLast service (some following) markers pages fault) :
      Chain isLast service marker (following :: markers) (page :: pages) fault

/-- A service gives one chain for a marker. -/
theorem Chain.markers_eq (h : Chain isLast service marker markers pages fault)
    {markers' : List String} {pages' : List (Page α)} {fault' : Option Fault}
    (h' : Chain isLast service marker markers' pages' fault') : markers = markers' := by
  induction h generalizing markers' pages' fault' with
  | last answered ends =>
    cases h' with
    | last => rfl
    | fault answered' => cases answered.symm.trans answered'
    | next answered' goesOn' =>
      cases answered.symm.trans answered'
      exact absurd ends goesOn'
  | fault answered =>
    cases h' with
    | last answered' => cases answered.symm.trans answered'
    | fault => rfl
    | next answered' => cases answered.symm.trans answered'
  | next answered goesOn carries _ ih =>
    cases h' with
    | last answered' ends' =>
      cases answered.symm.trans answered'
      exact absurd ends' goesOn
    | fault answered' => cases answered.symm.trans answered'
    | next answered' _ carries' rest' =>
      cases answered.symm.trans answered'
      cases carries.symm.trans carries'
      exact congrArg _ (ih rest')

/-- From every marker of a chain on, the rest of it is a chain. -/
theorem Chain.from_mem (h : Chain isLast service marker markers pages fault) {later : Option String}
    (hlater : later ∈ marker :: markers.map some) :
    ∃ markers' pages', Chain isLast service later markers' pages' fault ∧
      markers'.length ≤ markers.length := by
  induction h with
  | last answered ends =>
    cases List.mem_singleton.1 hlater
    exact ⟨_, _, .last answered ends, Nat.le_refl _⟩
  | fault answered =>
    cases List.mem_singleton.1 hlater
    exact ⟨_, _, .fault answered, Nat.le_refl _⟩
  | next answered goesOn carries rest ih =>
    rcases List.mem_cons.1 hlater with rfl | hlater
    · exact ⟨_, _, .next answered goesOn carries rest, Nat.le_refl _⟩
    · obtain ⟨markers', pages', hchain, hlength⟩ := ih hlater
      exact ⟨markers', pages', hchain, Nat.le_succ_of_le hlength⟩

/-- No marker comes twice in a chain: the chain from its second place on would be as long as the one
from its first place on. -/
theorem Chain.nodup_markers (h : Chain isLast service marker markers pages fault) :
    (marker :: markers.map some).Nodup := by
  induction h with
  | last | fault => exact List.nodup_singleton _
  | next answered goesOn carries rest ih =>
    refine List.nodup_cons.2 ⟨fun hagain => ?_, ih⟩
    obtain ⟨markers', pages', hchain, hlength⟩ := rest.from_mem hagain
    have hsame := (Chain.next answered goesOn carries rest).markers_eq hchain
    rw [← hsame, List.length_cons] at hlength
    omega

end Chain

/-! ## Following a chain -/

/-- The request that a call sends. -/
def Call.sent? : Call → Option Wire.Request
  | .send request => some request
  | .host _ => none

section Following

variable {σ α β : Type} {handle : (call : Call) → σ → call.Reply × σ} {request : Cloud.Request}
  {page : Option String → Client (Except Fault (Page α))} {next : Continuation α}
  {isLast : Page α → Prop} {service : Option String → Except Fault (Page α)}
  {marker : Option String} {markers : List String} {pages : List (Page α)} {fault : Option Fault}

/-- A program gets the pages of a listing: it sends the request with a marker, and nothing else, and
returns what the service gives. -/
structure Gets (handle : (call : Call) → σ → call.Reply × σ) (request : Cloud.Request)
    (page : Option String → Client (Except Fault (Page α)))
    (service : Option String → Except Fault (Page α)) : Prop where
  run : ∀ marker s, ((page marker).run handle s).1 = service marker
  trace : ∀ marker s, (page marker).trace handle s = [.send ⟨request, marker⟩]

/-- A listing goes on after the pages that are not the last one, with the marker that they carry. -/
structure EndsAt (next : Continuation α) (isLast : Page α → Prop) : Prop where
  last : ∀ page, isLast page → next page = none
  goesOn : ∀ page following, ¬isLast page → page.marker = some following →
    next page = some (some following)

/-- What a listing that followed a chain has collected. -/
def collected (pages : List (Page α)) : Option Fault → Except Fault (List α)
  | none => .ok (pages.flatMap Page.items)
  | some fault => .error fault

theorem collected_cons (page : Page α) (pages : List (Page α)) (fault : Option Fault) :
    collected (page :: pages) fault = (collected pages fault).map (page.items ++ ·) := by
  cases fault <;> rfl

theorem run_collect (hpage : Gets handle request page service) (hnext : EndsAt next isLast)
    (h : Chain isLast service marker markers pages fault) {limit : Nat}
    (hlimit : markers.length < limit) (s : σ) :
    ((collect page next limit marker).run handle s).1 =
      (collected pages fault).mapError .fault := by
  induction h generalizing limit s with
  | last answered ends =>
    obtain ⟨limit, rfl⟩ := Nat.exists_eq_add_of_lt hlimit
    simp [collect, Program.run_bind, hpage.run, answered, hnext.last _ ends, collected]
  | fault answered =>
    obtain ⟨limit, rfl⟩ := Nat.exists_eq_add_of_lt hlimit
    simp [collect, Program.run_bind, hpage.run, answered, collected]
  | @next marker found following markers pages fault answered goesOn carries _ ih =>
    cases limit with
    | zero => omega
    | succ limit =>
      have hrest := ih (Nat.lt_of_succ_lt_succ hlimit) ((page marker).run handle s).2
      simp only [collect, Program.bind_eq, Program.run_bind, hpage.run, answered,
        hnext.goesOn _ _ goesOn carries, hrest, collected_cons]
      cases collected pages fault <;> rfl

theorem trace_collect (hpage : Gets handle request page service) (hnext : EndsAt next isLast)
    (h : Chain isLast service marker markers pages fault) {limit : Nat}
    (hlimit : markers.length < limit) (s : σ) :
    (collect page next limit marker).trace handle s =
      (marker :: markers.map some).map fun marker => .send ⟨request, marker⟩ := by
  induction h generalizing limit s with
  | last answered ends =>
    obtain ⟨limit, rfl⟩ := Nat.exists_eq_add_of_lt hlimit
    simp [collect, Program.trace_bind, hpage.run, hpage.trace, answered, hnext.last _ ends,
      Program.trace]
  | fault answered =>
    obtain ⟨limit, rfl⟩ := Nat.exists_eq_add_of_lt hlimit
    simp [collect, Program.trace_bind, hpage.run, hpage.trace, answered, Program.trace]
  | @next marker found following markers pages fault answered goesOn carries _ ih =>
    cases limit with
    | zero => omega
    | succ limit =>
      have hrest := ih (Nat.lt_of_succ_lt_succ hlimit) ((page marker).run handle s).2
      simp only [collect, Program.bind_eq, Program.trace_bind, hpage.run, hpage.trace, answered,
        hnext.goesOn _ _ goesOn carries, hrest, Program.pure_eq_done, Program.trace,
        List.append_nil]
      rfl

theorem run_list (hpage : Gets handle request page service) (hnext : EndsAt next isLast)
    (h : Chain isLast service none markers pages fault) {limit : Nat}
    (hlimit : markers.length < limit) (gather : List α → β) (s : σ) :
    ((list limit request page next gather).run handle s).1 =
      ((collected pages fault).map gather).mapError (failure request) := by
  have hcollect := run_collect hpage hnext h hlimit s
  simp only [list, Program.bind_eq, Program.run_bind, hcollect]
  cases fault <;> rfl

theorem trace_list (hpage : Gets handle request page service) (hnext : EndsAt next isLast)
    (h : Chain isLast service none markers pages fault) {limit : Nat}
    (hlimit : markers.length < limit) (gather : List α → β) (s : σ) :
    (list limit request page next gather).trace handle s =
      (none :: markers.map some).map fun marker => .send ⟨request, marker⟩ := by
  have hcollect := run_collect hpage hnext h hlimit s
  simp only [list, Program.bind_eq, Program.trace_bind, hcollect,
    trace_collect hpage hnext h hlimit s]
  cases fault <;> exact List.append_nil _

end Following

/-! ## Each listing -/

theorem endsAt_whileMarked {α : Type} :
    EndsAt (@whileMarked α) fun page => page.marker = none where
  last page hlast := by simp [whileMarked, hlast]
  goesOn page following _ hmarker := by simp [whileMarked, hmarker]

theorem endsAt_whileMarkedByText {α : Type} :
    EndsAt (@whileMarkedByText α) fun page => page.marker = none ∨ page.marker = some "" where
  last page hlast := by
    rcases hlast with hlast | hlast <;> simp [whileMarkedByText, hlast]
  goesOn page following hlast hmarker := by
    have hne : following ≠ "" := fun hempty => hlast (.inr (hempty ▸ hmarker))
    simp [whileMarkedByText, hmarker, hne]

theorem endsAt_whileTruncated {α : Type} :
    EndsAt (@whileTruncated α) fun page => page.truncated = false where
  last page hlast := by simp [whileTruncated, hlast]
  goesOn page following hlast hmarker := by simp [whileTruncated, hlast, hmarker]

namespace Listing

/-- Get the page of a listing with a marker. -/
def page : (listing : Listing) → Option String → Client (Except Fault (Page listing.Item))
  | .accounts parent => send (.organization (.listAccounts parent))
  | .tags account => send (.organization (.listTags account))
  | .resources key value => send (.organization (.findResources key value))
  | .iam session query => send (.iam session (.query query))

/-- Where a listing goes on after a page. -/
def next : (listing : Listing) → Continuation listing.Item
  | .accounts _ | .tags _ => whileMarked
  | .resources .. => whileMarkedByText
  | .iam .. => whileTruncated

theorem gets {σ : Type} {handle : (call : Call) → σ → call.Reply × σ} (listing : Listing)
    {service : Option String → Except Fault (Page listing.Item)}
    (hservice : ∀ marker s,
      (handle (.send ⟨listing.request, marker⟩) s).1 = listing.reply (service marker)) :
    Gets handle listing.request listing.page service := by
  cases listing <;> exact ⟨hservice, fun _ _ => rfl⟩

theorem endsAt (listing : Listing) : EndsAt listing.next listing.IsLast := by
  cases listing with
  | accounts _ | tags _ => exact endsAt_whileMarked
  | resources _ _ => exact endsAt_whileMarkedByText
  | iam _ _ => exact endsAt_whileTruncated

/-- What a listing makes of the items of all pages together. -/
def gather : (listing : Listing) → List listing.Item → listing.request.Answer
  | .accounts _, items => Wire.accounts items
  | .tags _, items => Wire.tags items
  | .resources .., items => List.filterMap id items
  | .iam _ query, items => query.gather items

theorem listsIam_gather (query : Iam.Query) (pages : List (Page query.Item)) :
    ListsIam query pages (query.gather (pages.flatMap Page.items)) := by
  cases query with
  | rolePolicies _ | localPolicies | userPolicies _ => exact yields_filterMap policy?_eq_some_iff _
  | policyEntities arn =>
    refine ⟨yields_filterMap ?_ _, yields_filterMap ?_ _, yields_filterMap ?_ _⟩ <;>
      rintro (_ | _ | _) name <;>
      simp [Wire.EntityItem.user?, Wire.EntityItem.group?, Wire.EntityItem.role?]
  | policyVersions arn => exact yields_filterMap version?_eq_some_iff _
  | accessKeys user => exact yields_filterMap (fun _ _ => Iff.rfl) _
  | roles | roleInline _ | users | certificates _ | userInline _ | userGroups _ => rfl

/-- A listing returns what it should when it makes its answer of the items of all pages. -/
theorem lists_gather (listing : Listing) (pages : List (Page listing.Item)) :
    listing.Lists pages (listing.gather (pages.flatMap Page.items)) := by
  cases listing with
  | accounts parent => exact yields_filterMap account?_eq_some_iff _
  | tags account => exact Dict.get?_ofList _
  | resources key value => exact yields_filterMap (fun _ _ => Iff.rfl) _
  | iam session query => exact listsIam_gather query pages

/-- How a listing is answered when its service gives a chain of pages. -/
structure IsAnswered (listing : Listing) (markers : List String) (pages : List (Page listing.Item))
    (fault : Option Fault) (sent : List Wire.Request)
    (result : Except ServiceError listing.request.Answer) : Prop where
  /-- The first request carries no marker, and every other one the marker of the page before it. -/
  asks : sent = (none :: markers.map some).map fun marker => ⟨listing.request, marker⟩
  once : sent.Nodup
  /-- With no fault there is an answer, and it has what is on all of the pages. -/
  finds : fault = none → ∃ found, result = .ok found ∧ listing.Lists pages found
  /-- A fault on any page fails the listing, whatever the pages before it have. -/
  fails : ∀ reported, fault = some reported →
    result = .error ⟨listing.service, reasonOf listing.request reported⟩

theorem failure_eq (listing : Listing) (fault : Fault) :
    failure listing.request fault = ⟨listing.service, reasonOf listing.request fault⟩ := by
  cases listing <;> rfl

theorem isAnswered_of {listing : Listing}
    {service : Option String → Except Fault (Page listing.Item)}
    {markers : List String} {pages : List (Page listing.Item)} {fault : Option Fault}
    (h : Chain listing.IsLast service none markers pages fault) {sent : List Wire.Request}
    {result : Except ServiceError listing.request.Answer}
    (hsent : sent = (none :: markers.map some).map fun marker => ⟨listing.request, marker⟩)
    (hresult : result =
      ((collected pages fault).map listing.gather).mapError (failure listing.request)) :
    listing.IsAnswered markers pages fault sent result where
  asks := hsent
  once := by
    rw [hsent]
    exact h.nodup_markers.map fun marker marker' heq => congrArg Wire.Request.marker heq
  finds hnone := by
    subst hnone
    exact ⟨_, hresult, listing.lists_gather pages⟩
  fails reported hsome := by
    subst hsome
    rw [hresult, ← failure_eq]
    rfl

end Listing

/-! ## The answers -/

section

variable {σ : Type} {handle : (call : Call) → σ → call.Reply × σ} {listing : Listing}
  {service : Option String → Except Fault (Page listing.Item)} {markers : List String}
  {pages : List (Page listing.Item)} {fault : Option Fault} {limit : Nat}

theorem filterMap_sent? (request : Cloud.Request) (markers : List (Option String)) :
    (markers.map fun marker => Call.send ⟨request, marker⟩).filterMap Call.sent? =
      markers.map fun marker => ⟨request, marker⟩ := by
  rw [List.filterMap_map]
  exact congrFun List.filterMap_eq_map markers

/-- The listing of all pages, before anything is said about it in the log. -/
def Listing.follow (limit : Nat) (listing : Listing) :
    Client (Except ServiceError listing.request.Answer) :=
  list limit listing.request listing.page listing.next listing.gather

theorem Listing.isAnswered_follow
    (hservice : ∀ marker s,
      (handle (.send ⟨listing.request, marker⟩) s).1 = listing.reply (service marker))
    (h : Chain listing.IsLast service none markers pages fault)
    (hlimit : markers.length < limit) (s : σ) :
    listing.IsAnswered markers pages fault
      (((listing.follow limit).trace handle s).filterMap Call.sent?)
      ((listing.follow limit).run handle s).1 := by
  have hgets := listing.gets hservice
  refine isAnswered_of h ?_ (run_list hgets listing.endsAt h hlimit listing.gather s)
  rw [← filterMap_sent?]
  exact congrArg _ (trace_list hgets listing.endsAt h hlimit listing.gather s)

/-- What is logged after the accounts of a unit have been listed changes neither the answer nor what
has been sent. -/
theorem Listing.answer_accounts (handle : (call : Call) → σ → call.Reply × σ) (limit : Nat)
    (parent : String) (s : σ) :
    ((answer limit (Listing.accounts parent).request).run handle s).1 =
        (((Listing.accounts parent).follow limit).run handle s).1 ∧
      ((answer limit (Listing.accounts parent).request).trace handle s).filterMap Call.sent? =
        (((Listing.accounts parent).follow limit).trace handle s).filterMap Call.sent? := by
  have hfollow : (Listing.accounts parent).follow limit =
      list limit (.organization (.listAccounts parent))
        (send (.organization (.listAccounts parent)))
        whileMarked Wire.accounts := rfl
  simp only [hfollow, answer, organization, Program.bind_eq, Program.run_bind, Program.trace_bind,
    List.filterMap_append]
  generalize Program.run handle (list limit _ _ whileMarked Wire.accounts) s = listed
  obtain ⟨result, after⟩ := listed
  cases result with
  | error error => exact ⟨rfl, List.append_nil _⟩
  | ok accounts => exact ⟨rfl, List.append_nil _⟩

/-- A listing is answered by all pages of its chain, each of which is requested once, or by the
fault that ends the chain.  Any limit will do that the requests for the chain stay within. -/
theorem answer_listing (listing : Listing)
    {service : Option String → Except Fault (Page listing.Item)} (hservice : ∀ marker s,
      (handle (.send ⟨listing.request, marker⟩) s).1 = listing.reply (service marker))
    {markers : List String} {pages : List (Page listing.Item)} {fault : Option Fault}
    (h : Chain listing.IsLast service none markers pages fault) {limit : Nat}
    (hlimit : markers.length < limit) (s : σ) :
    listing.IsAnswered markers pages fault
      (((answer limit listing.request).trace handle s).filterMap Call.sent?)
      ((answer limit listing.request).run handle s).1 := by
  have hfollow := Listing.isAnswered_follow hservice h hlimit s
  cases listing with
  | accounts parent =>
    obtain ⟨hrun, htrace⟩ := Listing.answer_accounts handle limit parent s
    rw [hrun, htrace]
    exact hfollow
  | tags account => exact hfollow
  | resources key value => exact hfollow
  | iam session query => exact hfollow

end

/-- The accounts of a unit on two pages.  One of them has no number, and one no status. -/
def accountsOnTwoPages : Option String → Except Fault (Page Wire.AccountItem)
  | none => .ok {
      items := [{ id := some "111111111111", status := some "ACTIVE" }, { id := none }]
      marker := some "second" }
  | some "second" => .ok { items := [{ id := some "222222222222" }] }
  | some _ => .error ⟨"InvalidInputException", "the token is not known"⟩

/-- A service that lists these accounts, and a host in memory. -/
def serveTwoPages : (call : Call) → Host → call.Reply × Host
  | .send ⟨.organization (.listAccounts _), marker⟩, host => (accountsOnTwoPages marker, host)
  | .send _, host => (.error ⟨"ServiceException", "only accounts are listed"⟩, host)
  | .host request, host => Host.serve request host

theorem answer_listing_accounts :
    ∃ pages,
      (∀ marker host,
        (serveTwoPages (.send ⟨(Listing.accounts "ou-pool").request, marker⟩) host).1 =
          (Listing.accounts "ou-pool").reply (accountsOnTwoPages marker)) ∧
      Chain (Listing.accounts "ou-pool").IsLast accountsOnTwoPages none ["second"] pages none ∧
      ["second"].length < 2 ∧
      ((answer 2 (Listing.accounts "ou-pool").request).trace serveTwoPages {}).filterMap
        Call.sent? = [⟨(Listing.accounts "ou-pool").request, none⟩,
          ⟨(Listing.accounts "ou-pool").request, some "second"⟩] ∧
      ((answer 2 (Listing.accounts "ou-pool").request).run serveTwoPages {}).1 =
        .ok [{ id := "111111111111", status := .active },
          { id := "222222222222", status := .unknown "UNSET" }] := by
  have hserves : ∀ marker host,
      (serveTwoPages (.send ⟨(Listing.accounts "ou-pool").request, marker⟩) host).1 =
        (Listing.accounts "ou-pool").reply (accountsOnTwoPages marker) := fun _ _ => rfl
  have hchain :
      Chain (Listing.accounts "ou-pool").IsLast accountsOnTwoPages none ["second"] _ none :=
    .next rfl (by simp [Listing.IsLast]) rfl (.last rfl rfl)
  have hanswered := answer_listing (.accounts "ou-pool") hserves hchain (by decide : _ < 2) {}
  obtain ⟨found, hrun, hfound⟩ := hanswered.finds rfl
  refine ⟨_, hserves, hchain, by decide, hanswered.asks, hrun.trans (congrArg _ ?_)⟩
  rw [hfound.eq_filterMap account?_eq_some_iff]
  decide

end Client

end AccountLending
