import AccountLending.Engine
import AccountLending.Wire.Page

/-!
# Answering requests by sending them

A request to the cloud is answered by sending it to its service, a listing page by page until the
last one.  Which page is the last one depends on the service: the IAM marks a page that is not the
last one as truncated, the organization gives the marker of the next page, and the search by tag
gives a marker that is not empty.  A fault on any page is a failure of the whole listing.

Listings are followed for a limited number of pages, since a program is a finite tree.

* `Client.collect` — all items of a listing;
* `Client.answer` — how each request is answered;
* `Client.connected` — a program over the cloud as a program over what is sent.
-/

namespace AccountLending

namespace Client

/-- A call of a program that sends its requests. -/
inductive Call
  | send (request : Wire.Request)
  | host (request : Host.Request)
  deriving DecidableEq

/-- How a call is answered. -/
@[reducible] def Call.Reply : Call → Type
  | .send request => Except Fault (Wire.Output request.request)
  | .host request => request.Answer

end Client

/-- A program that sends its requests. -/
abbrev Client := Program Client.Call Client.Call.Reply

namespace Client

/-- Make one call. -/
def perform (call : Call) : Client call.Reply := .call call .done

/-- Send a request for the page with a marker. -/
def send (request : Cloud.Request) (marker : Option String) :
    Client (Except Fault (Wire.Output request)) :=
  perform (.send ⟨request, marker⟩)

/-- Write a line to the log. -/
def log (level : Log.Level) (message : String) : Client Unit :=
  perform (.host (.log ⟨level, message⟩))

/-! ## Pages -/

/-- Where a listing goes on after a page: with the request for the next page, which carries a marker
or none, or nowhere. -/
abbrev Continuation (α : Type) := Wire.Page α → Option (Option String)

/-- A page that is not marked as truncated is the last one, even when it carries a marker. -/
def whileTruncated {α : Type} : Continuation α := fun page =>
  if page.truncated then some page.marker else none

/-- A page without a marker is the last one. -/
def whileMarked {α : Type} : Continuation α := fun page => page.marker.map some

/-- A page without a marker, or with an empty one, is the last one. -/
def whileMarkedByText {α : Type} : Continuation α := fun page =>
  (page.marker.filter (· ≠ "")).map some

/-- Why a listing has no answer. -/
inductive Stop
  | fault (fault : Fault)
  /-- There were more pages than the limit. -/
  | endless
  deriving DecidableEq, Repr

/-- The items of at most so many pages, from the one with a marker on. -/
def collect {α : Type} (page : Option String → Client (Except Fault (Wire.Page α)))
    (next : Continuation α) : Nat → Option String → Client (Except Stop (List α))
  | 0, _ => return .error .endless
  | limit + 1, marker => do
    match ← page marker with
    | .error fault => return .error (.fault fault)
    | .ok found =>
      match next found with
      | none => return .ok found.items
      | some marker => return (← collect page next limit marker).map (found.items ++ ·)

/-! ## Failures -/

/-- The name of a request to an organization in error reports. -/
def command : Organization.Request → String
  | .listAccounts _ => "list-accounts-for-parent"
  | .parentOf _ => "list-parents"
  | .listTags _ => "list-tags-for-resource"
  | .tag .. => "tag-resource"
  | .untag .. => "untag-resource"
  | .move .. => "move-account"
  | .findResources .. => "get-resources"

/-- The service that answers a request. -/
def serviceOf : Cloud.Request → Service
  | .organization (.findResources ..) => .tagging
  | .organization _ => .organizations
  | .identity _ => .identity
  | .iam .. => .iam

/-- Why a request failed that was answered by a fault. -/
def reasonOf : Cloud.Request → Fault → ServiceError.Reason
  | .organization (.findResources key value), fault => .searchFault key value fault
  | .organization request, fault => .callFault (command request) request.target fault
  | .identity .caller, fault => .callerFault fault
  | .identity (.assumeRole arn ..), fault => .sessionFault arn fault
  | .iam _ request, fault => .requestFault request.action request.subject fault

/-- The failure of a request that was answered by a fault. -/
def failure (request : Cloud.Request) (fault : Fault) : ServiceError :=
  ⟨serviceOf request, reasonOf request fault⟩

/-- The failure of a listing that was stopped. -/
def stopped (request : Cloud.Request) (limit : Nat) : Stop → ServiceError
  | .fault fault => failure request fault
  | .endless => ⟨serviceOf request, .endless limit⟩

/-! ## Answers -/

/-- Send a request that is answered at once. -/
def submit {α : Type} (request : Cloud.Request)
    (read : Wire.Output request → Except ServiceError α) :
    Client (Except ServiceError α) := do
  match ← send request none with
  | .error fault => return .error (failure request fault)
  | .ok output => return read output

/-- Follow a listing to its last page. -/
def list {α β : Type} (limit : Nat) (request : Cloud.Request)
    (page : Option String → Client (Except Fault (Wire.Page α))) (next : Continuation α)
    (gather : List α → β) : Client (Except ServiceError β) := do
  match ← collect page next limit none with
  | .error stop => return .error (stopped request limit stop)
  | .ok items => return .ok (gather items)

/-- The moment when credentials expire, in words. -/
def expiryText (expiry : Time.Moment) : String :=
  "Some(SystemTime \x7b tv_sec: " ++ toString expiry.seconds ++ ", tv_nsec: "
    ++ toString expiry.nanoseconds ++ " \x7d)"

/-- The code of the fault that says that something does not exist. -/
def noSuchEntity : String := "NoSuchEntity"

/-- Answer a request to an organization. -/
def organization (limit : Nat) :
    (request : Organization.Request) → Client (Except ServiceError request.Answer)
  | .listAccounts parent => do
    let request := Cloud.Request.organization (.listAccounts parent)
    match ← list limit request (send request) whileMarked Wire.accounts with
    | .error error => return .error error
    | .ok accounts =>
      log .trace ("Listed " ++ toString accounts.length ++ " accounts under " ++ parent)
      return .ok accounts
  | .parentOf account =>
    submit (.organization (.parentOf account)) fun parents =>
      match parents.findSome? id with
      | some parent => .ok parent
      | none => .error ⟨.organizations, .noParent account⟩
  | .listTags account =>
    let request := Cloud.Request.organization (.listTags account)
    list limit request (send request) whileMarked Wire.tags
  | .tag account tags => submit (.organization (.tag account tags)) .ok
  | .untag account keys => submit (.organization (.untag account keys)) .ok
  | .move account source destination =>
    submit (.organization (.move account source destination)) .ok
  | .findResources key value =>
    let request := Cloud.Request.organization (.findResources key value)
    list limit request (send request) whileMarkedByText (List.filterMap id)

/-- Answer a request about the caller's identity. -/
def identity : (request : Identity.Request) → Client (Except ServiceError request.Answer)
  | .caller =>
    submit (.identity .caller) fun account =>
      match account with
      | some account => .ok account
      | none => .error ⟨.identity, .noCaller⟩
  | .assumeRole arn name seconds => do
    let request := Cloud.Request.identity (.assumeRole arn name seconds)
    match ← send request none with
    | .error fault => return .error (failure request fault)
    | .ok none => return .error ⟨.identity, .noCredentials arn⟩
    | .ok (some credentials) =>
      log .debug ("Assumed " ++ arn ++ " as session '" ++ name ++ "', expires "
        ++ expiryText credentials.expiry)
      return .ok credentials.session

/-- Answer a request to the IAM of an account.  A user without a login profile is no failure when
the profile is to be deleted. -/
def iam (limit : Nat) (session : Option Session) :
    (request : Iam.Request) → Client (Except ServiceError request.Answer)
  | .query query =>
    let request := Cloud.Request.iam session (.query query)
    list limit request (send request) whileTruncated query.gather
  | .remove removal => submit (.iam session (.remove removal)) .ok
  | .deleteLoginProfile user => do
    let request := Cloud.Request.iam session (.deleteLoginProfile user)
    match ← send request none with
    | .ok () => return .ok true
    | .error fault =>
      if fault.code = noSuchEntity then return .ok false
      else return .error (failure request fault)

/-- Answer a request, following listings for at most so many pages. -/
def answer (limit : Nat) : (request : Cloud.Request) → Client (Except ServiceError request.Answer)
  | .organization request => organization limit request
  | .identity request => identity request
  | .iam session request => iam limit session request

/-! ## Programs -/

/-- How each call of a program over the cloud is carried out. -/
def carryOut (limit : Nat) : (call : AccountLending.Call) → Client call.Reply
  | .cloud request => answer limit request
  | .host request => perform (.host request)

/-- A program over the cloud as a program over what is sent. -/
def connected {α : Type} (limit : Nat) (program : Engine α) : Client α :=
  program.substitute (carryOut limit)

end Client

end AccountLending
