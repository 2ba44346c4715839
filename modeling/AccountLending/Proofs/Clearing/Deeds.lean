import AccountLending.Cloud.Services
import AccountLending.Host.Desk
import AccountLending.Lending.Clearing
import AccountLending.Proofs.Dict

/-!
# What a clearing does, deed by deed

A clearing only talks to the IAM of one account and to the log, so it can be run against that IAM
alone.  Its run is told as a list of deeds: each deed is at most one call and at most one entry of
the report.  Which calls are refused is fixed by the failures that are registered.

* `Leads` — what a program returns, which calls it makes and what becomes of the account;
* `Does` — the same of a program whose value is the entries of its deeds;
* `does_forEach` — something is done for each item of a list, as far as it is known what is left
  after each part of the list.
-/

namespace AccountLending.Lending

open Iam (Query Removal)

/-! ## Running against one account -/

/-- Answer the calls of a clearing from the IAM of its account; nothing else is there. -/
def alone : (call : Call) → Journaled Iam Iam.Request → call.Reply × Journaled Iam Iam.Request
  | .cloud (.iam _ request), service => Iam.serve request service
  | .cloud (.organization _), service => (.error default, service)
  | .cloud (.identity _), service => (.error default, service)
  | .host request, service => ((Host.serve request {}).1, service)

section

variable {α β : Type} (failing : NameSet)

/-- Whether a request is registered to fail. -/
def refused (request : Iam.Request) : Bool := failing.contains request.entry

/-- The reply to a request that is registered to fail. -/
def refusal (request : Iam.Request) : ServiceError := ⟨.iam, .refused request.entry⟩

/-- The value of a program, the requests that it makes, and the account after it. -/
def Leads (program : Engine α) (iam : Iam) (value : α) (calls : List Iam.Request)
    (after : Iam) : Prop :=
  ∀ before, program.run alone ⟨iam, before, failing⟩ = (value, ⟨after, before ++ calls, failing⟩)

variable {failing} {iam mid after : Iam}

theorem leads_done (value : α) : Leads failing (.done value) iam value [] iam := by
  intro before
  rw [Program.run_done, List.append_nil]

theorem Leads.bind {program : Engine α} {f : α → Engine β} {value : α} {result : β}
    {calls others : List Iam.Request} (hprogram : Leads failing program iam value calls mid)
    (hf : Leads failing (f value) mid result others after) :
    Leads failing (program.bind f) iam result (calls ++ others) after := by
  intro before
  rw [Program.run_bind, hprogram before, hf (before ++ calls), List.append_assoc]

/-- Two programs one after the other, with their requests in a given form. -/
theorem Leads.bind_of_eq {program : Engine α} {f : α → Engine β} {value : α} {result : β}
    {calls others all : List Iam.Request} (hprogram : Leads failing program iam value calls mid)
    (hf : Leads failing (f value) mid result others after) (hall : all = calls ++ others) :
    Leads failing (program.bind f) iam result all after :=
  hall ▸ hprogram.bind hf

theorem leads_log (level : Log.Level) (message : String) :
    Leads failing (Engine.log level message) iam () [] iam := by
  intro before
  rw [List.append_nil]
  rfl

theorem leads_note (site : Site) (artifact : Artifact) :
    Leads failing (note site artifact) iam [artifact] [] iam :=
  (leads_log _ _).bind (leads_done _)

theorem leads_iam_refused {session : Session} {request : Iam.Request}
    (h : refused failing request = true) :
    Leads failing (Engine.iam session request) iam (.error (refusal request)) [request] iam := by
  intro before
  show Iam.serve request ⟨iam, before, failing⟩ = _
  unfold Iam.serve
  exact if_pos h

theorem leads_iam (session : Session) (iam : Iam) {request : Iam.Request}
    (h : refused failing request = false) :
    Leads failing (Engine.iam session request) iam
      ((iam.respond request).1.mapError (ServiceError.mk .iam))
      [request] (iam.respond request).2 := by
  intro before
  show Iam.serve request ⟨iam, before, failing⟩ = _
  unfold Iam.serve
  exact if_neg (by rw [Journaled.fails, ← refused, h]; exact Bool.false_ne_true)

/-- A listing that is not refused returns what it lists, and changes nothing. -/
theorem leads_query {session : Session} {query : Query} {answer : query.Answer}
    (h : refused failing (.query query) = false) (hanswer : iam.answer query = .ok answer) :
    Leads failing (Engine.iam session (.query query)) iam (.ok answer) [.query query] iam := by
  have hreply := leads_iam session iam h
  simpa only [Iam.respond, hanswer, mapError_ok] using hreply

end

/-! ## Deeds -/

/-- Something that a clearing does. -/
inductive Deed
  /-- Something was listed. -/
  | listed (query : Query)
  /-- Something could not be listed; the entry has the name. -/
  | unlisted (query : Query) (name : String)
  /-- The removal of an artifact was tried. -/
  | tried (target : Target) (reply : Except ServiceError Unit)
  /-- The removal of a login profile was tried. -/
  | profiled (user : String) (reply : Except ServiceError Bool)
  /-- An artifact was left for a reason. -/
  | left (kind : Artifact.Kind) (name reason : String)

namespace Deed

/-- The request of a deed. -/
def call? : Deed → Option Iam.Request
  | listed query | unlisted query _ => some (.query query)
  | tried target _ => some (.remove target.removal)
  | profiled user _ => some (.deleteLoginProfile user)
  | left .. => none

/-- The entry that a deed makes. -/
def entry? : Deed → Option Artifact
  | listed _ => none
  | unlisted query name => some ⟨.listing, name, .failed (refusal (.query query)).message⟩
  | tried target reply => some ⟨target.kind, target.name, statusOf reply⟩
  | profiled user reply => some ⟨.loginProfile, user, profileStatus reply⟩
  | left kind name reason => some ⟨kind, name, .skipped reason⟩

/-- The requests of deeds. -/
def calls (deeds : List Deed) : List Iam.Request := deeds.filterMap call?

/-- The entries of deeds. -/
def entries (deeds : List Deed) : List Artifact := deeds.filterMap entry?

@[simp] theorem calls_append (deeds others : List Deed) :
    calls (deeds ++ others) = calls deeds ++ calls others :=
  List.filterMap_append

@[simp] theorem entries_append (deeds others : List Deed) :
    entries (deeds ++ others) = entries deeds ++ entries others :=
  List.filterMap_append

end Deed

variable {failing : NameSet} {iam mid after : Iam} {site : Site}

/-- A program does deeds when it makes their requests and its value is their entries. -/
def Does (failing : NameSet) (act : Engine (List Artifact)) (iam : Iam) (deeds : List Deed)
    (after : Iam) : Prop :=
  Leads failing act iam (Deed.entries deeds) (Deed.calls deeds) after

theorem does_nothing : Does failing (pure []) iam [] iam := leads_done []

/-- Deeds one after the other, with their entries joined. -/
theorem Does.append {act other : Engine (List Artifact)} {deeds others : List Deed}
    (hact : Does failing act iam deeds mid) (hother : Does failing other mid others after) :
    Does failing (do return (← act) ++ (← other)) iam (deeds ++ others) after := by
  have hboth := hact.bind (f := fun entries => other.bind fun more => .done (entries ++ more))
    (hother.bind (leads_done (Deed.entries deeds ++ Deed.entries others)))
  rw [List.append_nil] at hboth
  rwa [Does, Deed.entries_append, Deed.calls_append]

/-! ## Removals -/

/-- What a removal returns and what is left, refused or not. -/
def outcome (failing : NameSet) (iam : Iam) (removal : Removal) : Except ServiceError Unit × Iam :=
  if refused failing (.remove removal) then (.error (refusal (.remove removal)), iam)
  else match iam.apply removal with
    | .ok after => (.ok (), after)
    | .error reason => (.error ⟨.iam, reason⟩, iam)

/-- What a removal returns that fails only when it is refused. -/
def granted (failing : NameSet) (removal : Removal) : Except ServiceError Unit :=
  if refused failing (.remove removal) then .error (refusal (.remove removal)) else .ok ()

theorem does_attempt (failing : NameSet) (iam : Iam) (site : Site) (target : Target) :
    Does failing (attempt site target) iam [.tried target (outcome failing iam target.removal).1]
      (outcome failing iam target.removal).2 := by
  unfold outcome
  cases h : refused failing (.remove target.removal) with
  | true => exact (leads_iam_refused h).bind (leads_note site _)
  | false =>
    have hreply := leads_iam site.session iam h
    unfold Iam.respond at hreply
    cases happly : iam.apply target.removal with
    | ok after =>
      simp only [happly] at hreply
      exact hreply.bind (leads_note site _)
    | error reason =>
      simp only [happly] at hreply
      exact hreply.bind (leads_note site _)

/-- A removal that nothing stands against is done unless it is refused. -/
theorem does_attempt_of_apply (failing : NameSet) (site : Site) {target : Target}
    (happly : iam.apply target.removal = .ok after) :
    Does failing (attempt site target) iam [.tried target (granted failing target.removal)]
      (if refused failing (.remove target.removal) then iam else after) := by
  have hattempt := does_attempt failing iam site target
  unfold outcome at hattempt
  unfold granted
  cases h : refused failing (.remove target.removal) with
  | false => simpa only [h, happly, Bool.false_eq_true, if_false] using hattempt
  | true => simpa only [h, if_true] using hattempt

/-! ## Lists -/

theorem forEach_map {α β : Type} (act : β → Engine (List Artifact)) (f : α → β) (items : List α) :
    forEach act (items.map f) = forEach (fun item => act (f item)) items := by
  induction items with
  | nil => rfl
  | cons item rest ih => simp only [List.map_cons, forEach, ih]

/-- Something is done for each item of a list. -/
theorem does_forEach {α : Type} (failing : NameSet) (act : α → Engine (List Artifact))
    (items : List α) (deeds : α → List Deed) (left : List α → Iam)
    (hact : ∀ done item rest, items = done ++ item :: rest →
      Does failing (act item) (left done) (deeds item) (left (done ++ [item]))) :
    Does failing (forEach act items) (left []) (items.flatMap deeds) (left items) := by
  -- the induction is on what is still to be done; `left` follows what has been done
  suffices ∀ done rest, items = done ++ rest →
      Does failing (forEach act rest) (left done) (rest.flatMap deeds) (left items) from
    this [] items rfl
  intro done rest
  induction rest generalizing done with
  | nil =>
    intro hitems
    rw [hitems, List.append_nil]
    exact does_nothing
  | cons item rest ih =>
    intro hitems
    have hrest := ih (done ++ [item]) (by rw [hitems, List.append_assoc]; rfl)
    exact (hact done item rest hitems).append hrest

theorem forEach_append {α : Type} (act : α → Engine (List Artifact)) (items others : List α) :
    forEach act (items ++ others) = do return (← forEach act items) ++ (← forEach act others) := by
  induction items with
  | nil => simp [forEach, Program.bind_done]
  | cons item rest ih => simp [forEach, ih, Program.bind_assoc]

/-- Something is done for each item of two lists. -/
theorem Does.forEach_append {α : Type} {act : α → Engine (List Artifact)} {items others : List α}
    {deeds more : List Deed} (hitems : Does failing (forEach act items) iam deeds mid)
    (hothers : Does failing (forEach act others) mid more after) :
    Does failing (forEach act (items ++ others)) iam (deeds ++ more) after := by
  rw [Lending.forEach_append]
  exact hitems.append hothers

end AccountLending.Lending
