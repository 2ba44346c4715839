import AccountLending.Proofs.Clearing.Whole
import AccountLending.Proofs.Performing

/-!
# Worlds that no program can tell apart

What was recorded of the calls to a service, the lines in the log and the questions that were put
are never read by a program.  Two worlds that differ in nothing else give every program the same
replies, and are as alike after it as they were before.

* `Journaled.IsAlike` — two services with the same state, whose calls fail alike;
* `World.IsAlike` — two worlds with such services and the same host;
* `World.IsAlike.serve` — every call has the same reply in both;
* `World.IsAlike.perform` — so has every action.
-/

namespace AccountLending

namespace Program

variable {Op : Type} {Reply : Op → Type} {α σ τ : Type}

/-- What each call keeps of two states, and replies alike in both, so does a program. -/
theorem run_related {handle : (op : Op) → σ → Reply op × σ}
    {other : (op : Op) → τ → Reply op × τ} {related : σ → τ → Prop}
    (hcall : ∀ op s t, related s t →
      (other op t).1 = (handle op s).1 ∧ related (handle op s).2 (other op t).2)
    (p : Program Op Reply α) {s : σ} {t : τ} (h : related s t) :
    (p.run other t).1 = (p.run handle s).1 ∧ related (p.run handle s).2 (p.run other t).2 := by
  induction p generalizing s t with
  | done a => exact ⟨rfl, h⟩
  | call op next ih =>
    obtain ⟨hreply, hstates⟩ := hcall op s t h
    rw [run_call, run_call, hreply]
    exact ih _ hstates

end Program

/-! ## Services -/

/-- Two services that differ at most in the calls that they have recorded. -/
structure Journaled.IsAlike {σ κ : Type} (service other : Journaled σ κ) : Prop where
  state : other.state = service.state
  failing : other.failing = service.failing

namespace Journaled.IsAlike

variable {σ κ : Type} {service other : Journaled σ κ}

theorem refl (service : Journaled σ κ) : service.IsAlike service := ⟨rfl, rfl⟩

theorem symm (h : service.IsAlike other) : other.IsAlike service := ⟨h.state.symm, h.failing.symm⟩

theorem trans {third : Journaled σ κ} (h : service.IsAlike other) (h' : other.IsAlike third) :
    service.IsAlike third :=
  ⟨h'.state.trans h.state, h'.failing.trans h.failing⟩

theorem fails (h : service.IsAlike other) (entry : String) :
    other.fails entry = service.fails entry := by
  rw [Journaled.fails, Journaled.fails, h.failing]

end Journaled.IsAlike

theorem Organization.serve_isAlike {service other : Journaled Organization Request}
    (h : service.IsAlike other) (request : Request) :
    (serve request other).1 = (serve request service).1 ∧
      (serve request service).2.IsAlike (serve request other).2 := by
  unfold serve
  rw [h.fails]
  split
  · exact ⟨rfl, h.state, h.failing⟩
  · rw [h.state]
    exact ⟨rfl, rfl, h.failing⟩

theorem Iam.serve_isAlike {service other : Journaled Iam Request} (h : service.IsAlike other)
    (request : Request) :
    (serve request other).1 = (serve request service).1 ∧
      (serve request service).2.IsAlike (serve request other).2 := by
  unfold serve
  rw [h.fails]
  split
  · exact ⟨rfl, h.state, h.failing⟩
  · rw [h.state]
    exact ⟨rfl, rfl, h.failing⟩

/-- Two clouds whose services are alike. -/
structure Cloud.IsAlike (cloud other : Cloud) : Prop where
  organization : cloud.organization.IsAlike other.organization
  identity : cloud.identity.IsAlike other.identity
  iamOf : ∀ account, (cloud.iamOf account).IsAlike (other.iamOf account)

namespace Cloud

variable {cloud other : Cloud}

theorem IsAlike.assumeRole (h : cloud.IsAlike other) (arn name : String) :
    (other.assumeRole arn name).1 = (cloud.assumeRole arn name).1 ∧
      (cloud.assumeRole arn name).2.IsAlike (other.assumeRole arn name).2 := by
  -- a role is assumed, or not, by what the services of identities have in common
  have hidentity : (other.assumeRole arn name).1 = (cloud.assumeRole arn name).1 ∧
      (cloud.assumeRole arn name).2.identity.IsAlike (other.assumeRole arn name).2.identity := by
    unfold Cloud.assumeRole
    split
    · exact ⟨rfl, h.identity⟩
    · dsimp only
      rw [h.identity.fails]
      split <;> exact ⟨rfl, h.identity.state, h.identity.failing⟩
  obtain ⟨horganization, hiam⟩ := cloud.assumeRole_keeps arn name
  obtain ⟨horganization', hiam'⟩ := other.assumeRole_keeps arn name
  refine ⟨hidentity.1, ?_, hidentity.2, fun account => ?_⟩
  · rw [horganization, horganization']
    exact h.organization
  · rw [hiam, hiam']
    exact h.iamOf account

theorem IsAlike.accountOf (h : cloud.IsAlike other) (session : Option Session) :
    other.accountOf session = cloud.accountOf session := by
  cases session with
  | some session => rfl
  | none => rw [Cloud.accountOf, Cloud.accountOf, h.identity.state]

theorem IsAlike.serve (h : cloud.IsAlike other) (request : Request) :
    (Cloud.serve request other).1 = (Cloud.serve request cloud).1 ∧
      (Cloud.serve request cloud).2.IsAlike (Cloud.serve request other).2 := by
  match request with
  | .organization request =>
    obtain ⟨hreply, halike⟩ := Organization.serve_isAlike h.organization request
    exact ⟨hreply, halike, h.identity, h.iamOf⟩
  | .identity .caller =>
    refine ⟨?_, h⟩
    show other.identity.state.mapError _ = cloud.identity.state.mapError _
    rw [h.identity.state]
  | .identity (.assumeRole arn name _) => exact h.assumeRole arn name
  | .iam session request =>
    show (Cloud.serveIam (other.accountOf session) request other).1 = _ ∧
      IsAlike _ (Cloud.serveIam (other.accountOf session) request other).2
    rw [h.accountOf]
    obtain ⟨hreply, halike⟩ := Iam.serve_isAlike (h.iamOf (cloud.accountOf session)) request
    refine ⟨hreply, h.organization, h.identity, fun account => ?_⟩
    show ((cloud.changeIam _ _).iamOf account).IsAlike ((other.changeIam _ _).iamOf account)
    rw [iamOf_changeIam, iamOf_changeIam]
    split
    · exact halike
    · exact h.iamOf account

end Cloud

/-! ## Hosts -/

/-- Two hosts that differ at most in their logs and in the questions that were put. -/
def Host.IsAlike (host other : Host) : Prop := ∃ log questions, other = { host with log, questions }

theorem Host.IsAlike.serve {host other : Host} (h : host.IsAlike other) (request : Request) :
    (Host.serve request other).1 = (Host.serve request host).1 ∧
      (Host.serve request host).2.IsAlike (Host.serve request other).2 := by
  obtain ⟨log, questions, rfl⟩ := h
  cases request with
  | log line => exact ⟨rfl, log ++ [line], questions, rfl⟩
  | confirm question => exact ⟨rfl, log, questions ++ [question], rfl⟩
  | readLine =>
    unfold Host.serve
    dsimp only
    split <;> exact ⟨rfl, log, questions, rfl⟩
  | connect payer =>
    unfold Host.serve
    dsimp only
    split <;> exact ⟨rfl, log, questions, rfl⟩
  | _ => exact ⟨rfl, log, questions, rfl⟩

/-! ## Worlds -/

/-- Two worlds that no program can tell apart. -/
structure World.IsAlike (world other : World) : Prop where
  cloud : world.cloud.IsAlike other.cloud
  host : world.host.IsAlike other.host

namespace World.IsAlike

variable {α : Type} {world other third : World}

theorem refl (world : World) : world.IsAlike world :=
  ⟨⟨.refl _, .refl _, fun _ => .refl _⟩, world.host.log, world.host.questions, rfl⟩

theorem symm (h : world.IsAlike other) : other.IsAlike world := by
  obtain ⟨log, questions, hhost⟩ := h.host
  exact ⟨⟨h.cloud.organization.symm, h.cloud.identity.symm,
    fun account => (h.cloud.iamOf account).symm⟩,
    world.host.log, world.host.questions, by rw [hhost]⟩

theorem trans (h : world.IsAlike other) (h' : other.IsAlike third) : world.IsAlike third := by
  obtain ⟨log, questions, hhost⟩ := h'.host
  obtain ⟨_, _, hhost'⟩ := h.host
  exact ⟨⟨h.cloud.organization.trans h'.cloud.organization,
    h.cloud.identity.trans h'.cloud.identity,
    fun account => (h.cloud.iamOf account).trans (h'.cloud.iamOf account)⟩, log, questions,
    by rw [hhost, hhost']⟩

theorem serve (h : world.IsAlike other) (call : Call) :
    (World.serve call other).1 = (World.serve call world).1 ∧
      (World.serve call world).2.IsAlike (World.serve call other).2 := by
  match call with
  | .cloud request =>
    obtain ⟨hreply, halike⟩ := h.cloud.serve request
    exact ⟨hreply, halike, h.host⟩
  | .host request =>
    obtain ⟨hreply, halike⟩ := h.host.serve request
    exact ⟨hreply, h.cloud, halike⟩

/-- A program has the same value in both worlds. -/
theorem run (h : world.IsAlike other) (program : Engine α) :
    (other.run program).1 = (world.run program).1 ∧
      (world.run program).2.IsAlike (other.run program).2 :=
  Program.run_related (fun call _ _ halike => halike.serve call) program h

/-- An action has the same result in both worlds. -/
theorem perform (h : world.IsAlike other) {action : Action α} {result : Except PoolError α}
    {after : World} (hperform : world.perform action = (result, after)) :
    ∃ after', other.perform action = (result, after') ∧ after.IsAlike after' := by
  obtain ⟨hresult, halike⟩ := h.run action.run
  rw [show world.run action.run = (result, after) from hperform] at hresult halike
  exact ⟨(other.perform action).2, Prod.ext hresult rfl, halike⟩

end World.IsAlike

end AccountLending
