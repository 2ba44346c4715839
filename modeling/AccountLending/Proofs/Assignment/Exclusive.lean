import AccountLending.Host.Desk
import AccountLending.Proofs.Assignment.Orderly

/-!
# Nobody shares a lent account

What holds of the accounts of a pool when any number of parties have lent from it at the same time,
in whatever order their calls were made, and nobody else was at work.

* `assign_exclusive` — an account that was tagged is lent to exactly one party, and all other
  accounts are as they were.
-/

namespace AccountLending.Lending

open Stage

variable {ι : Type} [DecidableEq ι]

/-- Parties that lend accounts of one pool, before any of them has begun. -/
def lenders (cloud : Cloud) (payer : Payer) (settings : ι → AllocationSettings)
    (owner : ι → String) : Concurrent Cloud ι Call.Reply fun _ => Except PoolError String :=
  ⟨cloud, fun i => (assign payer (settings i) (owner i)).run⟩

theorem orderly_of_run {cloud : Cloud} (hundisturbed : cloud.IsUndisturbed) {payer : Payer}
    (hpayer : payer.root ≠ payer.claimed) {settings : ι → AllocationSettings} {owner : ι → String}
    {trace : List (Event ι Call.Reply)}
    {final : Concurrent Cloud ι Call.Reply fun _ => Except PoolError String}
    (hrun : Concurrent.Run Cloud.Answers (lenders cloud payer settings owner) trace final) :
    ∃ stages : ι → Stage,
      (∀ i, (final.programs i).Follows (Moves payer (owner i)) Ends (stages i)) ∧
        Orderly payer owner cloud.organization.state trace final.state stages :=
  hrun.invariant (fun _ _ _ _ _ _ _ _ horderly hanswers hmoves =>
    horderly.step hpayer hanswers hmoves)
    (fun i => assign_follows payer (settings i) (owner i)) (Orderly.initial hundisturbed)

theorem eq_won_iff_of_ends {result : Except PoolError String} {stage : Stage} {account : String}
    (h : Ends result stage) : stage = .won account ↔ result = .ok account := by
  cases result with
  | ok won =>
    obtain rfl : stage = .won won := h
    simp
  | error e =>
    have hne : stage ≠ .won account := by
      cases e with
      | noUntaggedAccounts unit =>
        obtain ⟨rest, rfl, -⟩ := h
        simp
      | _ =>
        obtain rfl : stage = .stopped := h
        simp
    simp [hne]

/-- A party that is done is not about to win anything. -/
theorem not_isClaiming_of_ends {result : Except PoolError String} {stage : Stage} {tags : Tags}
    {owner account : String} (h : Ends result stage) : ¬ stage.IsClaiming tags owner account := by
  intro hclaiming
  cases result with
  | ok won =>
    obtain rfl : stage = .won won := h
    exact hclaiming
  | error e =>
    cases e with
    | noUntaggedAccounts unit =>
      obtain ⟨rest, rfl, -⟩ := h
      exact hclaiming
    | _ =>
      obtain rfl : stage = .stopped := h
      exact hclaiming

/-- Parties lend accounts of one pool, whose root is not its claimed unit, while nobody else is at
work and no request is registered to fail; tokens and everything else that hosts reply may be
anything.  A party that reports that there is no free account left has listed the pool once, and
every active account of its listing is taken.  When all parties are done, an account that was tagged
is under the claimed unit and was returned to exactly one party; an account that nobody tagged is as
it was at the start, and was returned to nobody. -/
theorem assign_exclusive {cloud : Cloud} (hundisturbed : cloud.IsUndisturbed) {payer : Payer}
    (hpayer : payer.root ≠ payer.claimed) (settings : ι → AllocationSettings) (owner : ι → String)
    {trace : List (Event ι Call.Reply)}
    {final : Concurrent Cloud ι Call.Reply fun _ => Except PoolError String}
    (hrun : Concurrent.Run Cloud.Answers (lenders cloud payer settings owner) trace final) :
    (∀ i unit, final.programs i = .done (.error (.noUntaggedAccounts unit)) →
      ∃ accounts, Listed payer.root trace i accounts ∧
        (∀ other, Listed payer.root trace i other → other = accounts) ∧
        ∀ account ∈ accounts, account.isActive = true →
          (final.state.organization.state.tags account.id).contains Tags.ownerKey = true ∨
            (final.state.organization.state.tags account.id).contains Tags.claimedKey = true) ∧
    ∀ result : ι → Except PoolError String, (∀ i, final.programs i = .done (result i)) →
      ∀ account,
        ((∃ i, Tagged trace i account) →
          final.state.organization.state.parent? account = some payer.claimed ∧
            ∃! i, result i = .ok account) ∧
        ((∀ i, ¬ Tagged trace i account) →
          final.state.organization.state.find? account = cloud.organization.state.find? account ∧
            ∀ i, result i ≠ .ok account) := by
  obtain ⟨stages, hfollows, horderly⟩ := orderly_of_run hundisturbed hpayer hrun
  refine ⟨fun i unit hdone => ?_, fun result hdone account => ?_⟩
  · obtain ⟨rest, hstage, hinactive⟩ :=
      Concurrent.Run.ends_of_done (hfollows i) hdone
    obtain ⟨accounts, hlisted, hunique, hscanned⟩ :=
      (horderly.fits i).scanned rest (by rw [hstage]; rfl)
    refine ⟨accounts, hlisted, hunique, fun account haccount hactive => ?_⟩
    rw [← Organization.isTaken_iff]
    apply (hscanned account haccount hactive).resolve_left
    intro hmem
    simp [hinactive account hmem] at hactive
  · have hends : ∀ i, Ends (result i) (stages i) :=
      fun i => Concurrent.Run.ends_of_done (hfollows i) (hdone i)
    -- a party is done with an account exactly when it has won it
    have hwon : ∀ i, stages i = .won account ↔ result i = .ok account :=
      fun i => eq_won_iff_of_ends (hends i)
    constructor
    · rintro ⟨i, htagged⟩
      obtain ⟨-, ⟨j, hj⟩ | ⟨j, hj⟩⟩ := horderly.awarded i account htagged
      · refine ⟨((horderly.fits j).won account hj).2, j, (hwon j).1 hj, fun k hk => ?_⟩
        exact horderly.unique k j account ((hwon k).2 hk) hj
      · exact absurd hj (not_isClaiming_of_ends (hends j))
    · intro hnone
      refine ⟨horderly.untouched account hnone, fun i hi => hnone i ?_⟩
      exact ((horderly.fits i).won account ((hwon i).2 hi)).1

/-! ## A race -/

/-- A pool with one account. -/
def raceCloud : Cloud :=
  { Cloud.ofCaller (.ok "999999999999") with
    organization :=
      ⟨{ members := [⟨{ id := "111122223333", status := .active }, "root", Dict.empty⟩] },
      [], Dict.empty⟩ }

/-- Two parties that both want the only account. -/
def race : Concurrent Cloud Bool Call.Reply fun _ => Except PoolError String :=
  lenders raceCloud { root := "root", claimed := "claimed" } (fun _ => {})
    fun party => if party then "ada" else "grace"

/-- The cloud answers, and each party's host has a token of its own. -/
def raceServe (party : Bool) : (call : Call) → Cloud → call.Reply × Cloud
  | .cloud request, cloud => Cloud.serve request cloud
  | .host request, cloud => ((Host.serve request { tokens := party.toNat }).1, cloud)

/-- The two parties make their calls in turns. -/
def raceFinal : Concurrent Cloud Bool Call.Reply fun _ => Except PoolError String :=
  (List.replicate 20 [false, true]).flatten.foldl (Concurrent.advance raceServe) race

theorem race_exclusive :
    ∃ (trace : List (Event Bool Call.Reply)) (result : Bool → Except PoolError String),
    Concurrent.Run Cloud.Answers race trace raceFinal ∧
      (∀ party, raceFinal.programs party = .done (result party)) ∧
      raceFinal.state.organization.state.parent? "111122223333" = some "claimed" ∧
      ∃! party, result party = .ok "111122223333" := by
  have hundisturbed : raceCloud.IsUndisturbed :=
    ⟨fun _ => rfl, rfl, by decide⟩
  obtain ⟨trace, hrun⟩ := Concurrent.Run.schedule Cloud.Answers raceServe
    (by rintro party (request | request) cloud <;> rfl) race
    (List.replicate 20 [false, true]).flatten
  have hada : (raceFinal.result? true).map Except.toOption = some (some "111122223333") := by
    decide +kernel
  have hgrace : (raceFinal.result? false).map Except.toOption = some none := by decide +kernel
  obtain ⟨ada, hada, hwon⟩ := Option.map_eq_some_iff.1 hada
  obtain ⟨grace, hgrace, -⟩ := Option.map_eq_some_iff.1 hgrace
  have hdone : ∀ party, raceFinal.programs party = .done (if party then ada else grace) := by
    rintro (_ | _)
    · exact Concurrent.eq_done_of_result? hgrace
    · exact Concurrent.eq_done_of_result? hada
  have hada : ada = .ok "111122223333" := by
    cases ada with
    | ok account => exact congrArg Except.ok (Option.some.inj hwon)
    | error e => simp [Except.toOption] at hwon
  obtain ⟨htagged, huntagged⟩ :=
    (assign_exclusive hundisturbed (by decide) _ _ hrun).2 _ hdone "111122223333"
  refine ⟨trace, _, hrun, hdone, htagged ?_⟩
  -- an account that nobody tagged would have been returned to nobody
  by_contra hnone
  exact (huntagged fun i hi => hnone ⟨i, hi⟩).2 true (by simpa using hada)

end AccountLending.Lending
