import AccountLending.Proofs.Assignment.Protocol
import AccountLending.Proofs.Assignment.Undisturbed

/-!
# The invariant of parties that lend at the same time

Any number of parties lend accounts of one pool at the same time, with nobody else at work.  Tags
are written without a condition, so two parties can both tag an account and even both find their
claims kept, one after the other.  What keeps them apart is the move, which only succeeds from the
root; what keeps a tagged account from being lost is that the party that tagged it last finds its
claim kept.

* `Stage.Fits` — what the stage of one party says of the calls so far, and of its accounts;
* `Orderly` — the invariant: all stages fit, and a tagged account was won by one party, or a party
  is about to win it;
* `Orderly.advance` — parties that do not move keep what their stages say;
* `Orderly.step` — every move of every party keeps the invariant.
-/

namespace AccountLending.Lending

open Stage

variable {ι : Type} {payer : Payer}

/-- A party tagged an account. -/
def Tagged (trace : List (Event ι Call.Reply)) (i : ι) (account : String) : Prop :=
  ∃ tags, (⟨i, .cloud (.organization (.tag account tags)), .ok ()⟩ : Event ι Call.Reply) ∈ trace

/-- A party listed the accounts of a unit. -/
def Listed (unit : String) (trace : List (Event ι Call.Reply)) (i : ι)
    (accounts : List Account) : Prop :=
  (⟨i, .cloud (.organization (.listAccounts unit)), .ok accounts⟩ : Event ι Call.Reply) ∈ trace

namespace Stage

/-- The accounts that the party may still claim. -/
def ahead? : Stage → Option (List Account)
  | .scanning rest | .verifying _ _ rest => some rest
  | .rechecking account rest | .naming account rest | .tagging account _ rest =>
    some (account :: rest)
  | _ => none

/-- The account that the party has tagged and not given up. -/
def current? : Stage → Option Account
  | .verifying account _ _ | .moving account => some account
  | _ => none

/-- The accounts that the party may still move. -/
def accounts (stage : Stage) : List Account := stage.ahead?.getD [] ++ stage.current?.toList

/-- Whether the party is about to win an account: it will find its claim on it, or has found it. -/
def IsClaiming (tags : Tags) (owner account : String) : Stage → Prop
  | .verifying current token _ => current.id = account ∧ keepsClaim tags owner token = true
  | .moving current => current.id = account
  | _ => False

end Stage

variable {trace later : List (Event ι Call.Reply)} {event : Event ι Call.Reply}
variable {cloud after : Cloud} {old new : Organization} {isWon isWonAfter : String → Prop}
variable {i j : ι} {stage next : Stage}

/-! ## Longer runs -/

theorem Tagged.append {account : String} (h : Tagged trace i account)
    (later : List (Event ι Call.Reply)) : Tagged (trace ++ later) i account :=
  h.imp fun _ hmem => List.mem_append_left _ hmem

theorem tagged_append_iff {call : Call} {reply : call.Reply} {account : String}
    (h : ∀ tags, call ≠ .cloud (.organization (.tag account tags))) :
    Tagged (trace ++ [⟨i, call, reply⟩]) j account ↔ Tagged trace j account := by
  refine ⟨?_, fun htagged => htagged.append _⟩
  rintro ⟨tags, hmem⟩
  rcases List.mem_append.1 hmem with hmem | hmem
  · exact ⟨tags, hmem⟩
  · rw [List.mem_singleton, Event.mk.injEq] at hmem
    exact absurd hmem.2.1.symm (h tags)

theorem tagged_of_ne {account other : String} {tags : Tags} (hne : other ≠ account)
    (h : Tagged (trace ++ [⟨i, .cloud (.organization (.tag account tags)), .ok ()⟩]) j other) :
    Tagged trace j other :=
  (tagged_append_iff (by simpa using hne.symm)).1 h

theorem listed_append_iff {unit : String} {call : Call} {reply : call.Reply}
    {accounts : List Account} (h : call ≠ .cloud (.organization (.listAccounts unit))) :
    Listed unit (trace ++ [⟨i, call, reply⟩]) j accounts ↔ Listed unit trace j accounts := by
  have hevent : (⟨j, .cloud (.organization (.listAccounts unit)), .ok accounts⟩ :
      Event ι Call.Reply) ≠ ⟨i, call, reply⟩ := fun heq => h (Event.mk.inj heq).2.1.symm
  simp [Listed, hevent]

/-- Nobody lists anything by the call of another party. -/
theorem listed_append_of_ne {unit : String} {accounts : List Account} (hne : j ≠ event.party) :
    Listed unit (trace ++ [event]) j accounts ↔ Listed unit trace j accounts := by
  have hevent : (⟨j, .cloud (.organization (.listAccounts unit)), .ok accounts⟩ :
      Event ι Call.Reply) ≠ event := fun heq => hne (congrArg Event.party heq)
  simp [Listed, hevent]

/-! ## What one stage says -/

/-- What a call leaves to all parties: accounts stay under the root unless somebody wins them, and
what is claimed, taken or won stays so. -/
structure Retains (payer : Payer) (old new : Organization) (isWon isWonAfter : String → Prop) :
    Prop where
  root : ∀ account, old.parent? account = some payer.root →
    new.parent? account = some payer.root ∨ isWonAfter account
  claimed : ∀ account, old.parent? account = some payer.claimed →
    new.parent? account = some payer.claimed
  taken : ∀ account, old.IsTaken account → new.IsTaken account
  won : ∀ account, isWon account → isWonAfter account

theorem Retains.of_eq (hstate : new = old)
    (hwon : ∀ account, isWon account → isWonAfter account) :
    Retains payer old new isWon isWonAfter where
  root account hroot := .inl (by rwa [hstate])
  claimed account hclaimed := by rwa [hstate]
  taken account htaken := by rwa [hstate]
  won := hwon

theorem isTaken_of_tag (h : cloud.IsUndisturbed) {account owner token : String}
    (hanswers : Cloud.Answers
      (.cloud (.organization (.tag account (Tags.ofClaim owner token)))) cloud (.ok ()) after) :
    after.organization.state.IsTaken account := by
  rw [Organization.IsTaken, (Cloud.IsUndisturbed.tag h hanswers).2.1]
  exact Tags.isFree_written ..

/-- A claim moves nothing, and frees nothing. -/
theorem Retains.tag (h : cloud.IsUndisturbed) {account owner token : String}
    (hanswers : Cloud.Answers
      (.cloud (.organization (.tag account (Tags.ofClaim owner token)))) cloud (.ok ()) after)
    (hwon : ∀ account, isWon account → isWonAfter account) :
    Retains payer cloud.organization.state after.organization.state isWon isWonAfter := by
  obtain ⟨-, -, hparent, hfind⟩ := Cloud.IsUndisturbed.tag h hanswers
  refine ⟨fun other hroot => .inl (by rwa [hparent]), fun other hclaimed => by rwa [hparent],
    fun other htaken => ?_, hwon⟩
  by_cases heq : other = account
  · rw [heq]
    exact isTaken_of_tag h hanswers
  · rwa [Organization.IsTaken, Organization.tags_congr (hfind other heq)]

/-- A move from the root to the claimed unit moves one account, which is won by that. -/
theorem Retains.move (h : cloud.IsUndisturbed) {account : String}
    (hanswers : Cloud.Answers
      (.cloud (.organization (.move account payer.root payer.claimed))) cloud (.ok ()) after)
    (hwinner : isWonAfter account) (hwon : ∀ account, isWon account → isWonAfter account) :
    Retains payer cloud.organization.state after.organization.state isWon isWonAfter := by
  obtain ⟨-, -, hclaimed, htags, hfind⟩ := Cloud.IsUndisturbed.move h hanswers
  refine ⟨fun other hroot => ?_, fun other hother => ?_,
    fun other htaken => by rwa [Organization.IsTaken, htags], hwon⟩
  · by_cases heq : other = account
    · exact .inr (heq ▸ hwinner)
    · exact .inl (by rwa [Organization.parent?_congr (hfind other heq)])
  · by_cases heq : other = account
    · rwa [heq]
    · rwa [Organization.parent?_congr (hfind other heq)]

namespace Stage

/-- The stage of a party fits the calls so far, the organization, and what anybody has won. -/
structure Fits (payer : Payer) (trace : List (Event ι Call.Reply)) (organization : Organization)
    (isWon : String → Prop) (i : ι) (stage : Stage) : Prop where
  unlisted : stage = .unlisted → ∀ accounts, ¬ Listed payer.root trace i accounts
  /-- Whatever the party may still move is where it was listed, unless somebody has won it. -/
  held : ∀ account ∈ stage.accounts,
    organization.parent? account.id = some payer.root ∨ isWon account.id
  /-- What the party has passed over is taken. -/
  scanned : ∀ rest, stage.ahead? = some rest → ∃ accounts, Listed payer.root trace i accounts ∧
    (∀ other, Listed payer.root trace i other → other = accounts) ∧
    ∀ account ∈ accounts, account.isActive = true →
      account ∈ rest ∨ organization.IsTaken account.id
  current : ∀ account, stage.current? = some account → Tagged trace i account.id
  won : ∀ account, stage = .won account →
    Tagged trace i account ∧ organization.parent? account = some payer.claimed

namespace Fits

/-- A party that lists nothing goes on to a stage at which no account is new to it, and gives up
only what is taken. -/
theorem onward (h : stage.Fits payer trace old isWon i)
    (hretains : Retains payer old new isWon isWonAfter)
    (hlisted : ∀ accounts, Listed payer.root (trace ++ later) i accounts ↔
      Listed payer.root trace i accounts)
    (hunlisted : next = .unlisted → stage = .unlisted)
    (haccounts : ∀ account ∈ next.accounts, account ∈ stage.accounts)
    (hahead : ∀ rest, next.ahead? = some rest → ∃ ahead, stage.ahead? = some ahead ∧
      ∀ account ∈ ahead, account.isActive = true → account ∈ rest ∨ new.IsTaken account.id)
    (hcurrent : ∀ account, next.current? = some account → Tagged (trace ++ later) i account.id)
    (hwon : ∀ account, next = .won account →
      Tagged (trace ++ later) i account ∧ new.parent? account = some payer.claimed) :
    next.Fits payer (trace ++ later) new isWonAfter i where
  unlisted hnext accounts := by
    rw [hlisted]
    exact h.unlisted (hunlisted hnext) accounts
  held account haccount := by
    rcases h.held account (haccounts account haccount) with hroot | hwinner
    · exact hretains.root _ hroot
    · exact .inr (hretains.won _ hwinner)
  scanned rest hrest := by
    obtain ⟨ahead, hbefore, hgiven⟩ := hahead rest hrest
    obtain ⟨accounts, hlist, hunique, hscanned⟩ := h.scanned ahead hbefore
    simp only [hlisted]
    refine ⟨accounts, hlist, hunique, fun account haccount hactive => ?_⟩
    rcases hscanned account haccount hactive with hmem | htaken
    · exact hgiven account hmem hactive
    · exact .inr (hretains.taken _ htaken)
  current := hcurrent
  won := hwon

/-- A party that does not move keeps what its stage says. -/
theorem keep (h : stage.Fits payer trace old isWon j)
    (hretains : Retains payer old new isWon isWonAfter) (hne : j ≠ event.party) :
    stage.Fits payer (trace ++ [event]) new isWonAfter j :=
  h.onward hretains (fun _ => listed_append_of_ne hne) id (fun _ haccount => haccount)
    (fun rest hrest => ⟨rest, hrest, fun _ hmem _ => .inl hmem⟩)
    (fun account hcurrent => (h.current account hcurrent).append _)
    fun account hwon =>
      ⟨(h.won account hwon).1.append _, hretains.claimed _ (h.won account hwon).2⟩

end Fits

end Stage

/-! ## The invariant -/

variable {owner : ι → String} {start : Organization} {stages : ι → Stage}

/-- Somebody has won an account. -/
def IsWon (stages : ι → Stage) (account : String) : Prop := ∃ j, stages j = .won account

/-- An account is taken, and was won or is about to be won. -/
def IsAwarded (owner : ι → String) (organization : Organization) (stages : ι → Stage)
    (account : String) : Prop :=
  organization.IsTaken account ∧ (IsWon stages account ∨
    ∃ j, (stages j).IsClaiming (organization.tags account) (owner j) account)

/-- The invariant of parties that lend accounts of a pool while nobody else is at work. -/
structure Orderly (payer : Payer) (owner : ι → String) (start : Organization)
    (trace : List (Event ι Call.Reply)) (cloud : Cloud) (stages : ι → Stage) : Prop where
  undisturbed : cloud.IsUndisturbed
  fits : ∀ i, (stages i).Fits payer trace cloud.organization.state (IsWon stages) i
  /-- No account is won twice. -/
  unique : ∀ i j account, stages i = .won account → stages j = .won account → i = j
  awarded : ∀ i account, Tagged trace i account →
    IsAwarded owner cloud.organization.state stages account
  untouched : ∀ account, (∀ i, ¬ Tagged trace i account) →
    cloud.organization.state.find? account = start.find? account

namespace Orderly

theorem initial (h : cloud.IsUndisturbed) :
    Orderly payer owner cloud.organization.state [] cloud (fun _ => .unlisted) where
  undisturbed := h
  fits _ :=
    { unlisted := fun _ _ hlisted => by simp [Listed] at hlisted
      held := fun _ haccount => by simp [accounts, ahead?, current?] at haccount
      scanned := fun _ hahead => by simp [ahead?] at hahead
      current := fun _ hcurrent => by simp [current?] at hcurrent
      won := fun _ hwon => by simp at hwon }
  unique _ _ _ hwon := by simp at hwon
  awarded _ _ htagged := by simp [Tagged] at htagged
  untouched _ _ := rfl

/-- A claim that was just written is kept. -/
theorem keepsClaim_written (old : Tags) (owner token : String) :
    keepsClaim (Organization.written old (Tags.ofClaim owner token) none) owner token = true := by
  simp [keepsClaim]

/-- An account that a party may still move is a member. -/
theorem find?_ne_none (h : Orderly payer owner start trace cloud stages) {account : Account}
    (haccount : account ∈ (stages i).accounts) :
    cloud.organization.state.find? account.id ≠ none := by
  intro hnone
  have hparent : cloud.organization.state.parent? account.id = none := by
    rw [Organization.parent?, hnone]
    rfl
  rcases (h.fits i).held account haccount with hroot | ⟨j, hj⟩
  · simp [hparent] at hroot
  · simpa [hparent] using ((h.fits j).won account.id hj).2

variable [DecidableEq ι]

/-- What was won stays won when the party that moves keeps what it has won. -/
theorem isWon_update {account : String} (h : IsWon stages account)
    (hi : ∀ account, stages i = .won account → stage = .won account) :
    IsWon (Function.update stages i stage) account := by
  obtain ⟨j, hj⟩ := h
  refine ⟨j, ?_⟩
  rcases eq_or_ne j i with rfl | hne
  · rw [Function.update_self, hi account hj]
  · rw [Function.update_of_ne hne, hj]

/-- An account stays awarded when its tags stay as they are, and the party that moves does not give
it up while it is about to win it. -/
theorem isAwarded_update {account : String} (h : IsAwarded owner old stages account)
    (htags : new.tags account = old.tags account)
    (hi : ∀ account, stages i = .won account → stage = .won account)
    (hclaiming : (stages i).IsClaiming (old.tags account) (owner i) account →
      stage.IsClaiming (old.tags account) (owner i) account ∨
        IsWon (Function.update stages i stage) account) :
    IsAwarded owner new (Function.update stages i stage) account := by
  obtain ⟨htaken, hwinner | ⟨j, hj⟩⟩ := h
  · exact ⟨by rwa [Organization.IsTaken, htags], .inl (isWon_update hwinner hi)⟩
  · refine ⟨by rwa [Organization.IsTaken, htags], ?_⟩
    rw [htags]
    rcases eq_or_ne j i with rfl | hne
    · exact (hclaiming hj).symm.imp_right fun hstill => ⟨j, by rwa [Function.update_self]⟩
    · exact .inr ⟨j, by rwa [Function.update_of_ne hne]⟩

/-- A party moves, and all that the others rely on is retained.  What their stages say stays true,
so that only the party that moves and the accounts that are tagged have to be looked at. -/
theorem advance (h : Orderly payer owner start trace cloud stages) {call : Call}
    {reply : call.Reply} (hundisturbed : after.IsUndisturbed)
    (hretains : Retains payer cloud.organization.state after.organization.state (IsWon stages)
      (IsWon (Function.update stages i stage)))
    (hfits : stage.Fits payer (trace ++ [⟨i, call, reply⟩]) after.organization.state
      (IsWon (Function.update stages i stage)) i)
    (hunique : ∀ account, stage = .won account → ∀ j, stages j = .won account → j = i)
    (hawarded : ∀ j account, Tagged (trace ++ [⟨i, call, reply⟩]) j account →
      IsAwarded owner after.organization.state (Function.update stages i stage) account)
    (huntouched : ∀ account, (∀ j, ¬ Tagged (trace ++ [⟨i, call, reply⟩]) j account) →
      after.organization.state.find? account = cloud.organization.state.find? account) :
    Orderly payer owner start (trace ++ [⟨i, call, reply⟩]) after (Function.update stages i stage)
    where
  undisturbed := hundisturbed
  fits := (Function.forall_update_iff stages fun j other => other.Fits payer _ _ _ j).2
    ⟨hfits, fun j hne => (h.fits j).keep hretains hne⟩
  unique k l account hk hl := by
    rcases eq_or_ne k i with rfl | hki <;> rcases eq_or_ne l k with rfl | hlk
    · rfl
    · rw [Function.update_self] at hk
      rw [Function.update_of_ne hlk] at hl
      exact (hunique account hk l hl).symm
    · rfl
    · rw [Function.update_of_ne hki] at hk
      rcases eq_or_ne l i with rfl | hli
      · rw [Function.update_self] at hl
        exact hunique account hl k hk
      · rw [Function.update_of_ne hli] at hl
        exact h.unique k l account hk hl
  awarded := hawarded
  untouched account hnone := by
    rw [huntouched account hnone]
    exact h.untouched account fun j hj => hnone j (hj.append _)

/-! ## Calls that change nothing -/

/-- A party goes on to a stage that fits, while the organization stays as it is: it has won what it
had won before, and does not give up what it is about to win. -/
theorem read (h : Orderly payer owner start trace cloud stages) {call : Call} {reply : call.Reply}
    (htag : ∀ account tags, call ≠ .cloud (.organization (.tag account tags)))
    (hundisturbed : after.IsUndisturbed)
    (hstate : after.organization.state = cloud.organization.state)
    (hwon : ∀ account, stage = .won account ↔ stages i = .won account)
    (hfits : stage.Fits payer (trace ++ [⟨i, call, reply⟩]) after.organization.state
      (IsWon (Function.update stages i stage)) i)
    (hclaiming : ∀ account,
      (stages i).IsClaiming (cloud.organization.state.tags account) (owner i) account →
        stage.IsClaiming (cloud.organization.state.tags account) (owner i) account ∨
          IsWon stages account) :
    Orderly payer owner start (trace ++ [⟨i, call, reply⟩]) after
      (Function.update stages i stage) := by
  have hkept : ∀ account, IsWon stages account → IsWon (Function.update stages i stage) account :=
    fun account hwinner => isWon_update hwinner fun other => (hwon other).2
  refine h.advance hundisturbed (.of_eq hstate hkept) hfits
    (fun account hstage j hj => h.unique j i account hj ((hwon account).1 hstage))
    (fun j account hj => ?_) fun account _ => by rw [hstate]
  have htagged := (tagged_append_iff (htag account)).1 hj
  exact isAwarded_update (h.awarded j account htagged) (by rw [hstate]) (fun other =>
    (hwon other).2)
    fun hold => (hclaiming account hold).imp_right (hkept account)

/-- The same for a call that lists nothing, told from the stage before: the party gives up accounts
that are taken, and nothing is new to it. -/
theorem quiet (h : Orderly payer owner start trace cloud stages) {call : Call} {reply : call.Reply}
    (hlist : call ≠ .cloud (.organization (.listAccounts payer.root)))
    (htag : ∀ account tags, call ≠ .cloud (.organization (.tag account tags)))
    (hundisturbed : after.IsUndisturbed)
    (hstate : after.organization.state = cloud.organization.state)
    (hunlisted : stage = .unlisted → stages i = .unlisted)
    (hwon : ∀ account, stage = .won account ↔ stages i = .won account)
    (haccounts : ∀ account ∈ stage.accounts, account ∈ (stages i).accounts)
    (hahead : ∀ rest, stage.ahead? = some rest → ∃ ahead, (stages i).ahead? = some ahead ∧
      ∀ account ∈ ahead, account.isActive = true →
        account ∈ rest ∨ cloud.organization.state.IsTaken account.id)
    (hcurrent : ∀ account, stage.current? = some account → (stages i).current? = some account)
    (hclaiming : ∀ account,
      (stages i).IsClaiming (cloud.organization.state.tags account) (owner i) account →
        stage.IsClaiming (cloud.organization.state.tags account) (owner i) account ∨
          IsWon stages account) :
    Orderly payer owner start (trace ++ [⟨i, call, reply⟩]) after
      (Function.update stages i stage) := by
  refine h.read htag hundisturbed hstate hwon ?_ hclaiming
  have hretains : Retains payer cloud.organization.state after.organization.state (IsWon stages)
      (IsWon (Function.update stages i stage)) :=
    .of_eq hstate fun account hwinner => isWon_update hwinner fun other => (hwon other).2
  refine (h.fits i).onward hretains (fun _ => listed_append_iff hlist) hunlisted haccounts ?_ ?_ ?_
  · rwa [hstate]
  · exact fun account hstage => ((h.fits i).current account (hcurrent account hstage)).append _
  · intro account hstage
    obtain ⟨htagged, hclaimed⟩ := (h.fits i).won account ((hwon account).1 hstage)
    exact ⟨htagged.append _, hretains.claimed account hclaimed⟩

/-- The pool is listed: all accounts of the listing are ahead. -/
theorem list (h : Orderly payer owner start trace cloud stages) {accounts : List Account}
    (hi : stages i = .unlisted)
    (hanswers : Cloud.Answers (.cloud (.organization (.listAccounts payer.root))) cloud
      (.ok accounts) after) :
    Orderly payer owner start
      (trace ++ [⟨i, .cloud (.organization (.listAccounts payer.root)), .ok accounts⟩]) after
      (Function.update stages i (if accounts.isEmpty then .stopped else .scanning accounts)) := by
  obtain ⟨hundisturbed, hstate, hparent⟩ :=
    Cloud.IsUndisturbed.listAccounts h.undisturbed hanswers
  cases accounts with
  | nil =>
    refine h.read (by simp) hundisturbed hstate (by simp [hi]) ?_ (by simp [hi, IsClaiming])
    exact
      { unlisted := by simp
        held := by simp [Stage.accounts, ahead?, current?]
        scanned := by simp [ahead?]
        current := by simp [current?]
        won := by simp }
  | cons account rest =>
    refine h.read (by simp) hundisturbed hstate (by simp [hi]) ?_ (by simp [hi, IsClaiming])
    refine
      { unlisted := by simp
        held := fun other hother => .inl ?_
        scanned := fun remaining hremaining => ⟨account :: rest, by simp [Listed], ?_, ?_⟩
        current := by simp [current?]
        won := by simp }
    · rw [hstate]
      exact hparent other (by simpa [Stage.accounts, ahead?, current?] using hother)
    · intro other hother
      rcases List.mem_append.1 hother with hother | hother
      · exact absurd hother ((h.fits i).unlisted hi other)
      · simpa using hother
    · obtain rfl := Option.some.inj hremaining
      exact fun other hother _ => .inl hother

/-- A party looks at the next active account. -/
theorem look (h : Orderly payer owner start trace cloud stages) {account : Account}
    {skipped rest : List Account} {tags : Tags}
    (hi : stages i = .scanning (skipped ++ account :: rest))
    (hskipped : ∀ other ∈ skipped, other.isActive = false)
    (hanswers : Cloud.Answers (.cloud (.organization (.listTags account.id))) cloud
      (.ok tags) after) :
    Orderly payer owner start
      (trace ++ [⟨i, .cloud (.organization (.listTags account.id)), .ok tags⟩])
      after (Function.update stages i
        (if (Claim.ofTags tags).isFree then .rechecking account rest else .scanning rest)) := by
  obtain ⟨hundisturbed, hstate, htags⟩ := h.undisturbed.listTags hanswers
  -- an active account of the listing is not among those passed over
  have hahead : ∀ other ∈ skipped ++ account :: rest, other.isActive = true →
      other = account ∨ other ∈ rest := by
    intro other hother hactive
    rcases List.mem_append.1 hother with hother | hother
    · simp [hskipped other hother] at hactive
    · exact List.mem_cons.1 hother
  cases hfree : (Claim.ofTags tags).isFree with
  | true =>
    refine h.quiet (by simp) (by simp) hundisturbed hstate (by simp) (by simp [hi]) ?_ ?_
      (by simp [current?]) (by simp [hi, IsClaiming])
    · intro other hother
      simp only [if_true, accounts, ahead?, current?, hi] at hother ⊢
      exact List.mem_append_left _ (List.mem_append_right _ (by simpa using hother))
    · intro remaining hremaining
      obtain rfl := Option.some.inj hremaining
      refine ⟨_, by rw [hi]; rfl, fun other hother hactive => .inl ?_⟩
      exact List.mem_cons.2 (hahead other hother hactive)
  | false =>
    refine h.quiet (by simp) (by simp) hundisturbed hstate (by simp) (by simp [hi]) ?_ ?_
      (by simp [current?]) (by simp [hi, IsClaiming])
    · intro other hother
      simp only [Bool.false_eq_true, if_false, accounts, ahead?, current?, hi] at hother ⊢
      refine List.mem_append_left _ (List.mem_append_right _ (List.mem_cons_of_mem _ ?_))
      simpa using hother
    · intro remaining hremaining
      obtain rfl := Option.some.inj hremaining
      refine ⟨_, by rw [hi]; rfl, fun other hother hactive => ?_⟩
      rcases hahead other hother hactive with rfl | hmem
      · exact .inr (by rw [Organization.IsTaken, htags]; exact hfree)
      · exact .inl hmem

/-- A party looks again at an account that looked free. -/
theorem recheck (h : Orderly payer owner start trace cloud stages) {account : Account}
    {rest : List Account} {tags : Tags} (hi : stages i = .rechecking account rest)
    (hanswers : Cloud.Answers (.cloud (.organization (.listTags account.id))) cloud
      (.ok tags) after) :
    Orderly payer owner start
      (trace ++ [⟨i, .cloud (.organization (.listTags account.id)), .ok tags⟩])
      after (Function.update stages i
        (if (Claim.ofTags tags).isFree then .naming account rest else .scanning rest)) := by
  obtain ⟨hundisturbed, hstate, htags⟩ := h.undisturbed.listTags hanswers
  cases hfree : (Claim.ofTags tags).isFree with
  | true =>
    refine h.quiet (by simp) (by simp) hundisturbed hstate (by simp) (by simp [hi]) ?_ ?_
      (by simp [current?]) (by simp [hi, IsClaiming])
    · simp [hi, accounts, ahead?, current?]
    · intro remaining hremaining
      obtain rfl := Option.some.inj hremaining
      exact ⟨_, by rw [hi]; rfl, fun other hother _ => .inl hother⟩
  | false =>
    refine h.quiet (by simp) (by simp) hundisturbed hstate (by simp) (by simp [hi]) ?_ ?_
      (by simp [current?]) (by simp [hi, IsClaiming])
    · intro other hother
      simp only [hi, accounts, ahead?, current?] at hother ⊢
      exact List.mem_append_left _ (List.mem_cons_of_mem _ (by simpa using hother))
    · intro remaining hremaining
      obtain rfl := Option.some.inj hremaining
      refine ⟨_, by rw [hi]; rfl, fun other hother _ => ?_⟩
      rcases List.mem_cons.1 hother with rfl | hmem
      · exact .inr (by rw [Organization.IsTaken, htags]; exact hfree)
      · exact .inl hmem

/-- A party reads back the tags of the account that it tagged. -/
theorem verify (h : Orderly payer owner start trace cloud stages) {account : Account}
    {token : String} {rest : List Account} {tags : Tags}
    (hi : stages i = .verifying account token rest)
    (hanswers : Cloud.Answers (.cloud (.organization (.listTags account.id))) cloud
      (.ok tags) after) :
    Orderly payer owner start
      (trace ++ [⟨i, .cloud (.organization (.listTags account.id)), .ok tags⟩])
      after (Function.update stages i
        (if keepsClaim tags (owner i) token then .moving account else .scanning rest)) := by
  obtain ⟨hundisturbed, hstate, htags⟩ := h.undisturbed.listTags hanswers
  cases hkeeps : keepsClaim tags (owner i) token with
  | true =>
    refine h.quiet (by simp) (by simp) hundisturbed hstate (by simp) (by simp [hi]) ?_ ?_ ?_ ?_
    · intro other hother
      simp only [hi, accounts, ahead?, current?] at hother ⊢
      exact List.mem_append_right _ (by simpa using hother)
    · simp [ahead?]
    · simp [hi, current?]
    · intro other hclaiming
      rw [hi] at hclaiming
      exact .inl hclaiming.1
  | false =>
    refine h.quiet (by simp) (by simp) hundisturbed hstate (by simp) (by simp [hi]) ?_ ?_
      (by simp [current?]) ?_
    · intro other hother
      simp only [hi, accounts, ahead?, current?] at hother ⊢
      exact List.mem_append_left _ (by simpa using hother)
    · intro remaining hremaining
      obtain rfl := Option.some.inj hremaining
      exact ⟨_, by rw [hi]; rfl, fun other hother _ => .inl hother⟩
    · -- a party that does not find its claim was not about to win the account
      intro other hclaiming
      rw [hi] at hclaiming
      obtain ⟨rfl, hkept⟩ := hclaiming
      rw [htags, hkeeps] at hkept
      exact absurd hkept Bool.false_ne_true

/-! ## Calls that change an account -/

/-- A party tags the account that it has looked at twice.  Whoever was about to win the account is
not any more, but this party now is, unless the account was won before. -/
theorem tag (h : Orderly payer owner start trace cloud stages) {account : Account} {token : String}
    {rest : List Account} (hi : stages i = .tagging account token rest)
    (hanswers : Cloud.Answers
      (.cloud (.organization (.tag account.id (Tags.ofClaim (owner i) token)))) cloud
      (.ok ()) after) :
    Orderly payer owner start
      (trace ++ [⟨i, .cloud (.organization (.tag account.id (Tags.ofClaim (owner i) token))),
        .ok ()⟩])
      after (Function.update stages i (.verifying account token rest)) := by
  obtain ⟨hundisturbed, htags, -, hfind⟩ := Cloud.IsUndisturbed.tag h.undisturbed hanswers
  have htaken := isTaken_of_tag h.undisturbed hanswers
  have hwon : ∀ other, stages i = .won other → Stage.verifying account token rest = .won other := by
    simp [hi]
  have hretains : Retains payer cloud.organization.state after.organization.state (IsWon stages)
      (IsWon (Function.update stages i (.verifying account token rest))) :=
    .tag h.undisturbed hanswers fun other hwinner => isWon_update hwinner hwon
  refine h.advance hundisturbed hretains ?fits (by simp) (fun j other hj => ?awarded)
    fun other hnone => hfind other ?untouched
  case fits =>
    refine (h.fits i).onward hretains (fun _ => listed_append_iff (by simp)) (by simp) ?_ ?_
      ?_ (by simp)
    · intro other hother
      simpa [hi, accounts, ahead?, current?, or_comm] using hother
    · intro remaining hremaining
      obtain rfl := Option.some.inj hremaining
      refine ⟨_, by rw [hi]; rfl, fun other hother _ => ?_⟩
      rcases List.mem_cons.1 hother with rfl | hmem
      · exact .inr htaken
      · exact .inl hmem
    · rintro _ ⟨⟩
      exact ⟨_, List.mem_append_right _ (List.mem_singleton.2 rfl)⟩
  case awarded =>
    by_cases heq : other = account.id
    · rw [heq]
      refine ⟨htaken, ?_⟩
      -- an account that somebody has won stays won; otherwise this party will find its own claim
      rcases (h.fits i).held account (by simp [hi, accounts, ahead?]) with hroot | hwinner
      · refine .inr ⟨i, ?_⟩
        rw [Function.update_self, htags]
        exact ⟨rfl, keepsClaim_written ..⟩
      · exact .inl (hretains.won _ hwinner)
    · exact isAwarded_update (h.awarded j other (tagged_of_ne heq hj))
        (Organization.tags_congr (hfind other heq)) hwon (by simp [hi, IsClaiming])
  case untouched =>
    rintro rfl
    exact hnone i ⟨_, List.mem_append_right _ (List.mem_singleton.2 rfl)⟩

/-- A party moves the account on which it found its claim. -/
theorem move (h : Orderly payer owner start trace cloud stages)
    (hpayer : payer.root ≠ payer.claimed) {account : Account} (hi : stages i = .moving account)
    (hanswers : Cloud.Answers
      (.cloud (.organization (.move account.id payer.root payer.claimed))) cloud (.ok ()) after) :
    Orderly payer owner start
      (trace ++ [⟨i, .cloud (.organization (.move account.id payer.root payer.claimed)), .ok ()⟩])
      after (Function.update stages i (.won account.id)) := by
  obtain ⟨hundisturbed, hroot, hclaimed, htags, hfind⟩ :=
    Cloud.IsUndisturbed.move h.undisturbed hanswers
  have hwon : ∀ other, stages i = .won other → Stage.won account.id = .won other := by simp [hi]
  have hwinner : IsWon (Function.update stages i (.won account.id)) account.id :=
    ⟨i, Function.update_self ..⟩
  have htagged : Tagged trace i account.id := (h.fits i).current account (by rw [hi]; rfl)
  have hretains : Retains payer cloud.organization.state after.organization.state (IsWon stages)
      (IsWon (Function.update stages i (.won account.id))) :=
    .move h.undisturbed hanswers hwinner fun other hwins => isWon_update hwins hwon
  refine h.advance hundisturbed hretains ?fits ?unique (fun j other hj => ?awarded)
    fun other hnone => hfind other ?untouched
  case fits =>
    refine (h.fits i).onward hretains (fun _ => listed_append_iff (by simp)) (by simp)
      (by simp [accounts, ahead?, current?]) (by simp [ahead?]) (by simp [current?]) ?_
    rintro _ ⟨⟩
    exact ⟨htagged.append _, hclaimed⟩
  case unique =>
    -- nobody has won the account yet, since it was under the root
    rintro _ ⟨⟩ j hj
    have hmoved := ((h.fits j).won account.id hj).2
    rw [hroot] at hmoved
    exact absurd (Option.some.inj hmoved) hpayer
  case awarded =>
    have hold := h.awarded j other ((tagged_append_iff (by simp)).1 hj)
    refine isAwarded_update hold (htags other) hwon fun hclaiming => .inr ?_
    rw [hi] at hclaiming
    obtain rfl : account.id = other := hclaiming
    exact hwinner
  case untouched =>
    rintro rfl
    exact hnone i (htagged.append _)

/-! ## Every move -/

/-- A request fails only when the account has been moved by somebody else. -/
theorem failed (h : Orderly payer owner start trace cloud stages) {request : Organization.Request}
    {failure : ServiceError} (hasks : Asks payer (owner i) (stages i) request)
    (hanswers : Cloud.Answers (.cloud (.organization request)) cloud (.error failure) after) :
    Orderly payer owner start (trace ++ [⟨i, .cloud (.organization request), .error failure⟩]) after
      (Function.update stages i .stopped) := by
  generalize hi : stages i = stage at hasks
  cases hasks with
  | list => exact absurd hanswers h.undisturbed.not_failed_listAccounts
  | look =>
    exact absurd (h.undisturbed.failed_listTags hanswers)
      (h.find?_ne_none (i := i) (by simp [hi, accounts, ahead?]))
  | recheck =>
    exact absurd (h.undisturbed.failed_listTags hanswers)
      (h.find?_ne_none (i := i) (by simp [hi, accounts, ahead?]))
  | tag =>
    exact absurd (h.undisturbed.failed_tag hanswers)
      (h.find?_ne_none (i := i) (by simp [hi, accounts, ahead?]))
  | verify =>
    exact absurd (h.undisturbed.failed_listTags hanswers)
      (h.find?_ne_none (i := i) (by simp [hi, accounts, current?]))
  | @move account =>
    obtain ⟨hundisturbed, hstate, hmoved⟩ := h.undisturbed.failed_move hanswers
    have hwinner : IsWon stages account.id :=
      ((h.fits i).held account (by simp [hi, accounts, current?])).resolve_left hmoved
    refine h.quiet (by simp) (by simp) hundisturbed hstate (by simp) (by simp [hi])
      (by simp [accounts, ahead?, current?]) (by simp [ahead?]) (by simp [current?]) ?_
    intro other hclaiming
    rw [hi] at hclaiming
    obtain rfl : account.id = other := hclaiming
    exact .inr hwinner

/-- Every move of every party keeps the invariant. -/
theorem step (h : Orderly payer owner start trace cloud stages)
    (hpayer : payer.root ≠ payer.claimed) {call : Call} {reply : call.Reply}
    (hanswers : Cloud.Answers call cloud reply after)
    (hmoves : Moves payer (owner i) (stages i) call reply stage) :
    Orderly payer owner start (trace ++ [⟨i, call, reply⟩]) after
      (Function.update stages i stage) := by
  generalize hi : stages i = first at hmoves
  cases hmoves with
  | host =>
    -- calls to a host are not calls to the organization
    obtain rfl : after = cloud := hanswers
    obtain rfl := hi
    exact h.quiet (by simp) (by simp) h.undisturbed rfl id (fun _ => .rfl)
      (fun _ haccount => haccount)
      (fun rest hrest => ⟨rest, hrest, fun _ hmem _ => .inl hmem⟩) (fun _ hcurrent => hcurrent)
      fun _ hclaiming => .inl hclaiming
  | named =>
    obtain rfl : after = cloud := hanswers
    refine h.quiet (by simp) (by simp) h.undisturbed rfl (by simp) (by simp [hi]) ?_ ?_
      (by simp [current?]) (by simp [hi, IsClaiming])
    · simp [hi, accounts, ahead?, current?]
    · intro rest hrest
      refine ⟨_, by rw [hi]; rfl, fun account haccount _ => .inl ?_⟩
      obtain rfl := Option.some.inj hrest
      exact haccount
  | failed hasks =>
    rw [← hi] at hasks
    exact h.failed hasks hanswers
  | listed => exact h.list hi hanswers
  | tagged => exact h.tag hi hanswers
  | moved => exact h.move hpayer hi hanswers
  | looked hskipped => exact h.look hi hskipped hanswers
  | rechecked => exact h.recheck hi hanswers
  | verified => exact h.verify hi hanswers

end Orderly

end AccountLending.Lending
