import AccountLending.Proofs.CommandLine.Checks
import AccountLending.Proofs.Json.Records
import AccountLending.World.Connected

/-!
# What a command comes to

A command is carried out in two parts: first it is checked and connected (`prepare`), then its
operation runs and how that ended is told (`Command.carryOut`).  Requests are sent in the second
part only, and something is written to the standard output only when the operation has returned what
was asked for.

* `Finding` — what operations return, and what is written for it;
* `Command.operation` — the operation that a command asks for;
* `execute_eq` — a command is its two parts, one after the other;
* `Surroundings.tells_carryOut` — what is returned and written once the operation has ended;
* `program_outcome` — when requests are sent, which exit code is returned, and what is written.
-/

namespace AccountLending.CommandLine

open Job (print say doing)

/-! ## Operations and what they return -/

/-- What the operation of a command returns. -/
inductive Finding
  /-- An account was lent. -/
  | assigned (account : String)
  | owner (account owner : String)
  | accounts (user : String) (accounts : List String)
  | owners (owners : Dict (List String))
  /-- Accounts were taken back, or the operator said no. -/
  | reclaimed (outcome : Lending.ReclaimOutcome)

namespace Finding

/-- The document of what was looked up. -/
def document? : Finding → Option Json
  | .owner id name => some (.record [("AccountId", .str id), ("Owner", .str name)])
  | .accounts user ids => some (.record [("User", .str user), ("Accounts", .texts ids)])
  | .owners found => some (.ofDict (fun _ => .texts) found)
  | .assigned _ | .reclaimed _ => none

/-- What is written to the standard output: the number of the account that was lent, on a line of
its own, or the document of what was looked up. -/
def written (pretty : Bool) : Finding → String
  | .assigned account => account ++ "\n"
  | .reclaimed _ => ""
  | finding => (finding.document?.map (documentText · pretty)).getD ""

end Finding

namespace Command

/-- Whether a document is written with one item a line. -/
def isPretty : Command → Bool
  | .list _ _ _ pretty => pretty
  | _ => false

/-- The operation that a command asks for. -/
def operation (settings : PoolSettings) (payer : Payer) : Command → Action Finding
  | .assign _ user (some id) =>
    .assigned <$> Lending.assignAccount payer settings.allocation id user
  | .assign _ user none => .assigned <$> Lending.assign payer settings.allocation user
  | .list _ _ (some id) _ => .owner id <$> Lending.ownerOf id
  | .list _ (some user) none _ => .accounts user <$> Lending.accountsOf user
  | .list _ none none _ => .owners <$> Lending.ownersUnder payer.claimed
  | .unassign _ target yes =>
    let reclaimer : Lending.Reclaimer := ⟨payer, settings.reclaim⟩
    .reclaimed <$> reclaimer.reclaim (if yes then assumeYes else askOnTerminal) target

/-- Let the operation of a command run, and tell how that ended. -/
def carryOut (settings : PoolSettings) (payer : Payer) : Command → Job Unit
  | .assign _ user account => do
    let assigned ← match account with
      | some id =>
        doing ("Failed to assign account " ++ id ++ " to " ++ user)
          (Lending.assignAccount payer settings.allocation id user)
      | none =>
        doing ("Failed to assign an account to " ++ user)
          (Lending.assign payer settings.allocation user)
    print (assigned ++ "\n")
    say (noteText ("assigned account " ++ assigned ++ " to " ++ user ++ " (moved to "
      ++ payer.claimed ++ ")"))
  | .list _ user account pretty =>
    match account, user with
    | some id, _ => do
      let owner ← doing ("Failed to look up the owner of account " ++ id) (Lending.ownerOf id)
      printDocument (.record [("AccountId", .str id), ("Owner", .str owner)]) pretty
    | none, some name => do
      let accounts ← doing ("Failed to list the accounts of " ++ name) (Lending.accountsOf name)
      printDocument (.record [("User", .str name), ("Accounts", .texts accounts)]) pretty
    | none, none => do
      let owners ← doing ("Failed to list the accounts under " ++ payer.claimed)
        (Lending.ownersUnder payer.claimed)
      printDocument
        (.record (owners.entries.map fun (owner, accounts) => (owner, .texts accounts))) pretty
  | .unassign _ target yes => do
    let reclaimer : Lending.Reclaimer := ⟨payer, settings.reclaim⟩
    let confirm := if yes then assumeYes else askOnTerminal
    conclude target (← ExceptT.lift (reclaimer.reclaim confirm target).run)

end Command

/-- A command is checked first, and carried out then. -/
theorem execute_eq (invocation : Invocation) :
    execute invocation =
      prepare invocation >>= fun (settings, payer) =>
        invocation.command.carryOut settings payer := by
  obtain ⟨config, debug, command⟩ := invocation
  rw [prepare, bind_assoc]
  cases command with
  | assign name user account =>
    refine bind_congr fun found => ?_
    obtain ⟨settings, payer⟩ := found
    show assign settings payer user account = _
    simp only [Command.check, bind_assoc, pure_bind, assign]
    split
    · rfl
    · rfl
  | list name user account pretty =>
    refine bind_congr fun found => ?_
    obtain ⟨settings, payer⟩ := found
    show list payer user account pretty = _
    simp only [Command.check, bind_assoc, pure_bind, list]
    rfl
  | unassign name target yes =>
    refine bind_congr fun found => ?_
    obtain ⟨settings, payer⟩ := found
    show unassign settings payer target yes = _
    simp only [Command.check, bind_assoc, pure_bind, unassign]
    refine bind_congr fun _ => bind_congr fun isTerminal => ?_
    cases yes <;> cases isTerminal <;> rfl

/-! ## Reports -/

theorem silent_say (text : String) : (say text).run.Uses Call.IsSilent :=
  ⟨trivial, fun _ => trivial⟩

theorem silent_conclude (target : Lending.ReclaimTarget)
    (result : Except PoolError Lending.ReclaimOutcome) :
    (conclude target result).run.Uses Call.IsSilent := by
  have hfinished (reports : List Report) : (sayFinished reports).run.Uses Call.IsSilent := by
    rw [sayFinished]
    split
    · trivial
    · exact (silent_say _).bind_except fun _ => silent_say _
  unfold conclude
  split
  · exact silent_say _
  · exact (silent_say _).bind_except fun _ => silent_say _
  · exact (silent_say _).bind_except fun _ => (silent_say _).bind_except fun _ => trivial
  · exact (hfinished _).bind_except fun _ => trivial
  · trivial

theorem silent_confirm (yes : Bool) (question : String) :
    ((if yes then assumeYes else askOnTerminal) question).Uses Call.IsSilent := by
  cases yes with
  | true => exact ⟨trivial, fun _ => trivial⟩
  | false =>
    refine ⟨trivial, fun _ => ⟨trivial, fun reply => ?_⟩⟩
    cases reply <;> trivial

/-! ## Operations and what is told of them -/

section

variable {σ α : Type} {limit : Nat} {outside : Outside σ}

namespace Surroundings

variable (surroundings : Surroundings σ)

/-- A job lets an operation run and tells how that ended: it ends without failure and writes the
finding when there is one, and it fails and writes nothing when the operation fails. -/
structure Tells (limit : Nat) (pretty : Bool) (action : Action Finding) (job : Job Unit)
    (outside : Outside σ) : Prop where
  found : ∀ finding, (surroundings.run limit action.run outside).1 = .ok finding →
    (surroundings.run limit job.run outside).1 = .ok () ∧
      (surroundings.run limit job.run outside).2.output = outside.output ++ finding.written pretty
  failed : ∀ e, (surroundings.run limit action.run outside).1 = .error e →
    (∃ error, (surroundings.run limit job.run outside).1 = .error error) ∧
      (surroundings.run limit job.run outside).2.output = outside.output

/-- An operation whose result is written as soon as it is there. -/
theorem tells_doing {pretty : Bool} {words : String} {action : Action α} {f : α → Finding}
    {next : α → Job Unit} (hsilent : action.Uses Call.IsSilent)
    (hnext : ∀ a mid, (surroundings.run limit (next a).run mid).1 = .ok () ∧
      (surroundings.run limit (next a).run mid).2.output = mid.output ++ (f a).written pretty) :
    surroundings.Tells limit pretty (f <$> action) (doing words action >>= next) outside := by
  have houtput : (surroundings.run limit action.run outside).2.output = outside.output :=
    surroundings.output_run_of_silent hsilent outside
  constructor
  case found =>
    intro finding hfinding
    obtain ⟨a, ha, rfl⟩ := (surroundings.run_map_eq_ok_iff ..).1 hfinding
    obtain ⟨hok, hwritten⟩ := hnext a (surroundings.run limit action.run outside).2
    rw [run_job_bind, run_doing, ha]
    exact ⟨hok, houtput ▸ hwritten⟩
  case failed =>
    intro e hfailed
    rw [run_job_bind, run_doing, (surroundings.run_map_eq_error_iff ..).1 hfailed]
    exact ⟨⟨_, rfl⟩, houtput⟩

/-- A job that goes on with one that always fails does so too. -/
theorem fails_bind {job : Job α} {next : α → Job Unit}
    (hnext : ∀ a mid, ∃ error, (surroundings.run limit (next a).run mid).1 = .error error)
    (outside : Outside σ) :
    ∃ error, (surroundings.run limit (job >>= next).run outside).1 = .error error := by
  rw [run_job_bind]
  cases (surroundings.run limit job.run outside).1 with
  | ok a => exact hnext a _
  | error e => exact ⟨e, rfl⟩

/-- Telling of a reclamation that failed is a failure. -/
theorem fails_conclude (target : Lending.ReclaimTarget) (e : PoolError) (outside : Outside σ) :
    ∃ error, (surroundings.run limit (conclude target (.error e)).run outside).1 =
      .error error := by
  have hthrow (error : CommandError) (mid : Outside σ) :
      ∃ other, (surroundings.run limit (throw error : Job Unit).run mid).1 = .error other :=
        ⟨error, rfl⟩
  cases e with
  | teardownIncomplete reports =>
    exact surroundings.fails_bind (fun _ => surroundings.fails_bind fun _ => hthrow _) outside
  | reclaimAborted account source reports =>
    exact surroundings.fails_bind (fun _ => hthrow _) outside
  | _ => exact hthrow _ outside

/-- How a reclamation ended is told on the standard error only. -/
theorem tells_conclude {pretty : Bool} {action : Action Lending.ReclaimOutcome}
    {target : Lending.ReclaimTarget} (hsilent : action.Uses Call.IsSilent) :
    surroundings.Tells limit pretty (.reclaimed <$> action)
      (ExceptT.lift action.run >>= conclude target)
      outside := by
  have hlift : surroundings.run limit (ExceptT.lift action.run : Job _).run outside =
      (.ok (surroundings.run limit action.run outside).1,
        (surroundings.run limit action.run outside).2) :=
    surroundings.run_bind limit action.run _ outside
  have houtput :
      (surroundings.run limit (ExceptT.lift action.run >>= conclude target).run outside).2.output =
      outside.output := by
    rw [run_job_bind, hlift]
    exact (surroundings.output_run_of_silent (silent_conclude target _) _).trans
      (surroundings.output_run_of_silent hsilent outside)
  constructor
  case found =>
    intro finding hfinding
    obtain ⟨outcome, houtcome, rfl⟩ := (surroundings.run_map_eq_ok_iff ..).1 hfinding
    rw [houtput, Finding.written, String.append_empty, run_job_bind, hlift, houtcome]
    refine ⟨?_, rfl⟩
    cases outcome <;> rfl
  case failed =>
    intro e hfailed
    refine ⟨?_, houtput⟩
    rw [run_job_bind, hlift, (surroundings.run_map_eq_error_iff ..).1 hfailed]
    exact surroundings.fails_conclude target e _

/-- Carrying out a command is letting its operation run, and telling how that ended. -/
theorem tells_carryOut (limit : Nat) (settings : PoolSettings) (payer : Payer) (command : Command)
    (outside : Outside σ) :
    surroundings.Tells limit command.isPretty (command.operation settings payer)
      (command.carryOut settings payer) outside := by
  cases command with
  | assign name user account =>
    cases account with
    | none => exact surroundings.tells_doing (Lending.silent_assign ..) fun _ _ => ⟨rfl, rfl⟩
    | some id =>
      exact surroundings.tells_doing (Lending.silent_assignAccount ..) fun _ _ => ⟨rfl, rfl⟩
  | list name user account pretty =>
    cases account with
    | some id => exact surroundings.tells_doing (Lending.silent_ownerOf ..) fun _ _ => ⟨rfl, rfl⟩
    | none =>
      cases user with
      | some user =>
        exact surroundings.tells_doing (Lending.silent_accountsOf ..) fun _ _ => ⟨rfl, rfl⟩
      | none => exact surroundings.tells_doing (Lending.silent_ownersUnder ..) fun _ _ => ⟨rfl, rfl⟩
  | unassign name target yes =>
    exact surroundings.tells_conclude (Lending.Reclaimer.silent_reclaim
      _ (silent_confirm yes) target)

/-! ## The whole program -/

/-- How things stand when a command is past its checks and connected. -/
def ready (limit : Nat) (invocation : Invocation) (state : σ) : Outside σ :=
  (surroundings.run limit (prepare invocation).run ⟨state, [], ""⟩).2

/-- A command passes its checks and is connected, and its operation returns a finding. -/
def Finds (limit : Nat) (invocation : Invocation) (state : σ) (finding : Finding) : Prop :=
  ∃ settings payer, surroundings.Passes invocation settings payer ∧
    surroundings.hasCredentials payer = true ∧
    (surroundings.run limit (invocation.command.operation settings payer).run
      (surroundings.ready limit invocation state)).1 = .ok finding

end Surroundings

theorem parse?_documentText {document : Json} (h : Json.IsExact document) (pretty : Bool) :
    Json.parse? (documentText document pretty) = some document := by
  have hgap : ∀ c ∈ ['\n'], Json.isGap c = true := by simp [Json.isGap]
  cases pretty with
  | true =>
    exact Json.parse?_of_spell (Json.spell_laidOut h 0) _ hgap (by simp [documentText, Json.pretty])
  | false =>
    exact Json.parse?_of_spell (Json.spell_written h) _ hgap (by simp [documentText, Json.compact])

theorem Finding.isExact_document {finding : Finding} {document : Json}
    (h : finding.document? = some document) : Json.IsExact document := by
  cases finding with
  | assigned account => cases h
  | reclaimed outcome => cases h
  | owner account name =>
    cases h
    exact .record (by simp [Json.IsExact.str])
  | accounts user ids =>
    cases h
    exact .record (by simp [Json.IsExact.str, Json.IsExact.texts])
  | owners found =>
    cases h
    exact .ofDict (fun _ => .texts) found

/-- What the standard output holds for what the operation of a command returned: the number of the
account that was lent, the document of what was looked up, or nothing. -/
def Command.Shows (finding : Finding) (output : String) : Command → Prop
  | .assign .. => ∃ account, finding = .assigned account ∧ output = account ++ "\n"
  | .list _ _ _ pretty => ∃ document,
    finding.document? = some document ∧ output = documentText document pretty ∧
    Json.parse? output = some document
  | .unassign .. => ∃ outcome, finding = .reclaimed outcome ∧ output = ""

/-- What is written for a finding is what the command is to show. -/
theorem Surroundings.shows_written (surroundings : Surroundings σ) {settings : PoolSettings}
    {payer : Payer} {command : Command} {finding : Finding}
    (h : (surroundings.run limit (command.operation settings payer).run outside).1 = .ok finding) :
    command.Shows finding (finding.written command.isPretty) := by
  have hparse (pretty : Bool) {document : Json} (hdocument : finding.document? = some document) :
      Json.parse? (documentText document pretty) = some document :=
    parse?_documentText (Finding.isExact_document hdocument) pretty
  cases command with
  | assign name user account =>
    cases account with
    | none =>
      obtain ⟨assigned, -, rfl⟩ := (surroundings.run_map_eq_ok_iff ..).1 h
      exact ⟨assigned, rfl, rfl⟩
    | some id =>
      obtain ⟨assigned, -, rfl⟩ := (surroundings.run_map_eq_ok_iff ..).1 h
      exact ⟨assigned, rfl, rfl⟩
  | list name user account pretty =>
    cases account with
    | some id =>
      obtain ⟨owner, -, rfl⟩ := (surroundings.run_map_eq_ok_iff ..).1 h
      exact ⟨_, rfl, rfl, hparse pretty rfl⟩
    | none =>
      cases user with
      | some user =>
        obtain ⟨ids, -, rfl⟩ := (surroundings.run_map_eq_ok_iff ..).1 h
        exact ⟨_, rfl, rfl, hparse pretty rfl⟩
      | none =>
        obtain ⟨owners, -, rfl⟩ := (surroundings.run_map_eq_ok_iff ..).1 h
        exact ⟨_, rfl, rfl, hparse pretty rfl⟩
  | unassign name target yes =>
    obtain ⟨outcome, -, rfl⟩ := (surroundings.run_map_eq_ok_iff ..).1 h
    exact ⟨outcome, rfl, rfl⟩

namespace Surroundings

variable (surroundings : Surroundings σ)

/-- How a command may end, and what it has written then: it ends without failure when its operation
returned a finding, and writes nothing when there is none. -/
def Ends (limit : Nat) (invocation : Invocation) (state : σ) (output : String) :
    Except CommandError Unit → Prop
  | .ok () =>
    ∃ finding, surroundings.Finds limit invocation state finding ∧
      invocation.command.Shows finding output
  | .error _ => (∀ finding, ¬ surroundings.Finds limit invocation state finding) ∧ output = ""

theorem ends_execute (limit : Nat) (invocation : Invocation) (state : σ) :
    surroundings.Ends limit invocation state
      (surroundings.run limit (execute invocation).run ⟨state, [], ""⟩).2.output
      (surroundings.run limit (execute invocation).run ⟨state, [], ""⟩).1 := by
  have hunwritten : (surroundings.ready limit invocation state).output = "" :=
    (surroundings.seen_prepare limit invocation ⟨state, [], ""⟩).2
  rw [execute_eq, run_job_bind]
  cases hprepared : (surroundings.run limit (prepare invocation).run ⟨state, [], ""⟩).1 with
  | error e =>
    refine ⟨?_, hunwritten⟩
    rintro finding ⟨settings, payer, hpasses, hcredentials, -⟩
    have hready := hprepared.symm.trans
      ((surroundings.run_prepare_eq_ok_iff invocation settings payer).2 ⟨hpasses, hcredentials⟩)
    cases hready
  | ok found =>
    obtain ⟨settings, payer⟩ := found
    obtain ⟨hpasses, hcredentials⟩ :=
      (surroundings.run_prepare_eq_ok_iff invocation settings payer).1 hprepared
    have htells := surroundings.tells_carryOut limit settings payer invocation.command
      (surroundings.ready limit invocation state)
    show surroundings.Ends limit invocation state
      (surroundings.run limit (invocation.command.carryOut settings payer).run
        (surroundings.ready limit invocation state)).2.output
      (surroundings.run limit (invocation.command.carryOut settings payer).run
        (surroundings.ready limit invocation state)).1
    cases hfound : (surroundings.run limit (invocation.command.operation settings payer).run
        (surroundings.ready limit invocation state)).1 with
    | ok finding =>
      obtain ⟨hok, hwritten⟩ := htells.found finding hfound
      rw [hok, hwritten, hunwritten, String.empty_append]
      exact ⟨finding, ⟨settings, payer, hpasses, hcredentials, hfound⟩,
        surroundings.shows_written hfound⟩
    | error e =>
      obtain ⟨⟨error, herror⟩, hwritten⟩ := htells.failed e hfound
      rw [herror, hwritten]
      refine ⟨?_, hunwritten⟩
      rintro finding ⟨settings', payer', hpasses', hcredentials', hfound'⟩
      -- the checks leave no choice of settings and payer
      have hsame := hprepared.symm.trans
        ((surroundings.run_prepare_eq_ok_iff invocation settings' payer').2
          ⟨hpasses', hcredentials'⟩)
      cases hsame
      rw [hfound] at hfound'
      cases hfound'

/-- Nothing is sent unless a command is past its checks. -/
theorem sent_execute (limit : Nat) (invocation : Invocation) (state : σ)
    (h : (surroundings.run limit (execute invocation).run ⟨state, [], ""⟩).2.sent ≠ []) :
    ∃ settings payer, surroundings.Passes invocation settings payer := by
  rw [execute_eq, run_job_bind] at h
  cases hprepared : (surroundings.run limit (prepare invocation).run ⟨state, [], ""⟩).1 with
  | ok found => exact ⟨_, _, ((surroundings.run_prepare_eq_ok_iff ..).1 hprepared).1⟩
  | error e =>
    rw [hprepared] at h
    exact absurd (surroundings.seen_prepare limit invocation ⟨state, [], ""⟩).1 h

/-- The whole program carries out the command, says why it failed if it did, and returns the exit
code. -/
theorem run_finish (limit : Nat) (invocation : Invocation) (outside : Outside σ) :
    (surroundings.run limit (finish invocation) outside).2.sent =
        (surroundings.run limit (execute invocation).run outside).2.sent ∧
      (surroundings.run limit (finish invocation) outside).2.output =
        (surroundings.run limit (execute invocation).run outside).2.output ∧
      (surroundings.run limit (finish invocation) outside).1 =
        match (surroundings.run limit (execute invocation).run outside).1 with
        | .ok () => 0
        | .error _ => 1 := by
  rw [finish, Program.bind_eq, run_bind]
  cases (surroundings.run limit (execute invocation).run outside).1 with
  | ok _ => exact ⟨rfl, rfl, rfl⟩
  | error error => exact ⟨rfl, rfl, rfl⟩

end Surroundings

end

/-- A command that could be read sends requests only when its settings are usable, its payer is one
of them and its arguments are allowed.  It ends with 0 exactly when all this is so, it gets
connected, and its operation returns something, be it that the operator said no, and then this is
what the standard output holds.  Otherwise it ends with 1, and the standard output is empty. -/
theorem program_outcome {σ : Type} {environment : Option String} {words : List String}
    {invocation : Invocation} (hwords : Invocation.ofWords environment words = .ok invocation)
    (limit : Nat) (surroundings : Surroundings σ) (state : σ) :
    let run :=
      (Client.connected limit (program environment words)).run surroundings.serve ⟨state, [], ""⟩
    (run.2.sent ≠ [] → ∃ settings payer, surroundings.Passes invocation settings payer) ∧
      ((run.1 = 0 ∧ ∃ finding, surroundings.Finds limit invocation state finding ∧
          invocation.command.Shows finding run.2.output) ∨
        (run.1 = 1 ∧ (∀ finding, ¬ surroundings.Finds limit invocation state finding) ∧
          run.2.output = "")) := by
  have hprogram : program environment words = finish invocation := by rw [program, hwords]
  rw [hprogram]
  intro run
  obtain ⟨hsent, houtput, hcode⟩ : run.2.sent = _ ∧ run.2.output = _ ∧ run.1 = _ :=
    surroundings.run_finish limit invocation ⟨state, [], ""⟩
  have hends := surroundings.ends_execute limit invocation state
  rw [hsent, houtput, hcode]
  refine ⟨surroundings.sent_execute limit invocation state, ?_⟩
  cases hresult : (surroundings.run limit (execute invocation).run ⟨state, [], ""⟩).1 with
  | ok _ =>
    rw [hresult] at hends
    exact .inl ⟨rfl, hends⟩
  | error e =>
    rw [hresult] at hends
    exact .inr ⟨rfl, hends⟩

/-! ### A pool of two accounts -/

/-- The settings file of a pool with one payer. -/
def labText : String :=
  "\x7b\"Payers\":\x7b\"lab\":\x7b\"RootOuId\":\"r-lab\",\"ClaimedOuId\":\"ou-lab\"\x7d\x7d\x7d"

/-- Two accounts, of which the first one is lent. -/
def labWorld : World where
  cloud := (Cloud.ofCaller (.ok "999999999999")).changeOrganization fun _ =>
    { members := [⟨{ id := "111111111111", status := .active }, "ou-lab",
      Tags.ofClaim "alice" "t1"⟩,
        ⟨{ id := "222222222222", status := .active }, "r-lab", Dict.empty⟩] }

/-- There is a settings file but no terminal, and requests are answered from the two accounts. -/
def labSurroundings : Surroundings World where
  file path := if path = "pool.json" then .ok labText else .error .noFile
  isTerminal := false
  hasCredentials _ := true
  answer := World.serveSent

/-- Run a command with the settings file. -/
def labRun (words : List String) : UInt32 × Outside World :=
  (Client.connected 3 (program none ("--config" :: "pool.json" :: words))).run labSurroundings.serve
    ⟨labWorld, [], ""⟩

/-- The owner of the lent account is looked up, the free account is lent, and the lent one is taken
back without a question.  Two commands are refused before anything is sent: an account that is no
number, and a reclamation that nobody can confirm. -/
theorem program_outcome_crew :
    let document := Json.record [("AccountId", .str "111111111111"), ("Owner", .str "alice")]
    let listed := labRun ["list", "-p", "lab", "-a", "111111111111"]
    let assigned := labRun ["assign", "-p", "lab", "-u", "grace"]
    let unassigned := labRun ["unassign", "-p", "lab", "-u", "alice", "--yes"]
    let refused := labRun ["assign", "-p", "lab", "-u", "grace", "-a", "1111"]
    let unconfirmed := labRun ["unassign", "-p", "lab", "-u", "alice"]
    (listed.1 = 0 ∧ listed.2.output = documentText document false ∧
      Json.parse? listed.2.output = some document) ∧
    (assigned.1 = 0 ∧ assigned.2.output = "222222222222\n" ∧
      labSurroundings.Finds 3 ⟨some "pool.json", false, .assign "lab" "grace" none⟩ labWorld
        (.assigned "222222222222")) ∧
    (unassigned.1 = 0 ∧ unassigned.2.output = "" ∧
      unassigned.2.state.cloud.organization.state.parent? "111111111111" = some "r-lab") ∧
    (refused.1 = 1 ∧ refused.2.sent = [] ∧ refused.2.output = "") ∧
      unconfirmed.1 = 1 ∧ unconfirmed.2.sent = [] ∧ unconfirmed.2.output = "" := by
  intro document listed assigned unassigned refused unconfirmed
  have hrefused (words : List String) (invocation : Invocation)
      (hwords : Invocation.ofWords none ("--config" :: "pool.json" :: words) = .ok invocation)
      (hnot : ¬ invocation.command.IsAllowed false) :
      (labRun words).1 = 1 ∧ (labRun words).2.sent = [] ∧ (labRun words).2.output = "" := by
    obtain ⟨hsent, hends⟩ := program_outcome hwords 3 labSurroundings labWorld
    have hpasses : ¬ ∃ settings payer, labSurroundings.Passes invocation settings payer :=
      fun ⟨_, _, hpasses⟩ => hnot hpasses.allowed
    rcases hends with ⟨-, finding, ⟨settings, payer, hpassed, -⟩, -⟩ | ⟨hcode, -, houtput⟩
    · exact absurd ⟨settings, payer, hpassed⟩ hpasses
    · exact ⟨hcode, Decidable.byContradiction fun hsome => hpasses (hsent hsome), houtput⟩
  -- a command that has written something, or has ended with 0, has found what it shows
  have hfound (words : List String) (invocation : Invocation)
      (hwords : Invocation.ofWords none ("--config" :: "pool.json" :: words) = .ok invocation)
      (hended : (labRun words).1 = 0 ∨ (labRun words).2.output ≠ "") :
      (labRun words).1 = 0 ∧ ∃ finding, labSurroundings.Finds 3 invocation labWorld finding ∧
        invocation.command.Shows finding (labRun words).2.output := by
    obtain ⟨-, hends | ⟨hfailed, -, hempty⟩⟩ := program_outcome hwords 3 labSurroundings labWorld
    · exact hends
    · rcases hended with hcode | hwritten
      · exact absurd (hfailed.symm.trans hcode) (by decide)
      · exact absurd hempty hwritten
  refine ⟨?listed, ?assigned, ?unassigned,
    hrefused _ ⟨some "pool.json", false, .assign "lab" "grace" (some "1111")⟩
      (by decide +kernel) ?_,
    hrefused _ ⟨some "pool.json", false, .unassign "lab" (.user "alice") false⟩
      (by decide +kernel) ?_⟩
  case listed =>
    have hwritten : listed.2.output = documentText document false := by decide +kernel
    have hparse : Json.parse? (documentText document false) = some document :=
      parse?_documentText (.record (by simp [Json.IsExact.str])) false
    have hnonempty : documentText document false ≠ "" := by decide +kernel
    obtain ⟨hcode, -⟩ :=
      hfound _ ⟨some "pool.json", false, .list "lab" none (some "111111111111") false⟩
        (by decide +kernel) (.inr fun hempty => hnonempty (hwritten.symm.trans hempty))
    exact ⟨hcode, hwritten, hwritten ▸ hparse⟩
  case assigned =>
    have hwritten : assigned.2.output = "222222222222" ++ "\n" := by decide +kernel
    have hnonempty : "222222222222" ++ "\n" ≠ "" := by decide
    obtain ⟨hcode, _, hfinds, account, rfl, hshown⟩ :=
      hfound _ ⟨some "pool.json", false, .assign "lab" "grace" none⟩ (by decide +kernel)
        (.inr fun hempty => hnonempty (hwritten.symm.trans hempty))
    obtain rfl : account = "222222222222" :=
      (String.append_left_inj _).1 (hshown.symm.trans hwritten)
    exact ⟨hcode, hwritten, hfinds⟩
  case unassigned =>
    have hcode : unassigned.1 = 0 := by decide +kernel
    obtain ⟨-, _, -, outcome, -, houtput⟩ :=
      hfound _ ⟨some "pool.json", false, .unassign "lab" (.user "alice") true⟩ (by decide +kernel)
        (.inl hcode)
    exact ⟨hcode, houtput, by decide +kernel⟩
  · rintro ⟨-, hvalid⟩
    exact absurd (hvalid "1111" rfl) (by decide +kernel)
  · rintro ⟨-, hyes | hterminal⟩
    · exact Bool.false_ne_true hyes
    · exact Bool.false_ne_true hterminal

end AccountLending.CommandLine
