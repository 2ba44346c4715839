import AccountLending.Proofs.CommandLine.Checks
import AccountLending.Proofs.Reclamation.Failures

/-!
# Which numbers are let in

Accounts are named by their numbers, when one is lent, taken back or looked up.  A text that is no
number is refused at once, and a number is never refused for its form.  Numbers that are read off
resource names pass these checks, since nothing else is read off a name.

* `PoolError.refused?` — the text that a failure refuses as a number;
* `AccountId.IsLetIn`, `AccountId.IsTurnedAway` — a text is refused nowhere, whatever the replies,
  or everywhere;
* `AccountId.reading_exact` — what is read off a resource name, and what can be done with it.
-/

namespace AccountLending

/-- The text that a failure refuses as an account number. -/
def PoolError.refused? : PoolError → Option String
  | .invalidAccountId account => some account
  | _ => none

namespace Lending

theorem Unassigned.refused?_eq_none {root account : String} {e : PoolError}
    (h : Unassigned root account e) (hvalid : AccountId.isValid account = true) :
    e.refused? = none := by
  cases h with
  | invalid hinvalid => exact absurd (hinvalid.symm.trans hvalid) Bool.false_ne_true
  | service | noAccounts | ineligible | lost => rfl

theorem Unplanned.refused?_eq_none {account : String} {e : PoolError}
    (h : Unplanned (.account account) e) (hvalid : AccountId.isValid account = true) :
    e.refused? = none := by
  cases h with
  | invalid hinvalid => exact absurd (hinvalid.symm.trans hvalid) Bool.false_ne_true
  | service | callers | guarded | elsewhere => rfl

theorem Unreclaimed.refused?_eq_none {account : String} {e : PoolError}
    (h : Unreclaimed (.account account) e) (hvalid : AccountId.isValid account = true) :
    e.refused? = none := by
  cases h with
  | unplanned hplan => exact hplan.refused?_eq_none hvalid
  | aborted | incomplete => rfl

end Lending

namespace AccountId

open Lending CommandLine

/-- A text is let in wherever an account number is asked for: lending the account, planning to take
it back and taking it back never refuse it for its form, whatever the replies to their requests, and
neither does a command. -/
structure IsLetIn (account : String) : Prop where
  lent : ∀ payer settings owner,
    (assignAccount payer settings account owner).FailsWith fun e => e.refused? = none
  planned : ∀ reclaimer : Reclaimer,
    (reclaimer.plan (.account account)).FailsWith fun e => e.refused? = none
  takenBack : ∀ (reclaimer : Reclaimer) confirm,
    (reclaimer.reclaim confirm (.account account)).FailsWith fun e => e.refused? = none
  commanded : Job.checkAccount account = pure ()

/-- A text is turned away wherever an account number is asked for: nothing is called, and the
failure has the text. -/
structure IsTurnedAway (account : String) : Prop where
  lent : ∀ payer settings owner,
    assignAccount payer settings account owner = throw (.invalidAccountId account)
  planned : ∀ reclaimer : Reclaimer,
    reclaimer.plan (.account account) = throw (.invalidAccountId account)
  takenBack : ∀ (reclaimer : Reclaimer) confirm,
    reclaimer.reclaim confirm (.account account) = throw (.invalidAccountId account)
  commanded : Job.checkAccount account = throw (.ofPool (.invalidAccountId account))

theorem isLetIn_of_isValid {account : String} (hvalid : isValid account = true) :
    IsLetIn account where
  lent payer settings owner :=
    (failsWith_assignAccount payer settings account owner).mono fun _ h => h.refused?_eq_none hvalid
  planned reclaimer := (reclaimer.failsWith_plan _).mono fun _ h => h.refused?_eq_none hvalid
  takenBack reclaimer confirm :=
    (reclaimer.failsWith_reclaim confirm _).mono fun _ h => h.refused?_eq_none hvalid
  commanded := if_pos hvalid

theorem isTurnedAway_of_not_isValid {account : String} (hinvalid : isValid account = false) :
    IsTurnedAway account := by
  have hnot : ¬ isValid account = true := Bool.eq_false_iff.1 hinvalid
  have hcandidates (reclaimer : Reclaimer) :
      reclaimer.candidates (.account account) = throw (.invalidAccountId account) := if_neg hnot
  -- a failure ends everything that comes after it
  have hplan (reclaimer : Reclaimer) :
      reclaimer.plan (.account account) = throw (.invalidAccountId account) := by
    rw [Reclaimer.plan, hcandidates]
    rfl
  constructor
  case lent => exact fun payer settings owner => if_neg hnot
  case planned => exact hplan
  case takenBack =>
    intro reclaimer confirm
    rw [Reclaimer.reclaim, hplan]
    rfl
  case commanded => exact if_neg hnot

/-- What passes as a number is twelve decimal digits, which is what the pattern of numbers matches.
A number is read exactly off the names that end in it, which is to say that its encoding is their
last twelve bytes, and nothing is read off any other name.  So a number is read off the resource
name of its account, and whatever is read off a name is let in wherever a number is asked for, where
no other text is. -/
theorem reading_exact (arn account : String) :
    (isValid account = true ↔ IsNumber account) ∧
      (isValid account = true ↔ pattern.rmatch account.toList = true) ∧
      (ofArn? arn = some account ↔ isValid account = true ∧ ∃ before, arn = before ++ account) ∧
      (ofArn? arn = some account ↔ isValid account = true ∧ 12 ≤ arn.utf8ByteSize ∧
        account.toByteArray = arn.toByteArray.extract (arn.utf8ByteSize - 12) arn.utf8ByteSize) ∧
      (ofArn? arn = none ↔ IsUnnumbered arn) ∧
      (isValid account = true → ofArn? (AccountId.arn account) = some account) ∧
      (ofArn? arn = some account → IsLetIn account) ∧
      (isValid account = false → IsTurnedAway account) := by
  refine ⟨isValid_iff account, isValid_iff_rmatch account, ofArn?_eq_some_iff arn account,
    ofArn?_eq_some_iff_extract arn account, ofArn?_eq_none_iff arn, ofArn?_arn, fun hread => ?_,
    isTurnedAway_of_not_isValid⟩
  exact isLetIn_of_isValid (isValid_of_ofArn? hread)

/-- A number is read off the name of an account.  None is read off a name that is too short, one
whose last twelve bytes begin inside a character, one that ends in twelve bytes of other digits, and
one that ends in a newline. -/
theorem reading_exact_samples :
    (ofArn? "arn:aws:organizations::000000000000:account/o-abc123/111111111111" =
      some "111111111111" ∧
      ofArn? (AccountId.arn "111111111111") = some "111111111111" ∧ IsLetIn "111111111111") ∧
    ofArn? "short" = none ∧ ofArn? "\u00e911111111111" = none ∧
    ofArn? "\u0661\u0661\u0661\u0661\u0661\u0661" = none ∧ ofArn? "111111111111\n" = none ∧
    IsTurnedAway "111111111111\n" := by
  have hnumber : isValid "111111111111" = true := by decide
  have hread : ofArn? "arn:aws:organizations::000000000000:account/o-abc123/111111111111" =
      some "111111111111" := by
    obtain ⟨-, -, hends, -⟩ := reading_exact
      "arn:aws:organizations::000000000000:account/o-abc123/111111111111" "111111111111"
    exact hends.2 ⟨hnumber, "arn:aws:organizations::000000000000:account/o-abc123/", rfl⟩
  obtain ⟨-, -, -, -, -, harn, hletIn, -⟩ := reading_exact
    "arn:aws:organizations::000000000000:account/o-abc123/111111111111" "111111111111"
  have hnone (arn : String) (h : IsUnnumbered arn) : ofArn? arn = none := by
    obtain ⟨-, -, -, -, hunnumbered, -⟩ := reading_exact arn arn
    exact hunnumbered.2 h
  obtain ⟨-, -, -, -, -, -, -, hturnedAway⟩ := reading_exact "111111111111\n" "111111111111\n"
  refine ⟨⟨hread, harn hnumber, hletIn hread⟩, hnone _ (.short (by decide)), hnone _ (.inside ?_),
    hnone _ (.other "" "\u0661\u0661\u0661\u0661\u0661\u0661" rfl (by decide) ?_),
    hnone _ (.other "1" "11111111111\n" rfl (by decide) ?_),
    hturnedAway (by decide)⟩
  · exact ⟨[], '\u00e9', "11111111111".toList, by decide, by decide, by decide⟩
  · exact fun h => absurd ((isValid_iff _).2 h) (by decide)
  · exact fun h => absurd ((isValid_iff _).2 h) (by decide)

end AccountId

end AccountLending
