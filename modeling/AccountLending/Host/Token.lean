/-!
# Random identifiers

A random identifier of version four has thirty-two hexadecimal digits in five groups.  Six of its
bits say which version and which variant it is; the other 122 are random.

* `Token.ofBits` — the identifier of a number of 122 bits.
-/

namespace AccountLending.Host.Token

/-- So many hexadecimal digits of a number, its last ones. -/
def hexField : Nat → Nat → List Char
  | 0, _ => []
  | width + 1, n => hexField width (n / 16) ++ [Nat.digitChar (n % 16)]

theorem length_hexField (width n : Nat) : (hexField width n).length = width := by
  induction width generalizing n with
  | zero => rfl
  | succ width ih => simp [hexField, ih]

/-- The identifier whose random bits are those of a number. -/
def ofBits (n : Nat) : String :=
  String.ofList (hexField 8 (n >>> 90) ++ '-' :: hexField 4 (n >>> 74)
    ++ '-' :: '4' :: hexField 3 (n >>> 62) ++ '-' :: hexField 4 (0x8000 + (n >>> 48) % 0x4000)
    ++ '-' :: hexField 12 n)

example : ofBits 0 = "00000000-0000-4000-8000-000000000000" := by decide +kernel
example : ofBits (2 ^ 122 - 1) = "ffffffff-ffff-4fff-bfff-ffffffffffff" := by decide +kernel

end AccountLending.Host.Token
