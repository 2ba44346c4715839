import AccountLending.Text.Parts

/-!
# Account numbers

An account is named by twelve decimal digits.  The resource name of an account ends in its number,
so the number can be read off any resource name: it is the text of the last twelve bytes, when these
are an account number.
-/

namespace AccountLending.AccountId

/-- The number of digits of an account number. -/
def width : Nat := 12

/-- Whether a text is an account number: exactly twelve decimal digits of ASCII. -/
def isValid (text : String) : Bool :=
  text.toList.length = width && text.toList.all Char.isDigit

/-- The account number at the end of a resource name. -/
def ofArn? (arn : String) : Option String :=
  (Text.byteSuffix? width arn).filter isValid

/-- The resource name of an account of the organization `o-fake0000`. -/
def arn (account : String) : String :=
  "arn:aws:organizations::000000000000:account/o-fake0000/" ++ account

end AccountLending.AccountId
