/-
  ClassAtlas.Text.Number — reading a count: decimal digits, maybe after a plus sign.

  Digits are taken from the left, and the first thing that goes wrong is what is said:
  a character that is no digit, or the digit at which the count passes the limit.
-/

namespace ClassAtlas.Text

inductive NumberError where
  | empty
  | badDigit
  | tooLarge
  deriving DecidableEq, Repr

def NumberError.message : NumberError → String
  | empty => "cannot parse integer from empty string"
  | badDigit => "invalid digit found in string"
  | tooLarge => "number too large to fit in target type"

/-- Continue the count `n` with the digits of `s`; it must stay below `limit`. -/
def countFrom (limit n : Nat) : List Char → Except NumberError Nat
  | [] => .ok n
  | c :: cs =>
    if !c.isDigit then .error .badDigit
    else
      let m := n * 10 + (c.toNat - '0'.toNat)
      if m < limit then countFrom limit m cs else .error .tooLarge

def countLimit : Nat := 0x10000000000000000

/-- A count of 64 bits. -/
def readCount (s : String) : Except NumberError Nat :=
  match s.toList with
  | [] => .error .empty
  | ['+'] => .error .badDigit
  | '+' :: cs => countFrom countLimit 0 cs
  | cs => countFrom countLimit 0 cs

end ClassAtlas.Text
