/-!
# Written integers — digits of a radix, and the signed 64-bit range

A written integer is read exactly and only then held against the range, so "too large" and "too small" are properties
of the number and not of the reading.
-/
namespace DynamicMembers
namespace Text

/-- Why a written integer has no 64-bit value. -/
inductive RangeFault where
  | tooLarge
  | tooSmall
  deriving DecidableEq, Repr

def toInt64 (n : Int) : Except RangeFault Int64 :=
  if n < Int64.minValue.toInt then .error .tooSmall
  else if Int64.maxValue.toInt < n then .error .tooLarge
  else .ok (Int64.ofInt n)

/-- The value of a digit, letters of either case counting from ten. -/
def digitValue (c : Char) : Option Nat :=
  if c.isDigit then some (c.toNat - '0'.toNat)
  else if 'a' ≤ c ∧ c ≤ 'z' then some (c.toNat - 'a'.toNat + 10)
  else if 'A' ≤ c ∧ c ≤ 'Z' then some (c.toNat - 'A'.toNat + 10)
  else none

def digitOf (radix : Nat) (c : Char) : Option Nat := (digitValue c).filter (· < radix)

def readDigits (radix : Nat) : List Char → Nat → Option Nat
  | [], n => some n
  | c :: cs, n => do readDigits radix cs (n * radix + (← digitOf radix c))

def readNat (radix : Nat) : List Char → Option Nat
  | [] => none
  | c :: cs => readDigits radix (c :: cs) 0

/-- The integer that digits write, with an optional sign in front. -/
def readInt (radix : Nat) : List Char → Option Int
  | '+' :: cs => (readNat radix cs).map Int.ofNat
  | '-' :: cs => (readNat radix cs).map (fun n => - Int.ofNat n)
  | cs => (readNat radix cs).map Int.ofNat

def decimal (n : Nat) : List Char := Nat.toDigits 10 n

/-- An integer in decimal, with a minus sign when it is negative. -/
def writeInt : Int → List Char
  | .ofNat n => decimal n
  | .negSucc n => '-' :: decimal (n + 1)

end Text
end DynamicMembers
