namespace Segmentation.Word

def minInt : Int := -9223372036854775808

def maxInt : Int := 9223372036854775807

def fitsInt (n : Int) : Bool :=
  minInt ≤ n && n ≤ maxInt

def clampInt (n : Int) : Int :=
  max minInt (min n maxInt)

/-- The greatest whole number of 64 bits without a sign. -/
def maxNat : Nat := 18446744073709551615

def fits (bits n : Nat) : Bool :=
  n < Nat.pow 2 bits

end Segmentation.Word
