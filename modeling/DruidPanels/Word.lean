/-! # Words

The numbers that sixty-four bits can hold, with a sign and without one. -/

namespace DruidPanels.Word

/-- How many numbers sixty-four bits can hold: 2 to the power 64. -/
def size : Nat := 18446744073709551616

/-- The least number with a sign. -/
def least : Int := -9223372036854775808

/-- The greatest number with a sign. -/
def greatest : Int := 9223372036854775807

/-- The number fits into sixty-four bits with a sign. -/
def fits (n : Int) : Bool := least ≤ n && n ≤ greatest

/-- The number of sixty-four bits with a sign that is nearest to `n`. -/
def saturate (n : Int) : Int := max least (min greatest n)

end DruidPanels.Word
