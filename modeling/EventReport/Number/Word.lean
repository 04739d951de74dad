/-! # Machine words

The whole numbers that a word of 64 bits can hold, with and without a sign.
-/

namespace EventReport.Number

/-- The number of words, which is two to the power 64. -/
def wordCount : Nat := 18446744073709551616

/-- Half the number of words, which is two to the power 63. -/
def halfWordCount : Nat := 9223372036854775808

/-- The number fits a word without a sign. -/
def fitsWord (n : Nat) : Bool :=
  n < wordCount

/-- The number fits a word with a sign. -/
def fitsSignedWord (i : Int) : Bool :=
  -(halfWordCount : Int) ≤ i && i < halfWordCount

end EventReport.Number
