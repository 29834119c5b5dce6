/-!
# ResourceTables.Number.Width

Powers of two and ten, and numbers that fit a word of some bits.
-/

namespace ResourceTables.Number

/-- A power of two. -/
def twoTo (n : Nat) : Nat := Nat.pow 2 n

/-- A power of ten. -/
def tenTo (n : Nat) : Nat := Nat.pow 10 n

/-- Whether a number fits a word without a sign. -/
def fitsUnsigned (bits n : Nat) : Bool := n < twoTo bits

/-- Whether a number fits a word with a sign. -/
def fitsSigned (bits : Nat) (n : Int) : Bool :=
  -(twoTo (bits - 1) : Int) ≤ n && n < twoTo (bits - 1)

end ResourceTables.Number
