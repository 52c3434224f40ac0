namespace PreviewEnv

-- Powers are those of the core library, whatever else is imported.
attribute [local instance (high)] instPowNat

/-- Whether an integer fits a signed word of so many bits. -/
def fitsSigned (bits : Nat) (n : Int) : Bool := decide (-2 ^ (bits - 1) ≤ n ∧ n < 2 ^ (bits - 1))

/-- Whether an integer fits an unsigned word of so many bits. -/
def fitsUnsigned (bits : Nat) (n : Int) : Bool := decide (0 ≤ n ∧ n < 2 ^ bits)

end PreviewEnv
