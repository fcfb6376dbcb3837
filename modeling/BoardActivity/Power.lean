/-!
# Powers

Powers of two bound the numbers of so many bits, powers of ten those of so many digits.
-/

namespace BoardActivity

/-- Two to the power `n`; numbers of `n` bits are below it. -/
def pow2 (n : Nat) : Nat := Nat.pow 2 n

/-- Ten to the power `n`; numbers of `n` decimal digits are below it. -/
def pow10 (n : Nat) : Nat := Nat.pow 10 n

end BoardActivity
