namespace StorageLedger.Number

/-- The whole number nearest to `num / den`; of two nearest the even one. -/
def roundHalfEven (num den : Nat) : Nat :=
  let quotient := num / den
  let rest := num % den
  if 2 * rest < den then quotient
  else if den < 2 * rest then quotient + 1
  else if quotient % 2 = 0 then quotient else quotient + 1

/-- A rounded quotient is at most half a unit above the quotient. -/
theorem two_mul_roundHalfEven_le {den : Nat} (h : 0 < den) (num : Nat) :
    2 * (den * roundHalfEven num den) ≤ 2 * num + den := by
  have hdiv := Nat.div_add_mod num den
  have hlt := Nat.mod_lt num h
  simp only [roundHalfEven]
  split
  · omega
  · split
    · rw [Nat.mul_add]; omega
    · split
      · omega
      · rw [Nat.mul_add]; omega

/-- A rounded quotient is at most half a unit below the quotient. -/
theorem le_two_mul_roundHalfEven {den : Nat} (h : 0 < den) (num : Nat) :
    2 * num ≤ 2 * (den * roundHalfEven num den) + den := by
  have hdiv := Nat.div_add_mod num den
  have hlt := Nat.mod_lt num h
  simp only [roundHalfEven]
  split
  · omega
  · split
    · rw [Nat.mul_add]; omega
    · split
      · omega
      · rw [Nat.mul_add]; omega

end StorageLedger.Number
