import QualityGate.Text.Digits

namespace QualityGate.Text.Digits

theorem toList_decimal (n : Nat) : (decimal n).toList = Nat.toDigits 10 n :=
  Nat.toList_repr

theorem isDigit_of_mem_decimal {n : Nat} {c : Char} (h : c ∈ (decimal n).toList) :
    c.isDigit = true := by
  rw [toList_decimal] at h
  exact Nat.isDigit_of_mem_toDigits (by decide) (by decide) h

theorem exists_cons_decimal (n : Nat) :
    ∃ c cs, (decimal n).toList = c :: cs ∧ c.isDigit = true := by
  have hn : (decimal n).toList ≠ [] := by
    rw [toList_decimal]
    exact Nat.toDigits_ne_nil
  obtain ⟨c, cs, hc⟩ := List.exists_cons_of_ne_nil hn
  exact ⟨c, cs, hc, isDigit_of_mem_decimal (n := n) (by simp [hc])⟩

theorem not_mem_decimal (n : Nat) : '\n' ∉ (decimal n).toList := by
  intro h
  have hd : ('\n' : Char).isDigit = true := isDigit_of_mem_decimal h
  exact absurd hd (by decide)

end QualityGate.Text.Digits
