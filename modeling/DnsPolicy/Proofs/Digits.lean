import DnsPolicy.Text.Digits
import Mathlib.Data.List.Basic
import Mathlib.Data.Nat.Digits.Defs

/-! Numbers that were written are read back. -/
namespace DnsPolicy.Text

variable {base n : Nat}

private theorem digitValue_digitChar : ∀ n < 16, digitValue (Nat.digitChar n) = n := by decide

private theorem ofDigits_append (base : Nat) (digits : List Char) (c : Char) :
    ofDigits base (digits ++ [c]) = base * ofDigits base digits + digitValue c := by
  simp only [ofDigits,List.foldl_append,List.foldl_cons,List.foldl_nil]

private theorem mem_toDigits (proper : 1 < base) {c : Char} (member : c ∈ Nat.toDigits base n) :
    ∃ d < base, c = Nat.digitChar d := by
  induction n using Nat.strongRecOn with
  | _ n ih =>
    rw [Nat.toDigits_eq_if proper] at member
    split at member
    next small => exact ⟨n,small,List.mem_singleton.mp member⟩
    next large =>
      rcases List.mem_append.mp member with front | last
      · exact ih (n / base) (Nat.div_lt_self (by omega) proper) front
      · exact ⟨n % base,Nat.mod_lt n (by omega),List.mem_singleton.mp last⟩

private theorem ofDigits_toDigits (proper : 1 < base) (known : base ≤ 16) :
    ofDigits base (Nat.toDigits base n) = n := by
  induction n using Nat.strongRecOn with
  | _ n ih =>
    rw [Nat.toDigits_eq_if proper]
    split
    next small => simp [ofDigits,digitValue_digitChar n (by omega)]
    next large =>
      have last : n % base < base := Nat.mod_lt n (by omega)
      rw [ofDigits_append,ih (n / base) (Nat.div_lt_self (by omega) proper)]
      rw [digitValue_digitChar _ (by omega)]
      exact Nat.div_add_mod n base

private theorem number?_toDigits (proper : 1 < base) (known : base ≤ 16) :
    number? base (Nat.toDigits base n) = some n := by
  have digits : (Nat.toDigits base n).all (isDigitOf base) = true := by
    rw [List.all_eq_true]
    intro c member
    obtain ⟨d,below,rfl⟩ := mem_toDigits proper member
    rw [isDigitOf,digitValue_digitChar d (by omega)]
    exact decide_eq_true below
  have nonempty : (Nat.toDigits base n).isEmpty = false :=
    List.isEmpty_eq_false_iff.mpr Nat.toDigits_ne_nil
  rw [number?,nonempty,digits,ofDigits_toDigits proper known]
  rfl

theorem number?_decimal : number? 10 (decimal n) = some n :=
    number?_toDigits (by decide) (by decide)

theorem number?_hexadecimal : number? 16 (hexadecimal n) = some n :=
  number?_toDigits (by decide) (by decide)

theorem isDigit_of_mem_decimal {c : Char} (member : c ∈ decimal n) : c.isDigit = true :=
  Nat.isDigit_of_mem_toDigits (by decide) (by decide) member

theorem isDigitOf_of_mem_hexadecimal {c : Char} (member : c ∈ hexadecimal n) :
    isDigitOf 16 c = true := by
  obtain ⟨d,below,rfl⟩ := mem_toDigits (by decide) member
  rw [isDigitOf,digitValue_digitChar d below]
  exact decide_eq_true below

/-- Only zero is written with a zero in front. -/
theorem head_decimal (start : (decimal n).head? = some '0') : n = 0 := by
  induction n using Nat.strongRecOn with
  | _ n ih =>
    rw [decimal,Nat.toDigits_eq_if (by decide)] at start
    split at start
    next small =>
      have zeros : ∀ d < 10, Nat.digitChar d = '0' → d = 0 := by decide
      exact zeros n small (Option.some.inj start)
    next large =>
      rw [List.head?_append_of_ne_nil _ Nat.toDigits_ne_nil] at start
      have front := ih (n / 10) (by omega) start
      omega

theorem decimal_ne_nil : decimal n ≠ [] := Nat.toDigits_ne_nil

theorem exists_decimal_cons (n : Nat) : ∃ c more, decimal n = c :: more ∧ c.isDigit = true := by
  obtain ⟨c,more,same⟩ := List.exists_cons_of_ne_nil (decimal_ne_nil (n := n))
  exact ⟨c,more,same,isDigit_of_mem_decimal (same ▸ List.mem_cons_self ..)⟩

theorem hexadecimal_ne_nil : hexadecimal n ≠ [] := Nat.toDigits_ne_nil

theorem length_decimal_le {k : Nat} (positive : 0 < k) (small : n < 10 ^ k) :
    (decimal n).length ≤ k := (Nat.length_toDigits_le_iff (by decide) positive).mpr small

theorem length_hexadecimal_le {k : Nat} (positive : 0 < k) (small : n < 16 ^ k) :
    (hexadecimal n).length ≤ k := (Nat.length_toDigits_le_iff (by decide) positive).mpr small

end DnsPolicy.Text
