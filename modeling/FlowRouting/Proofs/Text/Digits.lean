import FlowRouting.Text.Digits

/-!
# Digits that were written

A number that was written in digits is read back from them. In a longer text its digits end where
the first character stands that is none, so what stands behind a number has to be known to read it.
Numbers have no leading zeros, which the notation of documents does not allow.
-/

namespace FlowRouting.Text

/-! ## Decimal digits -/

theorem foldDigits_toDigits (n : Nat) : foldDigits 0 (Nat.toDigits 10 n) = n :=
  Nat.ofDigitChars_ten_toDigits

theorem foldDigits_append (acc : Nat) (a b : List Char) :
    foldDigits acc (a ++ b) = foldDigits (foldDigits acc a) b :=
  List.foldl_append

theorem foldDigits_replicate_zero (acc k : Nat) :
    foldDigits acc (List.replicate k '0') = acc * Nat.pow 10 k := by
  induction k generalizing acc with
  | zero => exact (Nat.mul_one acc).symm
  | succ k ih =>
    have hzero : 10 * acc + digitValue '0' = acc * 10 := Nat.mul_comm 10 acc
    rw [List.replicate_succ, foldDigits, List.foldl_cons, hzero, ← foldDigits, ih, Nat.mul_assoc,
      Nat.mul_comm 10]
    rfl

theorem le_foldDigits (acc : Nat) (cs : List Char) : acc ≤ foldDigits acc cs := by
  induction cs generalizing acc with
  | nil => exact Nat.le_refl acc
  | cons c cs ih =>
    have hstep : acc ≤ 10 * acc + digitValue c := by omega
    exact Nat.le_trans hstep (ih _)

theorem isDigit_of_mem_toDigits {n : Nat} {c : Char} (h : c ∈ Nat.toDigits 10 n) :
    c.isDigit = true :=
  Nat.isDigit_of_mem_toDigits (by decide) (by decide) h

theorem exists_digit_cons (n : Nat) :
    ∃ c cs, Nat.toDigits 10 n = c :: cs ∧ c.isDigit = true := by
  obtain ⟨c, cs, hcs⟩ := List.exists_cons_of_ne_nil (Nat.toDigits_ne_nil (n := n) (b := 10))
  have hmem : c ∈ Nat.toDigits 10 n := hcs ▸ List.mem_cons_self
  exact ⟨c, cs, hcs, isDigit_of_mem_toDigits hmem⟩

theorem toDigits_eq_zero_cons {n : Nat} {cs : List Char} (h : Nat.toDigits 10 n = '0' :: cs) :
    cs = [] := by
  induction n using Nat.strongRecOn generalizing cs with
  | ind n ih =>
    by_cases hn : n < 10
    · rw [Nat.toDigits_of_lt_base hn] at h
      exact (List.cons.inj h).2.symm
    · -- The leading digits are those of a tenth of the number, which is not zero.
      rw [Nat.toDigits_of_base_le (by decide) (by omega)] at h
      obtain ⟨d, ds, hds, -⟩ := exists_digit_cons (n / 10)
      rw [hds, List.cons_append] at h
      obtain ⟨rfl, -⟩ := List.cons.inj h
      have hnil := ih (n / 10) (by omega) hds
      have hzero := foldDigits_toDigits (n / 10)
      rw [hds, hnil] at hzero
      have : n / 10 = 0 := hzero.symm
      omega

/-- The text behind a number does not go on with a digit. -/
def EndsDigits (cs : List Char) : Prop :=
  ∀ c ∈ cs.head?, c.isDigit = false

theorem spanDigits_append {ds rest : List Char} (hds : ∀ c ∈ ds, c.isDigit = true)
    (hrest : EndsDigits rest) : spanDigits (ds ++ rest) = (ds, rest) := by
  induction ds with
  | nil =>
    cases rest with
    | nil => rfl
    | cons c rest => simp [spanDigits, hrest c rfl]
  | cons d ds ih =>
    have hd := hds d List.mem_cons_self
    have htail := ih fun c hc ↦ hds c (List.mem_cons_of_mem d hc)
    rw [spanDigits, Prod.mk.injEq] at htail
    rw [spanDigits, List.cons_append, List.takeWhile_cons_of_pos hd, List.dropWhile_cons_of_pos hd,
      htail.1, htail.2]

theorem spanDigits_eq {ds : List Char} (hds : ∀ c ∈ ds, c.isDigit = true) :
    spanDigits ds = (ds, []) := by
  have hrest : EndsDigits [] := nofun
  have hspan := spanDigits_append hds hrest
  rwa [List.append_nil] at hspan

theorem spanDigits_toDigits_append (n : Nat) {rest : List Char} (hrest : EndsDigits rest) :
    spanDigits (Nat.toDigits 10 n ++ rest) = (Nat.toDigits 10 n, rest) :=
  spanDigits_append (fun _ ↦ isDigit_of_mem_toDigits) hrest

/-! ## Hexadecimal digits -/

theorem hexValue?_hexDigit {n : Nat} (h : n < 16) : hexValue? (hexDigit n) = some n := by
  have hall : ∀ n < 16, hexValue? (hexDigit n) = some n := by decide
  exact hall n h

end FlowRouting.Text
