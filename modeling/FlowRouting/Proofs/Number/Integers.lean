import FlowRouting.Number.Basic

/-!
# Small integers as numbers

A finite number is its units, so a number that is an integer is that integer times the units of one.
Its units have at most 53 significant bits, and rounding to so many bits leaves them as they are. So
the number nearest to the integer is the number itself.
-/

namespace FlowRouting

private theorem unitsPerOne_pos : 0 < unitsPerOne := by decide +kernel

private theorem roundHalfEven_of_dvd {num den : Nat} (hden : 0 < den) (h : den ∣ num) :
    roundHalfEven num den = num / den := by
  rw [roundHalfEven, Nat.mod_eq_zero_of_dvd h]
  simp [hden]

/-- Rounding leaves a magnitude of at most 53 significant bits as it is, also where it is written as
a quotient. -/
theorem nearestUnits_mul_of_mod {n k : Nat} (hk : 0 < k) (h : n % Nat.pow 2 (excessBits n) = 0) :
    nearestUnits (n * k) k = n := by
  have hpos : 0 < Nat.pow 2 (excessBits n) := Nat.two_pow_pos _
  have hdvd : Nat.pow 2 (excessBits n) ∣ n := Nat.dvd_of_mod_eq_zero h
  rw [nearestUnits, Nat.mul_div_cancel n hk, Nat.mul_comm k,
    roundHalfEven_of_dvd (Nat.mul_pos hpos hk) (Nat.mul_dvd_mul_right hdvd k),
    Nat.mul_div_mul_right _ _ hk, Nat.div_mul_cancel hdvd]

namespace Number

private theorem units_eq_of_isIntegral {x : Finite} (h : x.isIntegral = true) :
    x.units = x.truncate * unitsPerOne := by
  have hdvd : (unitsPerOne : Int) ∣ x.units := by
    rw [← Int.natAbs_dvd_natAbs, Int.natAbs_natCast]
    exact Nat.dvd_of_mod_eq_zero (by simpa [Finite.isIntegral] using h)
  rw [Finite.truncate, Int.tdiv_mul_cancel hdvd]

private theorem exists_finite_of_smallInt? {x : Number} {n : Int} (h : x.smallInt? = some n) :
    ∃ f, x = finite f ∧ f.isIntegral = true ∧ f.truncate = n ∧ n.natAbs < Nat.pow 10 15 := by
  cases x with
  | finite f =>
    rw [smallInt?] at h
    split at h
    · next hsmall =>
      cases h
      obtain ⟨hintegral, hlt⟩ := Bool.and_eq_true_iff.mp hsmall
      exact ⟨f, rfl, hintegral, rfl, of_decide_eq_true hlt⟩
    · cases h
  | nan => cases h
  | negInfinity => cases h
  | posInfinity => cases h

theorem natAbs_lt_of_smallInt? {x : Number} {n : Int} (h : x.smallInt? = some n) :
    n.natAbs < Nat.pow 10 15 := by
  obtain ⟨f, -, -, -, hlt⟩ := exists_finite_of_smallInt? h
  exact hlt

theorem ofQuotient_eq_finite {x : Finite} {num den : Nat}
    (h : nearestUnits num den = x.units.natAbs) :
    ofQuotient (x.units < 0) num den = finite x := by
  have hlt : nearestUnits num den < unitsBound := h ▸ x.fits.1
  rw [ofQuotient, dif_pos hlt]
  refine congrArg finite (Finite.ext_units ((Finite.units_ofUnits _ _ _).trans ?_))
  rw [h]
  by_cases hneg : x.units < 0
  · simp only [hneg, decide_true, if_true]
    omega
  · simp only [hneg, decide_false, Bool.false_eq_true, if_false]
    omega

/-- The number of a small integer is the number that is it. -/
theorem ofInt_of_smallInt? {x : Number} {n : Int} (h : x.smallInt? = some n) : ofInt n = x := by
  obtain ⟨f, rfl, hintegral, rfl, -⟩ := exists_finite_of_smallInt? h
  have hunits := units_eq_of_isIntegral hintegral
  have habs : f.truncate.natAbs * unitsPerOne = f.units.natAbs := by
    rw [hunits, Int.natAbs_mul, Int.natAbs_natCast]
  -- The units are those of a number, so no bit of them is lost.
  have hnearest := nearestUnits_mul_of_mod Nat.one_pos f.fits.2
  rw [Nat.mul_one] at hnearest
  -- The sign of the units is that of the integer.
  have hpos : (0 : Int) < unitsPerOne := Int.natCast_pos.mpr unitsPerOne_pos
  have hsign : f.units < 0 ↔ f.truncate < 0 := by
    rw [hunits]
    constructor
    · intro hlt
      exact Int.not_le.mp fun hge ↦
        Int.not_le.mpr hlt (Int.mul_nonneg hge (Int.le_of_lt hpos))
    · exact fun hneg ↦ Int.mul_neg_of_neg_of_pos hneg hpos
  rw [ofInt, habs, ← decide_eq_decide.mpr hsign]
  exact ofQuotient_eq_finite hnearest

end Number

end FlowRouting
