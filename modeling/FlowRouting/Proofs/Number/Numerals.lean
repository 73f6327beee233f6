import FlowRouting.Number.Layout
import FlowRouting.Proofs.Number.Integers
import FlowRouting.Proofs.Text.Digits
import FlowRouting.Proofs.Text.Trimming

/-!
# Numbers come back from their texts

The text of a finite number is a numeral without an exponent. It is read as the decimal that was
written, but for the zeros that stand in place of a positive exponent; and what is written is the
shortest decimal, which has the number as its nearest. The search for it ends with the exact decimal
of the number, so it cannot miss. No number is read from the texts of the infinities and of
not-a-number.
-/

namespace FlowRouting

open Text

/-! ## Numerals as they are read -/

namespace Text

private def signed (negative : Bool) (cs : List Char) : List Char :=
  if negative then '-' :: cs else cs

private theorem scanSign_signed (negative : Bool) {c : Char} (hc : c.isDigit = true)
    (cs : List Char) : scanSign (signed negative (c :: cs)) = (negative, c :: cs) := by
  cases negative with
  | true => rfl
  | false =>
    show scanSign (c :: cs) = (false, c :: cs)
    rw [scanSign]
    · rintro cs' ⟨⟩
      cases hc
    · rintro cs' ⟨⟩
      cases hc

end Text

namespace Decimal

variable {negative : Bool}

/-- A text without a sign and an exponent writes a decimal: its digits are those of the text, and
each digit behind the point stands for a tenth. -/
private inductive IsNumeral : List Char → Decimal → Prop where
  | digits {ds : List Char} (hne : ds ≠ []) (hds : ∀ c ∈ ds, c.isDigit = true) :
    IsNumeral ds ⟨foldDigits 0 ds, 0⟩
  | point {ds fs : List Char} (hne : ds ≠ []) (hds : ∀ c ∈ ds, c.isDigit = true)
    (hfs : ∀ c ∈ fs, c.isDigit = true) :
    IsNumeral (ds ++ '.' :: fs) ⟨foldDigits 0 (ds ++ fs), -fs.length⟩

/-- A decimal as it is written where an exponent is not. -/
private def expand (d : Decimal) : Decimal :=
  if 0 ≤ d.exponent then ⟨d.digits * Nat.pow 10 d.exponent.toNat, 0⟩ else d

private theorem isNumeral_toDigits (n : Nat) : IsNumeral (Nat.toDigits 10 n) ⟨n, 0⟩ := by
  have hnumeral := IsNumeral.digits (Nat.toDigits_ne_nil (n := n) (b := 10)) fun _ ↦
    isDigit_of_mem_toDigits
  rwa [foldDigits_toDigits] at hnumeral

namespace IsNumeral

variable {chars : List Char}

private theorem isDigit_of_mem_replicate {k : Nat} {c : Char} (h : c ∈ List.replicate k '0') :
    c.isDigit = true := by
  rw [List.eq_of_mem_replicate h]
  rfl

private theorem pointBefore (places : Nat) (hdigits : ∀ c ∈ chars, c.isDigit = true) :
    IsNumeral ('0' :: '.' :: (List.replicate places '0' ++ chars))
      ⟨foldDigits 0 chars, -(places + chars.length : Nat)⟩ := by
  have hnumeral := IsNumeral.point (List.cons_ne_nil '0' []) (List.forall_mem_singleton.mpr rfl)
    (List.forall_mem_append.mpr ⟨fun _ ↦ isDigit_of_mem_replicate (k := places), hdigits⟩)
  have hzero : foldDigits 0 ['0'] = 0 := rfl
  rwa [foldDigits_append, foldDigits_append, hzero, foldDigits_replicate_zero, Nat.zero_mul,
    List.length_append, List.length_replicate] at hnumeral

private theorem pointBehind (k : Nat) (hne : chars ≠ []) (hdigits : ∀ c ∈ chars, c.isDigit = true) :
    IsNumeral (chars ++ List.replicate k '0') ⟨foldDigits 0 chars * Nat.pow 10 k, 0⟩ := by
  have hnumeral := IsNumeral.digits (List.append_ne_nil_of_left_ne_nil hne (List.replicate k '0'))
    (List.forall_mem_append.mpr ⟨hdigits, fun _ ↦ isDigit_of_mem_replicate⟩)
  rwa [foldDigits_append, foldDigits_replicate_zero] at hnumeral

private theorem pointBetween {place : Nat} (hplace : 0 < place) (hne : chars ≠ [])
    (hdigits : ∀ c ∈ chars, c.isDigit = true) :
    IsNumeral (chars.take place ++ '.' :: chars.drop place)
      ⟨foldDigits 0 chars, -(chars.length - place : Nat)⟩ := by
  have hpos : 0 < chars.length := List.length_pos_iff.mpr hne
  have hwhole : chars.take place ≠ [] :=
    List.ne_nil_of_length_pos (by rw [List.length_take]; omega)
  have hfraction : ∀ c ∈ chars.drop place, c.isDigit = true := fun c hc ↦
    hdigits c (List.mem_of_mem_drop hc)
  have hnumeral := IsNumeral.point hwhole (fun c hc ↦ hdigits c (List.mem_of_mem_take hc))
    hfraction
  rwa [List.take_append_drop, List.length_drop] at hnumeral

end IsNumeral

private theorem isNumeral_positional (d : Decimal) :
    IsNumeral (d.toDigits.positional []) d.expand := by
  obtain ⟨m, e⟩ := d
  have hne : Nat.toDigits 10 m ≠ [] := Nat.toDigits_ne_nil
  have hpos : 0 < (Nat.toDigits 10 m).length := List.length_pos_iff.mpr hne
  have hdigits : ∀ c ∈ Nat.toDigits 10 m, c.isDigit = true := fun _ ↦ isDigit_of_mem_toDigits
  have hvalue := foldDigits_toDigits m
  rw [toDigits]
  generalize Nat.toDigits 10 m = chars at hne hpos hdigits hvalue
  subst hvalue
  -- The point comes before all digits, behind them or between them.
  simp only [Digits.positional, expand]
  split
  · next hbefore =>
    generalize hplaces : (-((chars.length : Int) + e)).toNat = places
    have hexponent : e = -((places + chars.length : Nat) : Int) := by omega
    rw [if_neg (by omega), hexponent]
    exact .pointBefore places hdigits
  · next hbefore =>
    split
    · next hbehind =>
      obtain ⟨k, rfl⟩ := Int.eq_ofNat_of_zero_le (a := e) (by omega)
      have hplaces : ((chars.length : Int) + (k : Int)).toNat - chars.length = k := by omega
      rw [hplaces, List.append_nil, if_pos (Int.natCast_nonneg k), Int.toNat_natCast]
      exact .pointBehind k hne hdigits
    · next hbehind =>
      generalize hplace : ((chars.length : Int) + e).toNat = place
      have hexponent : e = -((chars.length - place : Nat) : Int) := by omega
      rw [if_neg (by omega), hexponent]
      exact .pointBetween (by omega) hne hdigits

namespace IsNumeral

variable {cs : List Char} {d : Decimal}

private theorem scan?_signed (h : IsNumeral cs d) :
    scan? (signed negative cs) = some (negative, d) := by
  cases h with
  | @digits ds hne hds =>
    obtain ⟨c, ds, rfl⟩ := List.exists_cons_of_ne_nil hne
    have hsign := scanSign_signed negative (hds c List.mem_cons_self) ds
    rw [scan?, hsign]
    simp [spanDigits_eq hds, scanExponent?]
  | @point ds fs hne hds hfs =>
    obtain ⟨c, ds, rfl⟩ := List.exists_cons_of_ne_nil hne
    have hsign := scanSign_signed negative (hds c List.mem_cons_self) (ds ++ '.' :: fs)
    have hpoint : EndsDigits ('.' :: fs) := by
      rintro c ⟨⟩
      rfl
    have hwhole := spanDigits_append hds hpoint
    rw [List.cons_append] at hwhole ⊢
    rw [scan?, hsign]
    simp [hwhole, spanDigits_eq hfs, scanExponent?]

private theorem isTrimmed_signed (h : IsNumeral cs d) : IsTrimmed (signed negative cs) := by
  have hcs : ∀ c ∈ cs, isBlank c = false := by
    cases h with
    | digits hne hds => exact fun c hc ↦ isBlank_of_isDigit (hds c hc)
    | point hne hds hfs =>
      exact List.forall_mem_append.mpr ⟨fun c hc ↦ isBlank_of_isDigit (hds c hc),
        List.forall_mem_cons.mpr ⟨rfl, fun c hc ↦ isBlank_of_isDigit (hfs c hc)⟩⟩
  refine IsTrimmed.of_forall ?_
  cases negative with
  | true => exact List.forall_mem_cons.mpr ⟨rfl, hcs⟩
  | false => exact hcs

private theorem parse?_signed (h : IsNumeral cs d) {x : Finite}
    (hx : d.nearest negative = .finite x) :
    Number.parse? (String.ofList (signed negative cs)) = some (.finite x) := by
  rw [Number.parse?, String.toList_ofList, h.isTrimmed_signed.trim_eq, h.scan?_signed]
  simp only [hx]

end IsNumeral

/-! ## The nearest number of a decimal that is read -/

/-- A magnitude that is too large is not rounded to a smaller one. -/
theorem ofQuotient_ne_finite {n : Nat} (hbits : n % Nat.pow 2 (excessBits n) = 0)
    (hlarge : unitsBound ≤ n) (x : Finite) : Number.ofQuotient negative n 1 ≠ .finite x := by
  have hnearest := nearestUnits_mul_of_mod Nat.one_pos hbits
  rw [Nat.mul_one] at hnearest
  rw [Number.ofQuotient, dif_neg (by rw [hnearest]; exact Nat.not_lt.mpr hlarge)]
  intro hfinite
  cases negative <;> cases hfinite

private theorem nearest_expand {d : Decimal} {x : Finite} (h : d.nearest negative = .finite x) :
    d.expand.nearest negative = .finite x := by
  obtain ⟨m, e⟩ := d
  rw [expand]
  split
  · next he =>
    replace he : 0 ≤ e := he
    rw [nearest] at h ⊢
    dsimp only at h ⊢
    by_cases hm : m = 0
    · simp only [hm, if_true, Nat.zero_mul] at h ⊢
      exact h
    have hscaled : m * Nat.pow 10 e.toNat ≠ 0 :=
      Nat.mul_ne_zero hm (Nat.ne_of_gt (Nat.pow_pos (by decide)))
    rw [if_neg hm] at h
    rw [if_neg hscaled]
    -- The nearest number of such a decimal is infinite.
    by_cases hbig : 400 < e
    · rw [if_pos hbig] at h
      exact absurd h (ofQuotient_ne_finite (by decide +kernel) (Nat.le_refl _) x)
    · rw [if_neg hbig, if_neg (by omega), if_pos he] at h
      rw [if_neg (by decide), if_neg (by omega), if_pos (Int.le_refl 0)]
      have hone : Nat.pow 10 (Int.toNat 0) = 1 := rfl
      rw [hone, Nat.mul_one]
      exact h
  · exact h

private theorem le_log2_mul_five_pow {n : Nat} (hn : n ≠ 0) (k : Nat) :
    k ≤ (n * Nat.pow 5 k).log2 := by
  have hpos : 0 < Nat.pow 5 k := Nat.pow_pos (by decide)
  rw [Nat.le_log2 (Nat.mul_ne_zero hn (Nat.ne_of_gt hpos))]
  calc 2 ^ k ≤ 5 ^ k := Nat.pow_le_pow_left (by decide) k
    _ ≤ n * 5 ^ k := Nat.le_mul_of_pos_left _ (Nat.pos_of_ne_zero hn)

end Decimal

/-! ## The shortest decimal -/

namespace Finite

variable (x : Finite)

/-- A multiple of a power of one half is as many times a power of five in decimal places. -/
theorem exists_exactDecimal_eq : ∃ k, 0 < k ∧ unitsPerOne = Nat.pow 2 k ∧
    ∀ n, exactDecimal n = ⟨n * Nat.pow 5 k, -k⟩ :=
  ⟨1074, by decide, by decide +kernel, fun _ ↦ rfl⟩

private theorem nearest_exactDecimal (hx : x.units.natAbs ≠ 0) :
    (exactDecimal x.units.natAbs).nearest (x.units < 0) = .finite x := by
  obtain ⟨k, hk, hunits, hexact⟩ := exists_exactDecimal_eq
  have hlog := Decimal.le_log2_mul_five_pow hx k
  have hdigits : x.units.natAbs * Nat.pow 5 k ≠ 0 :=
    Nat.mul_ne_zero hx (Nat.ne_of_gt (Nat.pow_pos (by decide)))
  have hten : Nat.pow 5 k * Nat.pow 2 k = Nat.pow 10 k := (Nat.mul_pow 5 2 k).symm
  rw [hexact, Decimal.nearest]
  dsimp only
  rw [if_neg hdigits, if_neg (by omega), if_neg (by omega), if_neg (by omega), Int.neg_neg,
    Int.toNat_natCast, hunits, Nat.mul_assoc, hten]
  exact Number.ofQuotient_eq_finite (nearestUnits_mul_of_mod (Nat.pow_pos (by decide)) x.fits.2)

private theorem zero_eq_finite (hx : x.units = 0) : 0 = Number.finite x := by
  have hintegral : x.isIntegral = true := by
    rw [isIntegral, hx, Int.natAbs_zero, Nat.zero_mod]
    rfl
  have htruncate : x.truncate = 0 := by
    rw [truncate, hx, Int.zero_tdiv]
  refine Number.ofInt_of_smallInt? ?_
  rw [Number.smallInt?, hintegral, htruncate]
  rfl

/-- **The shortest decimal of a number has the number as its nearest.** -/
theorem nearest_shortest : x.shortest.nearest (x.units < 0) = .finite x := by
  rw [shortest]
  by_cases hx : x.units.natAbs = 0
  · rw [if_pos hx]
    have hzero : Decimal.nearest (x.units < 0) ⟨0, 0⟩ = 0 := if_pos rfl
    rw [hzero, x.zero_eq_finite (Int.natAbs_eq_zero.mp hx)]
  · rw [if_neg hx]
    split
    · next d hfound =>
      have hreads : (d.nearest (x.units < 0) == Number.finite x) = true :=
        List.find?_some (p := fun d ↦ Decimal.nearest (x.units < 0) d == Number.finite x) hfound
      exact eq_of_beq hreads
    · exact x.nearest_exactDecimal hx

end Finite

/-! ## Texts of numbers -/

namespace Number

theorem exists_finite_of_parse? {s : String} {n : Number} (h : parse? s = some n) :
    ∃ x, n = .finite x := by
  rw [parse?] at h
  split at h
  · cases h
  · split at h
    · next x _ =>
      cases h
      exact ⟨x, rfl⟩
    · cases h

private theorem writeInt_eq_signed (n : Int) :
    writeInt n = signed (n < 0) (Nat.toDigits 10 n.natAbs) := by
  by_cases hn : n < 0 <;> simp [writeInt, signed, hn]

private theorem nearest_natAbs (n : Int) : Decimal.nearest (n < 0) ⟨n.natAbs, 0⟩ = ofInt n := by
  rw [Decimal.nearest]
  dsimp only
  by_cases hn : n.natAbs = 0
  · rw [if_pos hn, Int.natAbs_eq_zero.mp hn]
    rfl
  · rw [if_neg hn, if_neg (by decide), if_neg (by omega), if_pos (Int.le_refl 0), Int.toNat_zero,
      Nat.pow_eq, Nat.pow_zero, Nat.mul_one, ofInt]

private theorem write_eq_signed (x : Finite) :
    NumberLayout.runningText.write x =
      signed (x.units < 0) (x.shortest.toDigits.positional []) := by
  by_cases hx : x.units < 0 <;> simp [NumberLayout.write, NumberLayout.runningText, signed, hx]

/-- **A finite number is read from its text.** -/
theorem parse?_toText_finite (x : Finite) : parse? (finite x).toText = some (.finite x) := by
  rw [toText]
  split
  · next n hn =>
    rw [writeInt_eq_signed]
    exact (Decimal.isNumeral_toDigits n.natAbs).parse?_signed
      ((nearest_natAbs n).trans (ofInt_of_smallInt? hn))
  · rw [write_eq_signed]
    exact (Decimal.isNumeral_positional x.shortest).parse?_signed
      (Decimal.nearest_expand x.nearest_shortest)

end Number

end FlowRouting
