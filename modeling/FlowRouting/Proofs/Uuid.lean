import Mathlib.Algebra.Ring.Nat
import FlowRouting.Proofs.Text.Digits
import FlowRouting.Uuid

/-!
# Identifiers that were written

The text of an identifier has 36 characters, by which it is told from the other forms: the digits of
the groups and a hyphen between any two of them. Without the hyphens it has all digits of the
identifier, so the identifier is read back.
-/

namespace FlowRouting.Uuid

/-! ## Digits -/

private theorem length_hexDigits (n value : Nat) : (hexDigits n value).length = n := by
  induction n generalizing value with
  | zero => rfl
  | succ n ih => rw [hexDigits, List.length_append, ih, List.length_singleton]

/-- The last `n` digits of a number have the value of the number up to `16ⁿ`. -/
theorem exists_values_hexDigits (n value : Nat) :
    ∃ values, (hexDigits n value).mapM Text.hexValue? = some values ∧
      values.foldl (fun n d ↦ 16 * n + d) 0 = value % Nat.pow 16 n := by
  induction n generalizing value with
  | zero => exact ⟨[], rfl, (Nat.mod_one value).symm⟩
  | succ n ih =>
    obtain ⟨values, hvalues, hfold⟩ := ih (value / 16)
    have hlast : Text.hexValue? (Text.hexDigit (value % 16)) = some (value % 16) :=
      Text.hexValue?_hexDigit (Nat.mod_lt value (by decide))
    refine ⟨values ++ [value % 16], ?_, ?_⟩
    · rw [hexDigits, List.mapM_append, hvalues, List.mapM_cons, hlast]
      rfl
    · rw [List.foldl_append, hfold, Nat.pow_eq, Nat.pow_eq, Nat.pow_succ', Nat.mod_mul]
      simp only [List.foldl_cons, List.foldl_nil]
      omega

private theorem ofDigits?_hexDigits (id : Uuid) : ofDigits? (hexDigits 32 id.value) = some id := by
  obtain ⟨values, hvalues, hfold⟩ := exists_values_hexDigits 32 id.value
  have hlt := id.isLt
  have hpow : Nat.pow 16 32 = Nat.pow 2 128 := by decide
  rw [hpow, Nat.mod_eq_of_lt hlt] at hfold
  rw [ofDigits?, hvalues]
  simp only [bind, Option.bind, hfold]
  rw [dif_pos hlt]

/-! ## Groups -/

private theorem length_hyphenate {n : Nat} {lengths : List Nat} {cs : List Char}
    (h : cs.length = (n :: lengths).sum) :
    (hyphenate (n :: lengths) cs).length = cs.length + lengths.length := by
  induction lengths generalizing n cs with
  | nil =>
    rw [List.sum_cons, List.sum_nil] at h
    rw [hyphenate, List.length_take, List.length_nil]
    omega
  | cons m lengths ih =>
    rw [List.sum_cons] at h
    have hbehind : (cs.drop n).length = (m :: lengths).sum := by
      rw [List.length_drop]
      omega
    rw [hyphenate, List.length_append, List.length_cons, ih hbehind, List.length_take,
      List.length_drop, List.length_cons]
    · omega
    · exact nofun

private theorem joinGroups?_hyphenate {n : Nat} {lengths : List Nat} {cs : List Char}
    (h : cs.length = (n :: lengths).sum) :
    joinGroups? (n :: lengths) (hyphenate (n :: lengths) cs) = some cs := by
  induction lengths generalizing n cs with
  | nil =>
    rw [List.sum_cons, List.sum_nil, Nat.add_zero] at h
    rw [hyphenate, joinGroups?, List.take_of_length_le (by omega), if_pos h]
  | cons m lengths ih =>
    rw [List.sum_cons] at h
    have hbehind : (cs.drop n).length = (m :: lengths).sum := by
      rw [List.length_drop]
      omega
    have hlength : (cs.take n).length = n := by
      rw [List.length_take]
      omega
    rw [hyphenate, joinGroups?]
    · rw [List.drop_left' hlength]
      simp only
      rw [List.length_append, hlength, if_pos (by omega), ih hbehind, List.take_left' hlength,
        Option.map_some, List.take_append_drop]
    · exact nofun
    · exact nofun

theorem parse?_toText (id : Uuid) : parse? id.toText = some id := by
  have hread := ofDigits?_hexDigits id
  have hdigits := length_hexDigits 32 id.value
  rw [parse?, toText, String.toList_ofList]
  -- Only the number of digits matters for the groups.
  generalize hexDigits 32 id.value = digits at hread hdigits
  have hsum : digits.length = [8, 4, 4, 4, 12].sum := hdigits
  have hlength : (hyphenate groupLengths digits).length = 36 := by
    rw [groupLengths, length_hyphenate hsum, hdigits]
    rfl
  rw [digits?, hlength]
  simp only
  rw [groupLengths, joinGroups?_hyphenate hsum]
  exact hread

end FlowRouting.Uuid
