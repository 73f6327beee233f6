import Mathlib.Data.List.TakeWhile
import FlowRouting.Text.Basic

/-!
# Trimmed texts

Trimming takes the blanks from both ends of a text, and what is left neither begins nor ends with
one. This determines it: whatever blanks are put around such a text, trimming gives it back. What is
looked for in a text and has no blanks in it is found as well in the trimmed text.
-/

namespace FlowRouting

private theorem toNat_lt_of_isAlphanum {c : Char} (h : c.isAlphanum = true) : c.toNat < 128 := by
  have hle : ∀ d : Char, d.toNat < 128 → c.val ≤ d.val → c.toNat < 128 :=
    fun _ hd hcd ↦ Nat.lt_of_le_of_lt hcd hd
  rcases Bool.or_eq_true_iff.mp h with h | h
  · rcases Bool.or_eq_true_iff.mp h with h | h
    · exact hle 'Z' (by decide) (of_decide_eq_true h).2
    · exact hle 'z' (by decide) (of_decide_eq_true (Bool.and_eq_true_iff.mp h).2)
  · exact hle '9' (by decide) (of_decide_eq_true (Bool.and_eq_true_iff.mp h).2)

private theorem forall_isAlphanum {p : Char → Prop}
    (h : ∀ n < 128, (Char.ofNat n).isAlphanum = true → p (Char.ofNat n)) {c : Char}
    (hc : c.isAlphanum = true) : p c := by
  have hp := h c.toNat (toNat_lt_of_isAlphanum hc)
  rw [Char.ofNat_toNat] at hp
  exact hp hc

theorem isBlank_of_isAlphanum {c : Char} (h : c.isAlphanum = true) : isBlank c = false :=
  forall_isAlphanum (p := fun c ↦ isBlank c = false) (by decide) h

theorem isAlphanum_toLower {c : Char} (h : c.isAlphanum = true) : c.toLower.isAlphanum = true :=
  forall_isAlphanum (p := fun c ↦ c.toLower.isAlphanum = true) (by decide) h

theorem isBlank_of_isDigit {c : Char} (h : c.isDigit = true) : isBlank c = false :=
  isBlank_of_isAlphanum (by rw [Char.isAlphanum, h, Bool.or_true])

namespace Text

/-- A text neither begins nor ends with a blank. -/
structure IsTrimmed (cs : List Char) : Prop where
  head : ∀ c ∈ cs.head?, isBlank c = false
  last : ∀ c ∈ cs.getLast?, isBlank c = false

variable {a b cs : List Char}

theorem IsTrimmed.of_forall (h : ∀ c ∈ cs, isBlank c = false) : IsTrimmed cs :=
  ⟨fun c hc ↦ h c (List.mem_of_head? hc), fun c hc ↦ h c (List.mem_of_getLast? hc)⟩

theorem eq_nil_of_isBlank (hblank : ∀ c ∈ cs, isBlank c = true)
    (hlast : ∀ c ∈ cs.getLast?, isBlank c = false) : cs = [] := by
  cases hend : cs.getLast? with
  | none => exact List.getLast?_eq_none_iff.mp hend
  | some c =>
    have hc := hblank c (List.mem_of_getLast? hend)
    rw [hlast c hend] at hc
    cases hc

private theorem trimRight_append (cs : List Char) :
    trimRight cs ++ (cs.reverse.takeWhile isBlank).reverse = cs := by
  rw [trimRight, ← List.reverse_append, List.takeWhile_append_dropWhile, List.reverse_reverse]

theorem exists_blanks_trim (cs : List Char) :
    ∃ a b, cs = a ++ (trim cs ++ b) ∧ (∀ c ∈ a, isBlank c = true) ∧
      ∀ c ∈ b, isBlank c = true := by
  have hleft : cs.takeWhile isBlank ++ trimLeft cs = cs := List.takeWhile_append_dropWhile
  refine ⟨cs.takeWhile isBlank, ((trimLeft cs).reverse.takeWhile isBlank).reverse, ?_, ?_, ?_⟩
  · rw [trim, trimRight_append, hleft]
  · exact fun c hc ↦ List.mem_takeWhile_imp hc
  · exact fun c hc ↦ List.mem_takeWhile_imp (List.mem_reverse.mp hc)

theorem mem_of_mem_trim {c : Char} (h : c ∈ trim cs) : c ∈ cs := by
  obtain ⟨a, b, hcs, -, -⟩ := exists_blanks_trim cs
  rw [hcs]
  exact List.mem_append_right a (List.mem_append_left b h)

theorem isTrimmed_trim (cs : List Char) : IsTrimmed (trim cs) where
  head := by
    intro c hc
    -- Trimming on the right leaves the first character as it is.
    obtain ⟨rest, hrest⟩ := List.head?_eq_some_iff.mp hc
    have hnot := List.head?_dropWhile_not isBlank cs
    rw [← trimLeft, ← trimRight_append (trimLeft cs), ← trim, hrest] at hnot
    simpa using hnot
  last := by
    intro c hc
    have hnot := List.head?_dropWhile_not isBlank (trimLeft cs).reverse
    rw [trim, trimRight, Option.mem_def, List.getLast?_reverse] at hc
    rw [hc] at hnot
    simpa using hnot

theorem isBlank_of_trim_eq_nil (h : trim cs = []) : ∀ c ∈ cs, isBlank c = true := by
  obtain ⟨a, b, hcs, ha, hb⟩ := exists_blanks_trim cs
  rw [h, List.nil_append] at hcs
  intro c hc
  rw [hcs] at hc
  rcases List.mem_append.mp hc with hc | hc
  · exact ha c hc
  · exact hb c hc

theorem IsTrimmed.trim_blanks_append (h : IsTrimmed cs) (ha : ∀ c ∈ a, isBlank c = true)
    (hb : ∀ c ∈ b, isBlank c = true) : trim (a ++ (cs ++ b)) = cs := by
  rw [trim, trimLeft, List.dropWhile_append_of_pos ha]
  cases cs with
  | nil =>
    rw [List.nil_append, List.dropWhile_eq_nil_iff.mpr hb]
    rfl
  | cons c cs =>
    have hc : isBlank c = false := h.head c rfl
    -- From the end, the first character that is no blank is the last one of the text.
    have hlast : (c :: cs).reverse.dropWhile isBlank = (c :: cs).reverse := by
      obtain ⟨d, ds, hds⟩ := List.exists_cons_of_ne_nil (by simp : (c :: cs).reverse ≠ [])
      have hd : isBlank d = false := h.last d (by
        rw [Option.mem_def, List.getLast?_eq_head?_reverse, hds]
        rfl)
      rw [hds, List.dropWhile_cons_of_neg (by simp [hd])]
    rw [List.cons_append, List.dropWhile_cons_of_neg (by simp [hc]), ← List.cons_append, trimRight,
      List.reverse_append, List.dropWhile_append_of_pos (by simpa using hb), hlast,
      List.reverse_reverse]

theorem IsTrimmed.trim_eq (h : IsTrimmed cs) : trim cs = cs := by
  have heq := h.trim_blanks_append (a := []) (b := []) (by simp) (by simp)
  rwa [List.nil_append, List.append_nil] at heq

@[simp] theorem trim_trim (cs : List Char) : trim (trim cs) = trim cs :=
  (isTrimmed_trim cs).trim_eq

@[simp] theorem trim_trimLeft (cs : List Char) : trim (trimLeft cs) = trim cs := by
  obtain ⟨a, b, hcs, ha, hb⟩ := exists_blanks_trim (trimLeft cs)
  -- What is left has blanks around it, and so has the whole text.
  have hsplit : cs = (cs.takeWhile isBlank ++ a) ++ (trim (trimLeft cs) ++ b) := by
    rw [List.append_assoc, ← hcs]
    exact List.takeWhile_append_dropWhile.symm
  have hleft : ∀ c ∈ cs.takeWhile isBlank ++ a, isBlank c = true := by
    intro c hc
    rcases List.mem_append.mp hc with hc | hc
    · exact List.mem_takeWhile_imp hc
    · exact ha c hc
  conv => rhs; rw [hsplit]
  rw [(isTrimmed_trim (trimLeft cs)).trim_blanks_append hleft hb]

@[simp] theorem trim_trimRight (cs : List Char) : trim (trimRight cs) = trim cs := by
  obtain ⟨a, b, hcs, ha, hb⟩ := exists_blanks_trim (trimRight cs)
  have hsplit :
      cs = a ++ (trim (trimRight cs) ++ (b ++ (cs.reverse.takeWhile isBlank).reverse)) := by
    rw [← List.append_assoc _ b, ← List.append_assoc a, ← hcs, trimRight_append]
  have hright : ∀ c ∈ b ++ (cs.reverse.takeWhile isBlank).reverse, isBlank c = true := by
    intro c hc
    rcases List.mem_append.mp hc with hc | hc
    · exact hb c hc
    · exact List.mem_takeWhile_imp (List.mem_reverse.mp hc)
  conv => rhs; rw [hsplit]
  rw [(isTrimmed_trim (trimRight cs)).trim_blanks_append ha hright]

private theorem dropWhile_append_cons {c : Char} (hc : isBlank c = false) (a b : List Char) :
    (a ++ c :: b).dropWhile isBlank = a.dropWhile isBlank ++ c :: b := by
  induction a with
  | nil => rw [List.nil_append, List.dropWhile_cons_of_neg (by simp [hc])]; rfl
  | cons d a ih =>
    rw [List.cons_append]
    by_cases hd : isBlank d = true
    · rw [List.dropWhile_cons_of_pos hd, List.dropWhile_cons_of_pos hd, ih]
    · rw [List.dropWhile_cons_of_neg hd, List.dropWhile_cons_of_neg hd, List.cons_append]

/-- Around a character that is no blank, a text is trimmed on the left and on the right. -/
theorem trim_append_cons {c : Char} (hc : isBlank c = false) (a b : List Char) :
    trim (a ++ c :: b) = trimLeft a ++ c :: trimRight b := by
  rw [trim, trimLeft, dropWhile_append_cons hc, trimRight, List.reverse_append, List.reverse_cons,
    List.append_assoc, List.singleton_append, dropWhile_append_cons hc, List.reverse_append,
    List.reverse_cons, List.reverse_reverse, List.append_assoc, List.singleton_append]
  rfl

/-- A part is not touched by a text in front that does not have its first character. -/
theorem cons_infix_append_iff {c : Char} {part a cs : List Char} (h : c ∉ a) :
    c :: part <:+: a ++ cs ↔ c :: part <:+: cs := by
  induction a with
  | nil => rw [List.nil_append]
  | cons d a ih =>
    rw [List.mem_cons, not_or] at h
    have hnot : ¬c :: part <+: d :: (a ++ cs) := fun hprefix ↦
      h.1 (List.cons_prefix_cons.mp hprefix).1
    rw [List.cons_append, List.infix_cons_iff, or_iff_right hnot, ih h.2]

private theorem infix_blanks_append_iff {part a cs : List Char} (hne : part ≠ [])
    (hpart : ∀ c ∈ part, isBlank c = false) (ha : ∀ c ∈ a, isBlank c = true) :
    part <:+: a ++ cs ↔ part <:+: cs := by
  obtain ⟨c, part', rfl⟩ := List.exists_cons_of_ne_nil hne
  have hc : isBlank c = false := hpart c List.mem_cons_self
  refine cons_infix_append_iff fun hmem ↦ ?_
  rw [ha c hmem] at hc
  cases hc

theorem infix_trim_iff {part cs : List Char} (hne : part ≠ [])
    (hpart : ∀ c ∈ part, isBlank c = false) : part <:+: trim cs ↔ part <:+: cs := by
  obtain ⟨a, b, hcs, ha, hb⟩ := exists_blanks_trim cs
  -- Behind a text the same holds of the reversed texts.
  have hright : part <:+: trim cs ++ b ↔ part <:+: trim cs := by
    rw [← List.reverse_infix, List.reverse_append, infix_blanks_append_iff, List.reverse_infix]
    · simpa using hne
    · simpa using hpart
    · simpa using hb
  conv => rhs; rw [hcs]
  rw [infix_blanks_append_iff hne hpart ha, hright]

end Text

end FlowRouting

namespace String

open FlowRouting

@[simp] theorem trimBlanks_trimBlanks (s : String) : s.trimBlanks.trimBlanks = s.trimBlanks := by
  rw [trimBlanks, trimBlanks, toList_ofList, Text.trim_trim]

theorem trimBlanks_of_isTrimmed {s : String} (h : Text.IsTrimmed s.toList) : s.trimBlanks = s := by
  rw [trimBlanks, h.trim_eq, ofList_toList]

end String
