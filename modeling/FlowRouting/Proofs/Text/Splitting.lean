import FlowRouting.Text.Basic

/-!
# Texts that are cut at a separator

A text is cut at its first separator, or at all of them. The second is the first done again and
again, so what is known of one cut carries over to all of them, and joining the pieces gives the
text back.
-/

namespace FlowRouting.Text

variable {sep : Char} {a b cs : List Char}

theorem splitOnce_append_cons (h : sep ∉ a) (b : List Char) :
    splitOnce sep (a ++ sep :: b) = some (a, b) := by
  induction a with
  | nil => simp [splitOnce]
  | cons c a ih =>
    rw [List.mem_cons, not_or] at h
    rw [List.cons_append, splitOnce, if_neg (Ne.symm h.1), ih h.2]
    rfl

theorem split_eq (sep : Char) (cs : List Char) :
    split sep cs = (splitOnce sep cs).elim [cs] fun p ↦ p.1 :: split sep p.2 := by
  induction cs with
  | nil => rfl
  | cons c cs ih =>
    rw [split, splitOnce]
    by_cases hc : c = sep
    · rw [if_pos hc, if_pos hc]
      rfl
    · rw [if_neg hc, if_neg hc, ih]
      cases splitOnce sep cs with
      | none => rfl
      | some p => rfl

theorem split_of_notMem (h : sep ∉ cs) : split sep cs = [cs] := by
  rw [split_eq, splitOnce_eq_none_iff.mpr h]
  rfl

/-- The pieces of two texts with a separator between them are those of the one and of the other. -/
theorem split_append (sep : Char) (a b : List Char) :
    split sep (a ++ sep :: b) = split sep a ++ split sep b := by
  induction a with
  | nil => rw [List.nil_append, split, split, if_pos rfl, List.singleton_append]
  | cons c a ih =>
    rw [List.cons_append, split, split, ih]
    by_cases hc : c = sep
    · rw [if_pos hc, if_pos hc, List.cons_append]
    · obtain ⟨piece, pieces, hpieces⟩ := List.exists_cons_of_ne_nil (split_ne_nil sep a)
      rw [if_neg hc, if_neg hc, hpieces]
      rfl

theorem split_append_cons (h : sep ∉ a) (b : List Char) :
    split sep (a ++ sep :: b) = a :: split sep b := by
  rw [split_append, split_of_notMem h, List.singleton_append]

/-- The first piece of a text is all of it, or what stands before the first separator. -/
theorem split_eq_cons_iff {pieces : List (List Char)} :
    split sep cs = a :: pieces ↔
      sep ∉ a ∧ (cs = a ∧ pieces = [] ∨ ∃ b, cs = a ++ sep :: b ∧ split sep b = pieces) := by
  constructor
  · intro h
    rw [split_eq] at h
    cases hcut : splitOnce sep cs with
    | none =>
      rw [hcut] at h
      obtain ⟨rfl, hpieces⟩ := List.cons.inj h
      exact ⟨splitOnce_eq_none_iff.mp hcut, Or.inl ⟨rfl, hpieces.symm⟩⟩
    | some p =>
      rw [hcut] at h
      obtain ⟨rfl, hpieces⟩ := List.cons.inj h
      obtain ⟨hcs, ha⟩ := eq_append_of_splitOnce hcut
      exact ⟨ha, Or.inr ⟨p.2, hcs, hpieces⟩⟩
  · rintro ⟨ha, ⟨rfl, rfl⟩ | ⟨b, rfl, hb⟩⟩
    · exact split_of_notMem ha
    · rw [split_append_cons ha, hb]

theorem split_eq_singleton_iff : split sep cs = [a] ↔ cs = a ∧ sep ∉ a := by
  rw [split_eq_cons_iff]
  constructor
  · rintro ⟨ha, ⟨hcs, -⟩ | ⟨b, -, hb⟩⟩
    · exact ⟨hcs, ha⟩
    · exact absurd hb (split_ne_nil sep b)
  · rintro ⟨hcs, ha⟩
    exact ⟨ha, Or.inl ⟨hcs, rfl⟩⟩

/-- A text that is cut into two pieces has one separator between them. -/
theorem split_eq_pair_iff :
    split sep cs = [a, b] ↔ cs = a ++ sep :: b ∧ sep ∉ a ∧ sep ∉ b := by
  rw [split_eq_cons_iff]
  constructor
  · rintro ⟨ha, ⟨-, hnil⟩ | ⟨b', hcs, hb⟩⟩
    · cases hnil
    · obtain ⟨rfl, hb⟩ := split_eq_singleton_iff.mp hb
      exact ⟨hcs, ha, hb⟩
  · rintro ⟨hcs, ha, hb⟩
    exact ⟨ha, Or.inr ⟨b, hcs, split_of_notMem hb⟩⟩

end FlowRouting.Text

namespace String

open FlowRouting

theorem pieces_of_notMem {sep : Char} {s : String} (h : sep ∉ s.toList) : s.pieces sep = [s] := by
  rw [pieces, Text.split_of_notMem h]
  simp

end String
