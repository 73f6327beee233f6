import FlowRouting.Proofs.Text.Splitting
import FlowRouting.Proofs.Text.Trimming
import FlowRouting.Scope

/-!
# References that were joined

A reference is made by joining a name and a field with a dot, and taken apart at its first dot. The
two fit together if the name has no dot in it. If it has one, the reference is taken apart within
the name, and what is behind the first dot of the name ends up in the path; such a path is never the
field, and hardly ever leads to it.
-/

namespace FlowRouting

namespace Reference

theorem split_trimBlanks (reference : String) :
    split reference.trimBlanks = split reference := by
  rw [split, split, String.trimBlanks, String.toList_ofList, Text.trim_trim]

theorem split_of_notMem {reference : String} (h : '.' ∉ reference.toList) :
    split reference = ⟨reference.trimBlanks, ""⟩ := by
  have hnone : Text.splitOnce '.' (Text.trim reference.toList) = none := by
    rw [Text.splitOnce_eq_none_iff]
    exact fun hmem ↦ h (Text.mem_of_mem_trim hmem)
  rw [split, hnone]
  rfl

theorem split_join {scope : String} (h : '.' ∉ scope.toList) (rest : String) :
    split (scope ++ "." ++ rest) = ⟨scope.trimBlanks, rest.trimBlanks⟩ := by
  have htext : (scope ++ "." ++ rest).toList = scope.toList ++ '.' :: rest.toList := by
    simp
  have hleft : '.' ∉ Text.trimLeft scope.toList := fun hmem ↦
    h ((List.dropWhile_sublist isBlank).mem hmem)
  rw [split, htext, Text.trim_append_cons (by decide), Text.splitOnce_append_cons hleft]
  simp only [Text.trim_trimLeft, Text.trim_trimRight]
  rfl

theorem exists_eq_join_of_mem {s : String} (h : '.' ∈ s.toList) :
    ∃ scope rest, s = scope ++ "." ++ rest ∧ '.' ∉ scope.toList := by
  cases hsplit : Text.splitOnce '.' s.toList with
  | none => exact absurd h (Text.splitOnce_eq_none_iff.mp hsplit)
  | some p =>
    obtain ⟨hs, hscope⟩ := Text.eq_append_of_splitOnce hsplit
    refine ⟨String.ofList p.1, String.ofList p.2, ?_, ?_⟩
    · rw [← String.toList_inj, hs]
      simp
    · rwa [String.toList_ofList]

end Reference

/-! ## Paths to output fields -/

/-- A path leads to an output field, whatever the field holds: it is the name of the field, or the
name with a dot behind it. -/
def LeadsTo (path field : String) : Prop :=
  '.' ∉ field.toList ∧ (field ≠ "" ∧ path = field ∨ path = field ++ ".")

/-- A field is led to by its trimmed name only if this is its name, and there is no dot in it. -/
theorem leadsTo_trimBlanks_iff {field : String} :
    LeadsTo field.trimBlanks field ↔
      '.' ∉ field.toList ∧ field.trimBlanks = field ∧ field ≠ "" := by
  rw [LeadsTo]
  constructor
  · rintro ⟨hdot, ⟨hne, heq⟩ | heq⟩
    · exact ⟨hdot, heq, hne⟩
    · have hmem : '.' ∈ field.trimBlanks.toList := by
        rw [heq]
        simp
      rw [String.trimBlanks, String.toList_ofList] at hmem
      exact absurd (Text.mem_of_mem_trim hmem) hdot
  · rintro ⟨hdot, heq, hne⟩
    exact ⟨hdot, .inl ⟨hne, heq⟩⟩

/-- With one dot in all, the name and the field are what stands on its sides; the name does not
begin with a blank and the field is a blank one, so there is nothing on either side. -/
theorem eq_nil_of_trim_join_eq {name field : List Char}
    (hlast : ∀ c ∈ name.getLast?, isBlank c = false) (hdot : '.' ∉ field)
    (h : Text.trimLeft name ++ '.' :: Text.trimRight field = field ++ ['.']) :
    name = [] ∧ field = [] := by
  have hname : '.' ∉ Text.trimLeft name := by
    -- On the right there is one dot, and one on the left stands behind the name.
    have hcount := congrArg (List.count '.') h
    rw [List.count_append, List.count_cons_self, List.count_append, List.count_eq_zero.mpr hdot,
      List.count_singleton_self] at hcount
    rw [← List.count_eq_zero]
    omega
  have hsplit := Text.splitOnce_append_cons hname (Text.trimRight field)
  rw [h, Text.splitOnce_append_cons hdot] at hsplit
  obtain ⟨hleft, hright⟩ := Prod.mk.inj (Option.some.inj hsplit)
  -- The field begins like the name, which is no blank, and all of it is blank.
  have hfield : field = [] := by
    rw [Text.trimRight, eq_comm, List.reverse_eq_nil_iff, List.dropWhile_eq_nil_iff] at hright
    cases field with
    | nil => rfl
    | cons c field =>
      have hhead := List.head?_dropWhile_not isBlank name
      rw [← Text.trimLeft, ← hleft, List.head?_cons] at hhead
      exact absurd (hright c (by simp)) (by simpa using hhead)
  rw [hfield, Text.trimLeft, eq_comm, List.dropWhile_eq_nil_iff] at hleft
  exact ⟨Text.eq_nil_of_isBlank hleft hlast, hfield⟩

theorem leadsTo_join_iff {name field : String}
    (hlast : ∀ c ∈ name.toList.getLast?, isBlank c = false) :
    LeadsTo (name ++ "." ++ field).trimBlanks field ↔ name = "" ∧ field = "" := by
  constructor
  · rintro ⟨hdot, hpath⟩
    have htext : (name ++ "." ++ field).trimBlanks.toList =
        Text.trimLeft name.toList ++ '.' :: Text.trimRight field.toList := by
      rw [String.trimBlanks, String.toList_ofList, ← Text.trim_append_cons (by decide)]
      simp
    rcases hpath with ⟨-, heq⟩ | heq
    · rw [← heq, htext] at hdot
      simp at hdot
    · rw [heq, String.toList_append] at htext
      obtain ⟨hname, hfield⟩ := eq_nil_of_trim_join_eq hlast hdot htext.symm
      exact ⟨String.toList_eq_nil_iff.mp hname, String.toList_eq_nil_iff.mp hfield⟩
  · rintro ⟨rfl, rfl⟩
    exact ⟨by decide, .inr (by decide)⟩

end FlowRouting
