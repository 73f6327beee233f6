import FlowRouting.Proofs.Scope.Splitting
import FlowRouting.Proofs.Value.Paths

/-!
# What a path finds in the outputs of a node

The first segment of a path is an output field, and the rest is a path into what the field holds. A
path that leads to a field finds what the field holds, whatever it is. Conversely, among fields that
hold truth values only, a path finds the value of a field only if it leads to the field.
-/

namespace FlowRouting

/-! ## Values at paths -/

namespace Value

variable {v : Value}

/-- In a record of texts a path finds the record, or a text, or nothing. -/
theorem getPath_texts_cases {fields : Fields}
    (h : ∀ key v, fields.get? key = some v → ∃ s, v = .text s) (path : String) :
    (Value.object fields).getPath path = .object fields ∨
      (∃ s, (Value.object fields).getPath path = .text s) ∨
      (Value.object fields).getPath path = .null := by
  by_cases hpath : path = ""
  · rw [hpath]
    exact .inl rfl
  right
  obtain ⟨segment, segments, hsplit⟩ :=
    List.exists_cons_of_ne_nil (Text.split_ne_nil '.' path.toList)
  rw [getPath, if_neg (by rwa [String.isEmpty_iff]), String.pieces, hsplit, List.map_cons,
    walk?_cons, step?]
  cases hv : fields.get? (String.ofList segment) with
  | none => exact .inr rfl
  | some v =>
    obtain ⟨s, rfl⟩ := h _ v hv
    cases segments with
    | nil => exact .inl ⟨s, rfl⟩
    | cons segment segments =>
      rw [Option.bind_some, List.map_cons, walk?_cons]
      exact .inr rfl

end Value

/-! ## First segments -/

private theorem Text.headD_split (sep : Char) (cs : List Char) :
    (split sep cs).headD [] = (splitOnce sep cs).elim cs Prod.fst := by
  rw [split_eq]
  cases splitOnce sep cs with
  | none => rfl
  | some p => rfl

private theorem headD_pieces (s : String) (sep : Char) :
    (s.pieces sep).headD "" =
      String.ofList ((Text.splitOnce sep s.toList).elim s.toList Prod.fst) := by
  obtain ⟨piece, pieces, hpieces⟩ := List.exists_cons_of_ne_nil (Text.split_ne_nil sep s.toList)
  rw [← Text.headD_split, String.pieces, hpieces]
  rfl

section Outputs

variable {outputs : Fields} {path field : String} {v : Value}

theorem outputAt_eq_null (hne : (path.pieces '.').headD "" ≠ "")
    (hkey : (path.pieces '.').headD "" ∉ outputs.keys) : outputAt outputs path = .null := by
  rw [Dict.mem_keys_iff, Option.not_isSome_iff_eq_none] at hkey
  rw [headD_pieces] at hne hkey
  have hpath : path ≠ "" := by
    rintro rfl
    exact hne rfl
  rw [outputAt, if_neg (by rwa [String.isEmpty_iff])]
  cases hsplit : Text.splitOnce '.' path.toList with
  | none =>
    rw [hsplit, Option.elim_none, String.ofList_toList] at hkey
    simp only [hkey]
    rfl
  | some p =>
    rw [hsplit, Option.elim_some] at hkey
    simp only [hkey]
    rfl

theorem outputAt_of_leadsTo (h : LeadsTo path field) (hv : outputs.get? field = some v) :
    outputAt outputs path = v := by
  obtain ⟨hdot, ⟨hne, rfl⟩ | rfl⟩ := h
  · rw [outputAt, if_neg (by rwa [String.isEmpty_iff]), Text.splitOnce_eq_none_iff.mpr hdot, hv]
    rfl
  · have htext : (field ++ ".").toList = field.toList ++ '.' :: [] := by
      simp
    have hne : field ++ "." ≠ "" := by
      rw [ne_eq, String.append_eq_empty_iff]
      simp
    rw [outputAt, if_neg (by rwa [String.isEmpty_iff]), htext, Text.splitOnce_append_cons hdot]
    simp only [String.ofList_toList, hv]
    rfl

/-- Among truth values a path finds all of them, or one that it leads to, or nothing. -/
theorem outputAt_cases (hbool : ∀ key v, outputs.get? key = some v → ∃ b, v = .bool b)
    (path : String) :
    path = "" ∧ outputAt outputs path = .object outputs ∨
      (∃ key b, LeadsTo path key ∧ outputs.get? key = some (.bool b) ∧
        outputAt outputs path = .bool b) ∨
      outputAt outputs path = .null := by
  by_cases hpath : path = ""
  · subst hpath
    exact .inl ⟨rfl, rfl⟩
  right
  rw [outputAt, if_neg (by rwa [String.isEmpty_iff])]
  cases hsplit : Text.splitOnce '.' path.toList with
  | none =>
    cases hv : outputs.get? path with
    | none => exact .inr rfl
    | some v =>
      obtain ⟨b, rfl⟩ := hbool path v hv
      exact .inl ⟨path, b, ⟨Text.splitOnce_eq_none_iff.mp hsplit, .inl ⟨hpath, rfl⟩⟩, hv, rfl⟩
  | some p =>
    obtain ⟨htext, hdot⟩ := Text.eq_append_of_splitOnce hsplit
    cases hv : outputs.get? (String.ofList p.1) with
    | none =>
      simp only [hv]
      exact .inr rfl
    | some v =>
      obtain ⟨b, rfl⟩ := hbool _ v hv
      have hleaf : (Value.bool b).getPath (String.ofList p.2) =
          if String.ofList p.2 = "" then .bool b else .null :=
        Value.getPath_of_step?_eq_none (fun _ ↦ rfl) _
      simp only [hv, Option.map_some, Option.getD_some, hleaf]
      by_cases hrest : String.ofList p.2 = ""
      · have hkey : path = String.ofList p.1 ++ "." := by
          rw [← String.toList_inj, htext]
          simpa using hrest
        rw [if_pos hrest]
        exact .inl ⟨_, b, ⟨by rwa [String.toList_ofList], .inr hkey⟩, hv, rfl⟩
      · rw [if_neg hrest]
        exact .inr rfl

end Outputs

end FlowRouting
