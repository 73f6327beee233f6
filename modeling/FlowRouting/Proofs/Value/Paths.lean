import FlowRouting.Proofs.Dict
import FlowRouting.Proofs.Text.Splitting
import FlowRouting.Value.Basic

/-!
# Paths in a value

A path is cut at its dots into segments, which are followed one after the other. As the segments of
two paths with a dot between them are those of the one and then those of the other, a path may be
taken apart at any of its dots: following it is following the one part and then the other.

There are two exceptions, and they have the same reason. The empty text as a path of its own stays
where it is, while next to a dot it is a segment, the empty key. So both parts must not be empty,
unless nothing is left to be found: below nothing every segment leads to nothing, the empty one
included.
-/

namespace FlowRouting

/-! ## Paths with a dot between them -/

theorem toList_join (s rest : String) :
    (s ++ "." ++ rest).toList = s.toList ++ '.' :: rest.toList := by
  simp

theorem join_ne_empty (s rest : String) : s ++ "." ++ rest ≠ "" := by
  simp [String.append_eq_empty_iff]

private theorem pieces_append (p q : String) :
    (p ++ "." ++ q).pieces '.' = p.pieces '.' ++ q.pieces '.' := by
  rw [String.pieces, toList_join, Text.split_append, List.map_append, ← String.pieces,
    ← String.pieces]

theorem pieces_join {s : String} (h : '.' ∉ s.toList) (rest : String) :
    (s ++ "." ++ rest).pieces '.' = s :: rest.pieces '.' := by
  rw [pieces_append, String.pieces_of_notMem h, List.singleton_append]

namespace Value

variable {v u : Value} {segment : String}

/-! ## Single steps -/

private theorem sizeOf_lt_of_step? (h : v.step? segment = some u) : sizeOf u < sizeOf v := by
  cases v with
  | object fields =>
    have hlt := List.sizeOf_lt_of_mem (Dict.mem_of_get? h)
    simp only [Prod.mk.sizeOf_spec, Value.object.sizeOf_spec] at hlt ⊢
    omega
  | array items =>
    obtain ⟨i, -, hi⟩ := Option.bind_eq_some_iff.mp h
    have hlt := List.sizeOf_lt_of_mem (List.mem_of_getElem? hi)
    simp only [Value.array.sizeOf_spec]
    omega
  | null | bool | number | text => cases h

/-- No segment stays where it is, unless there is nothing. -/
theorem getD_step?_eq_iff : (v.step? segment).getD .null = v ↔ v = .null := by
  constructor
  · intro h
    cases hstep : v.step? segment with
    | none =>
      rw [hstep] at h
      exact h.symm
    | some u =>
      rw [hstep, Option.getD_some] at h
      exact absurd (sizeOf_lt_of_step? hstep) (h ▸ Nat.lt_irrefl _)
  · rintro rfl
    rfl

theorem walk?_cons (v : Value) (segment : String) (segments : List String) :
    v.walk? (segment :: segments) = (v.step? segment).bind (·.walk? segments) := by
  rw [walk?, List.foldlM_cons]
  rfl

/-! ## Whole paths -/

private theorem getPath_of_ne_empty {path : String} (h : path ≠ "") (v : Value) :
    v.getPath path = (v.walk? (path.pieces '.')).getD .null := by
  rw [getPath, if_neg (by rwa [String.isEmpty_iff])]

theorem getPath_of_notMem {path : String} (hne : path ≠ "") (h : '.' ∉ path.toList) (v : Value) :
    v.getPath path = (v.step? path).getD .null := by
  rw [getPath_of_ne_empty hne, String.pieces_of_notMem h, walk?_cons]
  cases v.step? path with
  | none => rfl
  | some u => rfl

private theorem walk?_pieces_eq_none (h : ∀ segment, v.step? segment = none) (path : String) :
    v.walk? (path.pieces '.') = none := by
  obtain ⟨segment, segments, hsplit⟩ :=
    List.exists_cons_of_ne_nil (Text.split_ne_nil '.' path.toList)
  rw [String.pieces, hsplit, List.map_cons, walk?_cons, h, Option.bind_none]

theorem getPath_of_step?_eq_none (h : ∀ segment, v.step? segment = none) (path : String) :
    v.getPath path = if path = "" then v else .null := by
  by_cases hpath : path = ""
  · rw [hpath, if_pos rfl, getPath_empty]
  · rw [getPath_of_ne_empty hpath, walk?_pieces_eq_none h, if_neg hpath, Option.getD_none]

@[simp] theorem getPath_null (path : String) : Value.null.getPath path = .null := by
  rw [getPath_of_step?_eq_none fun _ ↦ rfl, ite_self]

/-! ## Composition -/

/-- Behind a dot all segments are followed, also a single empty one. -/
theorem getPath_append (v : Value) (p q : String) :
    v.getPath (p ++ "." ++ q) =
      ((v.walk? (p.pieces '.')).map fun u ↦ (u.walk? (q.pieces '.')).getD .null).getD .null := by
  rw [getPath_of_ne_empty (join_ne_empty p q), pieces_append, walk?_append]
  cases v.walk? (p.pieces '.') <;> rfl

theorem getPath_join {rest : String} (h : '.' ∉ segment.toList) (hrest : rest ≠ "") (v : Value) :
    v.getPath (segment ++ "." ++ rest) =
      ((v.step? segment).map (·.getPath rest)).getD .null := by
  rw [getPath_append, String.pieces_of_notMem h, walk?_cons]
  simp only [getPath_of_ne_empty hrest]
  cases v.step? segment <;> rfl

theorem getPath_join_empty (h : '.' ∉ segment.toList) (v : Value) :
    v.getPath (segment ++ "." ++ "") =
      ((v.step? segment).map fun u ↦ (u.step? "").getD Value.null).getD .null := by
  have hempty : ∀ u : Value, u.walk? ("".pieces '.') = u.step? "" := by
    intro u
    show u.walk? [""] = _
    rw [walk?_cons]
    cases u.step? "" <;> rfl
  rw [getPath_append, String.pieces_of_notMem h, walk?_cons]
  simp only [hempty]
  cases v.step? segment <;> rfl

/-- **Navigation composes.** A path that is taken apart at a dot, anywhere in it, into two paths
that are not empty leads where the second one leads from where the first one does. Where a path
finds nothing, every extension of it finds nothing. -/
theorem getPath_composes (v : Value) (p : String) :
    (∀ q, p ≠ "" → q ≠ "" → v.getPath (p ++ "." ++ q) = (v.getPath p).getPath q) ∧
      (v.getPath p = .null → ∀ q, v.getPath (p ++ "." ++ q) = .null) := by
  refine ⟨fun q hp hq ↦ ?_, fun hnull q ↦ ?_⟩
  · rw [getPath_append, getPath_of_ne_empty hp]
    cases v.walk? (p.pieces '.') with
    | none => exact (getPath_null q).symm
    | some u => exact (getPath_of_ne_empty hq u).symm
  · by_cases hp : p = ""
    · subst hp
      -- The empty path stays where it is, so there has been nothing from the start.
      obtain rfl : v = .null := hnull
      exact getPath_null _
    · rw [getPath_of_ne_empty hp] at hnull
      rw [getPath_append]
      cases hwalk : v.walk? (p.pieces '.') with
      | none => rfl
      | some u =>
        obtain rfl : u = .null := by rwa [hwalk] at hnull
        rw [Option.map_some, walk?_pieces_eq_none fun _ ↦ rfl]
        rfl

def nested : Value :=
  .object [("a", .object [("", .array [.bool true, .object [("b", .text "deep")]])])]

/-- The empty segment is a key, and an index may be written with a plus and a zero in front. -/
theorem getPath_composes_nested :
    nested.getPath ("a." ++ "." ++ "+01.b") = (nested.getPath "a.").getPath "+01.b" ∧
      (nested.getPath "a.").getPath "+01.b" = .text "deep" ∧
      nested.getPath "a.x" = .null ∧ nested.getPath ("a.x" ++ "." ++ "") = .null := by
  have hmissing : nested.getPath "a.x" = .null := rfl
  exact ⟨(getPath_composes nested "a.").1 "+01.b" (by decide) (by decide), rfl, hmissing,
    (getPath_composes nested "a.x").2 hmissing ""⟩

/-- A dot with nothing behind it does not stay where it is. -/
example :
    (nested.getPath "a").getPath "" = .object [("", nested.getPath "a.")] ∧
      nested.getPath ("a" ++ "." ++ "") = nested.getPath "a." :=
  ⟨rfl, rfl⟩

end Value

end FlowRouting
