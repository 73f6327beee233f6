import FlowRouting.Condition.Json
import FlowRouting.Proofs.Fallible

/-!
# The layout of a condition

Whatever a run finds, a condition can choose a path only if it has one, and a clause can compare
only if it has a text to compare with. Neither can be missing in a run: reading a configuration
looks for both, and for the fallback to be without clauses. `Condition.IsWellFormed` collects what
is known of a condition that was read, so that later proofs do not open the reader.
-/

namespace FlowRouting.Condition

/-- A condition has at least two paths, the last one has no clauses, and no clause lacks a text that
its operator needs. -/
structure IsWellFormed (c : Condition) : Prop where
  two_le_length : 2 ≤ c.paths.length
  clauses_fallback : ∀ p ∈ c.fallback?, p.clauses = []
  lacksValue : ∀ clause ∈ c.clauses, clause.lacksValue = false

variable {nodeId : String} {c : Condition}

/-- Nothing is wrong with a condition exactly if it is well-formed. -/
theorem fault?_eq_none_iff : c.fault? nodeId = none ↔ c.IsWellFormed := by
  have hfallback : c.fallback?.filter (fun p ↦ !p.clauses.isEmpty) = none ↔
      ∀ p ∈ c.fallback?, p.clauses = [] := by
    rw [Option.filter_eq_none_iff]
    simp
  have hvalues : (c.clauses.find? Clause.lacksValue) = none ↔
      ∀ clause ∈ c.clauses, clause.lacksValue = false := by
    rw [List.find?_eq_none]
    simp
  rw [fault?]
  by_cases hlength : c.paths.length < 2
  · rw [if_pos hlength]
    exact iff_of_false (Option.some_ne_none _) fun h ↦ absurd h.two_le_length (by omega)
  · rw [if_neg hlength]
    cases hguarded : c.fallback?.filter (fun p ↦ !p.clauses.isEmpty) with
    | some p =>
      rw [hguarded] at hfallback
      exact iff_of_false (Option.some_ne_none _) fun h ↦
        Option.some_ne_none _ (hfallback.mpr h.clauses_fallback)
    | none =>
      show Option.map _ (c.clauses.find? Clause.lacksValue) = none ↔ _
      rw [Option.map_eq_none_iff, hvalues]
      constructor
      · intro h
        exact ⟨by omega, hfallback.mp hguarded, h⟩
      · intro h
        exact h.lacksValue

theorem decode_of_ofFields {config : Fields} (h : ofFields nodeId config = .ok c) :
    shape.decode .tree (Value.object config).toJson = .ok c ∧ c.fault? nodeId = none := by
  rw [ofFields] at h
  split at h
  · cases h
  · dsimp only at h
    split at h
    · cases h
    · next hdecode =>
      split at h
      · cases h
      · next hfault =>
        cases h
        exact ⟨hdecode, hfault⟩

/-- A condition that was read from a configuration is well-formed. -/
theorem isWellFormed_of_ofFields {config : Fields} (h : ofFields nodeId config = .ok c) :
    c.IsWellFormed :=
  fault?_eq_none_iff.mp (decode_of_ofFields h).2

theorem IsWellFormed.paths_ne_nil (h : c.IsWellFormed) : c.paths ≠ [] := by
  have hlength := h.two_le_length
  rw [← List.length_pos_iff]
  omega

theorem IsWellFormed.exists_guarded (h : c.IsWellFormed) {clause : Clause}
    (hclause : clause ∈ c.clauses) : ∃ p ∈ c.guarded, clause ∈ p.clauses := by
  obtain ⟨p, hp, hclause⟩ := List.mem_flatMap.mp hclause
  rw [← List.dropLast_concat_getLast h.paths_ne_nil, List.mem_append, List.mem_singleton] at hp
  rcases hp with hp | rfl
  · exact ⟨p, hp, hclause⟩
  · rw [h.clauses_fallback _ (List.getLast?_eq_some_getLast h.paths_ne_nil)] at hclause
    exact absurd hclause List.not_mem_nil

end FlowRouting.Condition
