import FlowRouting.Proofs.Condition.Choice

/-!
# Strict and lenient routing

The two modes differ in what they do about a clause that cannot be evaluated. Where strict mode
chooses a path it has not met one, so lenient mode goes the same way and passes over nothing. And
lenient mode chooses a path whatever it meets, for it ends up at the fallback.
-/

namespace FlowRouting.Routing

variable {vars : Variables} {s : Selection}

/-- Where paths are tried strictly with success, they are tried leniently in the same way. -/
theorem tryPaths_lenient_of_strict {fallback : Path} {index : Nat} {paths : List Path}
    (h : (tryPaths vars .strict fallback index paths).outcome = .ok s) :
    tryPaths vars .lenient fallback index paths = tryPaths vars .strict fallback index paths := by
  induction paths generalizing index with
  | nil => rfl
  | cons p paths ih =>
    cases hp : p.holds vars with
    | error failure =>
      -- Strict mode fails at this path.
      simp only [tryPaths, hp] at h
      cases h
    | ok outcome =>
      cases outcome with
      | true => simp only [tryPaths, hp]
      | false =>
        simp only [tryPaths, hp] at h ⊢
        exact ih h

private theorem exists_selection_of_tryPaths_lenient (vars : Variables) (fallback : Path)
    (index : Nat) (paths : List Path) :
    ∃ s, (tryPaths vars .lenient fallback index paths).outcome = .ok s := by
  obtain ⟨p, matched, place, _, _, hlenient, _⟩ :=
    exists_tryPaths_lenient vars fallback paths index index
  exact ⟨p.select matched (index + place), congrArg outcome hlenient⟩

/-- What strict mode chooses lenient mode chooses as well, and it passes over nothing. -/
theorem choose_lenient_of_strict {paths : List Path}
    (h : (choose vars .strict paths).outcome = .ok s) :
    choose vars .lenient paths = choose vars .strict paths := by
  rw [choose] at h ⊢
  rw [choose]
  cases hlast : paths.getLast? with
  | none => rfl
  | some fallback =>
    rw [hlast] at h
    exact tryPaths_lenient_of_strict h

/-- Where there are paths, lenient mode chooses one. -/
theorem exists_selection_of_choose_lenient (vars : Variables) {paths : List Path}
    (h : paths ≠ []) : ∃ s, (choose vars .lenient paths).outcome = .ok s := by
  rw [choose, List.getLast?_eq_some_getLast h]
  exact exists_selection_of_tryPaths_lenient vars _ 0 _

end FlowRouting.Routing
