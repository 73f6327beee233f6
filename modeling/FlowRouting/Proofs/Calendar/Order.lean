import FlowRouting.Calendar.Basic

/-!
# The order of days and instants

Days, times of day and instants are compared part by part, and each comparison is that of a linear
order. The comparison of timestamps is not. A whole day is equal to every instant that is in it, and
these differ among each other, so equality of timestamps is not transitive.

What comes before what is transitive all the same. Whichever granularity decides, a timestamp that
is before another one has no later day; where a whole day is among the two, it has an earlier one;
and an earlier day is enough to be before. So a whole day in any place of a chain puts an earlier
day in front of a later one, and without one the chain is a chain of instants.
-/

namespace FlowRouting

/-! ## Days and instants -/

instance : Std.TransCmp Date.compare :=
  inferInstanceAs (Std.TransCmp (compareLex (compareOn Date.year)
    (compareLex (compareOn Date.month) (compareOn Date.day))))

instance : Std.TransCmp TimeOfDay.compare :=
  inferInstanceAs (Std.TransCmp (compareLex (compareOn TimeOfDay.hour)
    (compareLex (compareOn TimeOfDay.minute)
      (compareLex (compareOn TimeOfDay.second) (compareOn TimeOfDay.nanosecond)))))

private theorem transCmp_of_part {α β : Type} (cmp : β → β → Ordering) [Std.TransCmp cmp]
    (part : α → β) : Std.TransCmp fun a b : α ↦ cmp (part a) (part b) where
  eq_swap := Std.OrientedCmp.eq_swap
  isLE_trans := Std.TransCmp.isLE_trans

instance : Std.TransCmp Instant.compare :=
  have := transCmp_of_part Date.compare Instant.date
  have := transCmp_of_part TimeOfDay.compare Instant.time
  inferInstanceAs (Std.TransCmp (compareLex (fun a b : Instant ↦ a.date.compare b.date)
    (fun a b : Instant ↦ a.time.compare b.time)))

/-! ## Timestamps -/

namespace Timestamp

variable {a b c : Timestamp}

private theorem compare_of_wholeDay (h : (a.dateOnly || b.dateOnly) = true) :
    a.compare b = a.instant.date.compare b.instant.date :=
  if_pos h

private theorem compare_of_instants (h : (a.dateOnly || b.dateOnly) = false) :
    a.compare b = a.instant.compare b.instant :=
  if_neg (Bool.eq_false_iff.mp h)

instance : Std.OrientedCmp Timestamp.compare where
  eq_swap {a b} := by
    cases h : a.dateOnly || b.dateOnly with
    | true =>
      rw [compare_of_wholeDay h, compare_of_wholeDay (Bool.or_comm _ _ ▸ h)]
      exact Std.OrientedCmp.eq_swap
    | false =>
      rw [compare_of_instants h, compare_of_instants (Bool.or_comm _ _ ▸ h)]
      exact Std.OrientedCmp.eq_swap

private theorem compare_eq_lt_of_day (h : a.instant.date.compare b.instant.date = .lt) :
    a.compare b = .lt := by
  cases hday : a.dateOnly || b.dateOnly with
  | true => rw [compare_of_wholeDay hday, h]
  | false =>
    rw [compare_of_instants hday]
    exact Ordering.then_eq_lt.mpr (.inl h)

private theorem isLE_day_of_compare (h : a.compare b = .lt) :
    (a.instant.date.compare b.instant.date).isLE = true := by
  cases hday : a.dateOnly || b.dateOnly with
  | true =>
    rw [compare_of_wholeDay hday] at h
    exact Ordering.isLE_of_eq_lt h
  | false =>
    rw [compare_of_instants hday] at h
    exact (Ordering.isLE_then_iff_and.mp (Ordering.isLE_of_eq_lt h)).1

private theorem day_of_compare (h : a.compare b = .lt) (hday : (a.dateOnly || b.dateOnly) = true) :
    a.instant.date.compare b.instant.date = .lt := by
  rw [← compare_of_wholeDay hday, h]

/-- **What is before what is transitive**, whatever is a whole day and what is an instant. -/
theorem compare_lt_trans (hab : a.compare b = .lt) (hbc : b.compare c = .lt) :
    a.compare c = .lt := by
  cases hleft : a.dateOnly || b.dateOnly with
  | true =>
    exact compare_eq_lt_of_day
      (Std.TransCmp.lt_of_lt_of_isLE (day_of_compare hab hleft) (isLE_day_of_compare hbc))
  | false =>
    cases hright : b.dateOnly || c.dateOnly with
    | true =>
      exact compare_eq_lt_of_day
        (Std.TransCmp.lt_of_isLE_of_lt (isLE_day_of_compare hab) (day_of_compare hbc hright))
    | false =>
      -- None of the three is a whole day.
      have houter : (a.dateOnly || c.dateOnly) = false := by
        rw [Bool.or_eq_false_iff] at hleft hright ⊢
        exact ⟨hleft.1, hright.2⟩
      rw [compare_of_instants hleft] at hab
      rw [compare_of_instants hright] at hbc
      rw [compare_of_instants houter]
      exact Std.TransCmp.lt_trans hab hbc

end Timestamp

end FlowRouting
