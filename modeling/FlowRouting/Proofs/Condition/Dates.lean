import Mathlib.Logic.Relation
import FlowRouting.Proofs.Calendar.Order
import FlowRouting.Proofs.Calendar.Reading
import FlowRouting.Proofs.Condition.Verdict
import FlowRouting.Proofs.Text.Splitting

/-!
# Comparisons of dates

The comparisons of dates look at the points in time that both sides give, and at nothing else. Which
texts are before which is therefore a question about timestamps: a chain of texts, each before the
next, is a chain of timestamps, and does not come back to where it began. Equality has no such law.
Noon is equal to its day, as is midnight, and they are not equal to each other.

A range of dates is read before the value is. Both ends belong to it, whatever their granularity, so
a date lies in it exactly if it is neither before the first end nor after the second.
-/

namespace FlowRouting

/-- The point in time that a value gives. -/
def Value.toTimestamp? : Value → Option Timestamp
  | .text s => Timestamp.parse? s
  | _ => none

namespace Operator

variable {op : Operator} {left : Value} {right start finish : String}

/-! ## The sides -/

private theorem leftDate_eq_ok_iff {t : Timestamp} :
    op.leftDate left = .ok t ↔ left.toTimestamp? = some t := by
  rw [leftDate.eq_def, Value.toTimestamp?.eq_def]
  cases left with
  | text s =>
    dsimp only
    split <;> simp [*]
  | _ => simp

theorem compareDate_eq_ok_iff {accept : Ordering → Bool} {b : Bool} :
    op.compareDate left right accept = .ok b ↔ ∃ s t, left.toTimestamp? = some s ∧
      Timestamp.parse? right = some t ∧ accept (s.compare t) = b := by
  constructor
  · intro h
    obtain ⟨s, hs, h⟩ := bind_eq_ok_iff.mp h
    obtain ⟨t, ht, h⟩ := bind_eq_ok_iff.mp h
    exact ⟨s, t, leftDate_eq_ok_iff.mp hs, rightDate_eq_ok_iff.mp ht, Except.ok.inj h⟩
  · rintro ⟨s, t, hs, ht, rfl⟩
    refine bind_eq_ok_iff.mpr ⟨s, leftDate_eq_ok_iff.mpr hs, ?_⟩
    exact bind_eq_ok_iff.mpr ⟨t, rightDate_eq_ok_iff.mpr ht, rfl⟩

/-! ## What is before what -/

/-- A text gives a date before that of another one. -/
def Precedes (s t : String) : Prop :=
  dateBefore.apply (.text s) t = .ok true

private theorem precedes_iff {s t : String} : Precedes s t ↔ ∃ a b, Timestamp.parse? s = some a ∧
    Timestamp.parse? t = some b ∧ a.compare b = .lt := by
  rw [Precedes, apply, compareDate_eq_ok_iff]
  simp only [Value.toTimestamp?, beq_iff_eq]

/-- Along a chain of texts, each before the next, the first is before the last. -/
theorem precedes_of_transGen {s t : String} (h : Relation.TransGen Precedes s t) :
    Precedes s t := by
  induction h with
  | single h => exact h
  | tail _ h ih =>
    obtain ⟨a, b, ha, hb, hab⟩ := precedes_iff.mp ih
    obtain ⟨b', c, hb', hc, hbc⟩ := precedes_iff.mp h
    cases hb.symm.trans hb'
    exact precedes_iff.mpr ⟨a, c, ha, hc, Timestamp.compare_lt_trans hab hbc⟩

/-- **Being before is a strict order of timestamps**, whole days and instants mixed as they may be,
so no chain of texts, each before the next, comes back to its beginning. This is so although
equality of dates is not transitive. -/
theorem dateBefore_acyclic :
    (∀ a b : Timestamp, b.compare a = (a.compare b).swap) ∧
    (∀ a : Timestamp, a.compare a = .eq) ∧
    (∀ a b c : Timestamp, a.compare b = .lt → b.compare c = .lt → a.compare c = .lt) ∧
    (∀ s : String, ¬Relation.TransGen Precedes s s) ∧
    ∃ s t u : String, dateEquals.apply (.text s) t = .ok true ∧
      dateEquals.apply (.text t) u = .ok true ∧ dateEquals.apply (.text s) u = .ok false := by
  have hself (a : Timestamp) : a.compare a = .eq := Std.ReflCmp.compare_self
  refine ⟨fun a b ↦ Std.OrientedCmp.eq_swap, hself, fun a b c ↦ Timestamp.compare_lt_trans,
    fun s h ↦ ?_, "2024-03-01T08:00:00Z", "2024-03-01", "2024-03-01T20:00:00Z", ?_⟩
  · obtain ⟨a, b, ha, hb, hab⟩ := precedes_iff.mp (precedes_of_transGen h)
    cases ha.symm.trans hb
    cases (hself a).symm.trans hab
  · exact ⟨eq_ok_of_toOption (by decide +kernel), eq_ok_of_toOption (by decide +kernel),
      eq_ok_of_toOption (by decide +kernel)⟩

/-- A day, an instant of the next one and the day after that. -/
theorem dateBefore_acyclic_march :
    ∃ a b c, Timestamp.parse? "2024-02-29" = some a ∧
      Timestamp.parse? "2024-03-01T12:00:00Z" = some b ∧ Timestamp.parse? "2024-03-02" = some c ∧
      a.compare b = .lt ∧ b.compare c = .lt ∧ a.compare c = .lt := by
  have hfirst : Precedes "2024-02-29" "2024-03-01T12:00:00Z" :=
    eq_ok_of_toOption (by decide +kernel)
  have hsecond : Precedes "2024-03-01T12:00:00Z" "2024-03-02" :=
    eq_ok_of_toOption (by decide +kernel)
  obtain ⟨a, b, ha, hb, hab⟩ := precedes_iff.mp hfirst
  obtain ⟨b', c, hb', hc, hbc⟩ := precedes_iff.mp hsecond
  cases hb.symm.trans hb'
  exact ⟨a, b, c, ha, hb, hc, hab, hbc, dateBefore_acyclic.2.2.1 a b c hab hbc⟩

/-! ## Ranges -/

/-- The text gives two dates, cut at its only comma, and the first is not after the second. -/
def IsDateRange (right : String) : Prop :=
  ∃ start finish s t, right = start ++ "," ++ finish ∧ ',' ∉ start.toList ∧ ',' ∉ finish.toList ∧
    Timestamp.parse? start = some s ∧ Timestamp.parse? finish = some t ∧ s.compare t ≠ .gt

private theorem listItems_range (hstart : ',' ∉ start.toList) (hfinish : ',' ∉ finish.toList) :
    listItems (start ++ "," ++ finish) = [start.trimBlanks, finish.trimBlanks] := by
  have hcomma : (start ++ "," ++ finish).toList = start.toList ++ ',' :: finish.toList := by
    simp
  have hsplit := Text.split_eq_pair_iff.mpr ⟨hcomma, hstart, hfinish⟩
  rw [listItems, String.pieces, hsplit]
  simp

private theorem exists_eq_of_listItems {a b : String} (h : listItems right = [a, b]) :
    ∃ start finish : String, right = start ++ "," ++ finish ∧ ',' ∉ start.toList ∧
      ',' ∉ finish.toList ∧ a = start.trimBlanks ∧ b = finish.trimBlanks := by
  rw [listItems, String.pieces, List.map_map] at h
  obtain ⟨cs, rest, hsplit, rfl, hrest⟩ := List.map_eq_cons_iff.mp h
  obtain ⟨ds, rest', rfl, rfl, hnil⟩ := List.map_eq_cons_iff.mp hrest
  cases List.map_eq_nil_iff.mp hnil
  obtain ⟨hright, hcs, hds⟩ := Text.split_eq_pair_iff.mp hsplit
  refine ⟨String.ofList cs, String.ofList ds, ?_, by simpa using hcs, by simpa using hds, rfl, rfl⟩
  rw [← String.toList_inj, hright]
  simp

private theorem takes_dateBetween_iff_isDateRange :
    Takes .dateBetween right ↔ IsDateRange right := by
  constructor
  · rintro ⟨a, b, s, t, hitems, hs, ht, hordered⟩
    obtain ⟨start, finish, hright, hstart, hfinish, rfl, rfl⟩ := exists_eq_of_listItems hitems
    rw [Timestamp.parse?_trimBlanks] at hs ht
    exact ⟨start, finish, s, t, hright, hstart, hfinish, hs, ht, hordered⟩
  · rintro ⟨start, finish, s, t, rfl, hstart, hfinish, hs, ht, hordered⟩
    refine ⟨_, _, s, t, listItems_range hstart hfinish, ?_, ?_, hordered⟩
    · rw [Timestamp.parse?_trimBlanks, hs]
    · rw [Timestamp.parse?_trimBlanks, ht]

private theorem dateWithin_eq_ok_iff {b : Bool} :
    op.dateWithin left right = .ok b ↔ ∃ p date, op.range right = .ok p ∧
      left.toTimestamp? = some date ∧
        (date.compare p.1 != .lt && date.compare p.2 != .gt) = b := by
  rw [dateWithin_eq, bind_eq_ok_iff]
  constructor
  · rintro ⟨p, hp, h⟩
    obtain ⟨date, hdate, h⟩ := bind_eq_ok_iff.mp h
    exact ⟨p, date, hp, leftDate_eq_ok_iff.mp hdate, Except.ok.inj h⟩
  · rintro ⟨p, date, hp, hdate, rfl⟩
    exact ⟨p, hp, bind_eq_ok_iff.mpr ⟨date, leftDate_eq_ok_iff.mpr hdate, rfl⟩⟩

/-- Looking for a date among others is asking whether it is before or after them. -/
theorem dateWithin_append_eq_ok_iff (hstart : ',' ∉ start.toList) (hfinish : ',' ∉ finish.toList)
    {b : Bool} : op.dateWithin left (start ++ "," ++ finish) = .ok b ↔
      ∃ s t date, Timestamp.parse? start = some s ∧ Timestamp.parse? finish = some t ∧
        s.compare t ≠ .gt ∧ left.toTimestamp? = some date ∧
          (date.compare s != .lt && date.compare t != .gt) = b := by
  simp only [dateWithin_eq_ok_iff, range_eq_ok_iff, listItems_range hstart hfinish]
  constructor
  · rintro ⟨⟨s, t⟩, date, ⟨a, b, hitems, hs, ht, hordered⟩, hdate, hwithin⟩
    cases hitems
    rw [Timestamp.parse?_trimBlanks] at hs ht
    exact ⟨s, t, date, hs, ht, hordered, hdate, hwithin⟩
  · rintro ⟨s, t, date, hs, ht, hordered, hdate, hwithin⟩
    rw [← Timestamp.parse?_trimBlanks] at hs ht
    exact ⟨(s, t), date, ⟨_, _, rfl, hs, ht, hordered⟩, hdate, hwithin⟩

private theorem dateWithin_refuses_iff :
    (∃ name operand fault,
        op.dateWithin left right = .error (.invalidOperand name operand fault)) ↔
      ¬IsDateRange right := by
  rw [← takes_dateBetween_iff_isDateRange]
  constructor
  · rintro ⟨name, operand, fault, h⟩
    exact (h ▸ op.judges_dateWithin left right).of_refusal
  · intro h
    rw [← op.exists_range_iff] at h
    rw [dateWithin_eq]
    cases hrange : op.range right with
    | ok p => exact absurd ⟨p, hrange⟩ h
    | error e =>
      obtain ⟨name, operand, fault, -, rfl⟩ := op.failsBy_range right e hrange
      exact ⟨name, operand, fault, rfl⟩

private theorem dateWithin_mismatches_iff :
    (∃ op' expected found,
        op.dateWithin left right = .error (.typeMismatch op' expected found)) ↔
      IsDateRange right ∧ left.toTimestamp? = none := by
  rw [← takes_dateBetween_iff_isDateRange, ← op.exists_range_iff, dateWithin_eq]
  -- The ends are read first, so the value is looked at only if the text is a range.
  cases hrange : op.range right with
  | error e =>
    obtain ⟨name, operand, fault, -, rfl⟩ := op.failsBy_range right e hrange
    refine iff_of_false ?_ ?_
    · rintro ⟨op', expected, found, h⟩
      cases h
    · rintro ⟨⟨p, h⟩, -⟩
      cases h
  | ok p =>
    cases hleft : op.leftDate left with
    | error e =>
      obtain ⟨op', expected, found, rfl⟩ := op.failsBy_leftDate left e hleft
      refine iff_of_true ⟨op', expected, found, rfl⟩ ⟨⟨p, rfl⟩, ?_⟩
      refine Option.eq_none_iff_forall_ne_some.mpr fun t ht ↦ ?_
      cases hleft.symm.trans (leftDate_eq_ok_iff.mpr ht)
    | ok date =>
      refine iff_of_false ?_ ?_
      · rintro ⟨op', expected, found, h⟩
        cases h
      · rintro ⟨-, h⟩
        cases h.symm.trans (leftDate_eq_ok_iff.mp hleft)

/-- **A date lies in a range exactly if it is neither before its beginning nor after its end**, and
there is a verdict exactly if both comparisons come to one and the beginning is not after the end.
The text is looked at first: whatever the value is, a text is refused exactly if it is no range, and
only a range finds fault with a value that is no date. -/
theorem dateBetween_exact (v : Value) :
    (∀ start finish : String, ',' ∉ start.toList → ',' ∉ finish.toList → ∀ b : Bool,
      (dateBetween.apply v (start ++ "," ++ finish) = .ok b ↔ ∃ before after,
        dateBefore.apply v start = .ok before ∧ dateAfter.apply v finish = .ok after ∧
          dateAfter.apply (.text start) finish ≠ .ok true ∧ b = (!before && !after))) ∧
    ∀ right : String,
      ((∃ name operand fault,
          dateBetween.apply v right = .error (.invalidOperand name operand fault)) ↔
        ¬IsDateRange right) ∧
      ((∃ op expected found,
          dateBetween.apply v right = .error (.typeMismatch op expected found)) ↔
        IsDateRange right ∧ v.toTimestamp? = none) := by
  refine ⟨fun start finish hstart hfinish b ↦ ?_,
    fun right ↦ ⟨dateWithin_refuses_iff, dateWithin_mismatches_iff⟩⟩
  simp only [apply, dateWithin_append_eq_ok_iff hstart hfinish, ne_eq, compareDate_eq_ok_iff]
  constructor
  · rintro ⟨s, t, date, hs, ht, hordered, hdate, rfl⟩
    refine ⟨_, _, ⟨date, s, hdate, hs, rfl⟩, ⟨date, t, hdate, ht, rfl⟩, ?_, rfl⟩
    rintro ⟨s', t', hs', ht', hreversed⟩
    cases hs.symm.trans hs'
    cases ht.symm.trans ht'
    exact hordered (beq_iff_eq.mp hreversed)
  · rintro ⟨before, after, ⟨date, s, hdate, hs, rfl⟩, ⟨date', t, hdate', ht, rfl⟩, hordered, rfl⟩
    cases hdate.symm.trans hdate'
    refine ⟨s, t, date, hs, ht, fun hreversed ↦ hordered ?_, hdate, rfl⟩
    exact ⟨s, t, hs, ht, beq_iff_eq.mpr hreversed⟩

/-- The evening of the last day is in a range of days, and it is not in one whose end is noon. -/
theorem dateBetween_exact_january :
    dateBetween.apply (.text "2024-01-31T18:00:00Z") (" 2024-01-01" ++ "," ++ "2024-01-31") =
        .ok true ∧
      dateBetween.apply (.text "2024-01-31T18:00:00Z")
        (" 2024-01-01" ++ "," ++ "2024-01-31T12:00:00Z") = .ok false := by
  have hexact := (dateBetween_exact (.text "2024-01-31T18:00:00Z")).1
  have hbefore : dateBefore.apply (.text "2024-01-31T18:00:00Z") " 2024-01-01" = .ok false :=
    eq_ok_of_toOption (by decide +kernel)
  constructor
  · refine (hexact _ _ (by decide) (by decide) _).mpr ⟨false, false, hbefore, ?_, ?_, rfl⟩
    · exact eq_ok_of_toOption (by decide +kernel)
    · decide +kernel
  · refine (hexact _ _ (by decide) (by decide) _).mpr ⟨false, true, hbefore, ?_, ?_, rfl⟩
    · exact eq_ok_of_toOption (by decide +kernel)
    · decide +kernel

end Operator

end FlowRouting
