import FlowRouting.Proofs.Condition.Dates
import FlowRouting.Proofs.Run.Visits
import FlowRouting.Proofs.Scope.Paths

/-!
# The clock of a run

The namespace of the clock writes the instant at which the run began, and the comparisons of dates
read what they are given. What is written is read as what it was: the instant to the last digit of
its fraction, be it in a leap second, and the day as a whole day. So a run begins on the day on
which it begins, which is less obvious than it seems, for the two texts have different forms, and
neither may be taken for a form that is tried earlier.
-/

namespace FlowRouting

/-! ## What is written -/

private theorem Scope.resolve_now (s : Scope) :
    s.resolve "now" = .ok (.text s.run.startedAt.toRfc3339) := by
  have hsplit : Reference.split "now" = ⟨"now", ""⟩ := by decide
  rw [resolve_of_isReserved (by rw [hsplit]; rfl), hsplit]
  rfl

private theorem Scope.resolve_today (s : Scope) :
    s.resolve "now.date" = .ok (.text s.run.startedAt.date.toText) := by
  have hsplit : Reference.split "now.date" = ⟨"now", "date"⟩ := by decide
  rw [resolve_of_isReserved (by rw [hsplit]; rfl), hsplit]
  rfl

private theorem Date.comma_notMem_toText {d : Date} (h : d.IsUnsigned) : ',' ∉ d.toText.toList := by
  have hdigits {width n : Nat} : ',' ∉ padDigits width n := fun hmem ↦
    absurd (isDigit_of_mem_padDigits hmem) (by decide)
  rw [toText, String.toList_ofList, ← List.append_nil d.write, h.write_append]
  simp [hdigits]

/-! ## What is read -/

private theorem Timestamp.compare_ofDate (i : Instant) :
    compare ⟨i, false⟩ (ofDate i.date) = .eq ∧ compare (ofDate i.date) ⟨i, false⟩ = .eq := by
  have hself : i.date.compare i.date = .eq := Std.ReflCmp.compare_self
  exact ⟨hself, hself⟩

private theorem Timestamp.dateBetween_today {i : Instant} (h : i.date.IsUnsigned) :
    Operator.dateBetween.apply (.text i.toRfc3339) (i.date.toText ++ "," ++ i.date.toText) =
      .ok true := by
  have hnow := parse?_toRfc3339 h
  have htoday := parse?_toText h
  have hcomma := Date.comma_notMem_toText h
  have hself : (ofDate i.date).compare (ofDate i.date) = .eq := Std.ReflCmp.compare_self
  rw [Operator.apply, Operator.dateWithin_append_eq_ok_iff hcomma hcomma]
  refine ⟨_, _, _, htoday, htoday, ?_, hnow, by rw [(compare_ofDate i).1]; rfl⟩
  rw [hself]
  decide

/-- **The clock of a run can be read.** In whatever year without a sign a run begins, the text of
its instant is read as that instant and the text of its day as that whole day. The two are equal,
either way round, and the instant lies between its day and its day. -/
theorem Scope.clock_readable (s : Scope) (h : s.run.startedAt.date.IsUnsigned) :
    ∃ now today : String, s.resolve "now" = .ok (.text now) ∧
      s.resolve "now.date" = .ok (.text today) ∧
      Timestamp.parse? now = some ⟨s.run.startedAt, false⟩ ∧
      Timestamp.parse? today = some (.ofDate s.run.startedAt.date) ∧
      Operator.dateEquals.apply (.text now) today = .ok true ∧
      Operator.dateEquals.apply (.text today) now = .ok true ∧
      Operator.dateBetween.apply (.text now) (today ++ "," ++ today) = .ok true := by
  have hnow := Timestamp.parse?_toRfc3339 h
  have htoday := Timestamp.parse?_toText h
  obtain ⟨hforth, hback⟩ := Timestamp.compare_ofDate s.run.startedAt
  refine ⟨_, _, s.resolve_now, s.resolve_today, hnow, htoday, ?_, ?_,
    Timestamp.dateBetween_today h⟩
  · rw [Operator.apply, Operator.compareDate_eq_ok_iff]
    exact ⟨_, _, hnow, htoday, by rw [hforth]; rfl⟩
  · rw [Operator.apply, Operator.compareDate_eq_ok_iff]
    exact ⟨_, _, htoday, hnow, by rw [hback]; rfl⟩

/-- What is seen in a run that began in a leap second, at the end of a month and of a year. -/
def newYearScope : Scope where
  nodes := []
  outputs := []
  run := { exampleContext with
    startedAt := ⟨⟨2016, 12, 31, by decide⟩, ⟨23, 59, 60, 500000000, by decide⟩⟩ }

/-- The run that began in a leap second began on the last day of its year. -/
theorem Scope.clock_readable_newYear :
    newYearScope.resolve "now" = .ok (.text "2016-12-31T23:59:60.500+00:00") ∧
      newYearScope.resolve "now.date" = .ok (.text "2016-12-31") ∧
      Timestamp.parse? "2016-12-31T23:59:60.500+00:00" =
        some ⟨newYearScope.run.startedAt, false⟩ ∧
      Operator.dateBetween.apply (.text "2016-12-31T23:59:60.500+00:00")
        ("2016-12-31" ++ "," ++ "2016-12-31") = .ok true := by
  have hwritten : newYearScope.run.startedAt.toRfc3339 = "2016-12-31T23:59:60.500+00:00" ∧
      newYearScope.run.startedAt.date.toText = "2016-12-31" := by decide +kernel
  obtain ⟨now, today, hnow, htoday, hparse, -, -, -, hbetween⟩ :=
    newYearScope.clock_readable (by decide)
  have hnow' := hnow.symm.trans newYearScope.resolve_now
  have htoday' := htoday.symm.trans newYearScope.resolve_today
  rw [hwritten.1] at hnow'
  rw [hwritten.2] at htoday'
  cases hnow'
  cases htoday'
  exact ⟨hnow, htoday, hparse, hbetween⟩

/-! ## In a clause -/

/-- A clause that asks whether the run began on the day on which it began. -/
def todayClause : Clause :=
  ⟨"today", "now", .dateBetween, some "\x7b\x7bnow.date\x7d\x7d,\x7b\x7bnow.date\x7d\x7d"⟩

private theorem Scope.interpolate_today (s : Scope) :
    Template.interpolate s.resolve "\x7b\x7bnow.date\x7d\x7d,\x7b\x7bnow.date\x7d\x7d" =
      .ok (s.run.startedAt.date.toText ++ "," ++ s.run.startedAt.date.toText) := by
  have hparts : Template.parts "\x7b\x7bnow.date\x7d\x7d,\x7b\x7bnow.date\x7d\x7d" =
      [.span "now.date".toList, .char ',', .span "now.date".toList] := by decide
  have hreference : String.ofList (Text.trim "now.date".toList) = "now.date" := by decide
  have hspan : Template.Part.render s.resolve (.span "now.date".toList) =
      .ok s.run.startedAt.date.toText.toList := by
    rw [Template.Part.render, Template.Part.reference?, hreference]
    dsimp only
    rw [s.resolve_today]
    rfl
  have hcomma : Template.Part.render s.resolve (.char ',') = .ok [','] := rfl
  have hrendered := mapM_eq_ok_iff.mpr (.cons hspan (.cons hcomma (.cons hspan .nil)))
  rw [Template.interpolate, hparts, hrendered]
  refine congrArg Except.ok ?_
  rw [← String.toList_inj]
  simp

/-- **Every run begins on its day**, as far as a clause can tell. -/
theorem Scope.evaluate_todayClause (s : Scope) (h : s.run.startedAt.date.IsUnsigned) :
    todayClause.evaluate s.resolve = .ok true := by
  have hoperand : Template.resolveOperand s.resolve "now" = s.resolve "now" := rfl
  refine bind_eq_ok_iff.mpr ⟨_, hoperand.trans s.resolve_now, ?_⟩
  simp only [todayClause, Operator.requiresValue, Bool.not_true, Bool.false_eq_true, if_false]
  exact bind_eq_ok_iff.mpr ⟨_, s.interpolate_today, Timestamp.dateBetween_today h⟩

end FlowRouting
