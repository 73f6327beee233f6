import FlowRouting.Condition.Comparison
import FlowRouting.Proofs.Number.Numerals

/-!
# Loose equality

A value equals a text if both are numbers and these are equal, or else if its text is the other
one. A value says no more here than its text does: a finite number is read from its text, and
infinities and not-a-number, of which no text is read, equal no text that is read as a number. So
loose equality of values is a relation on their texts. Two texts are in it if they are the same or
the same number is read from both, which makes it an equivalence.
-/

namespace FlowRouting

open Text

/-! ## Numbers -/

private theorem Number.equals_iff_of_parse? {a b : String} {x y : Number} (hx : parse? a = some x)
    (hy : parse? b = some y) : x.equals y = true ↔ x = y := by
  obtain ⟨x, rfl⟩ := exists_finite_of_parse? hx
  obtain ⟨y, rfl⟩ := exists_finite_of_parse? hy
  rw [equals, compare?, beq_iff_eq, Option.some.injEq, Std.compare_eq_iff_eq, finite.injEq]
  exact ⟨Finite.ext_units, fun h ↦ congrArg _ h⟩

/-! ## Texts that are no numbers -/

private theorem Text.trim_cons {c : Char} (hc : isBlank c = false) (cs : List Char) :
    trim (c :: cs) = c :: trimRight cs :=
  trim_append_cons hc [] cs

private theorem Number.parse?_cons_eq_none {c : Char} (hc : c = '[' ∨ c = '{') (cs : List Char) :
    parse? (String.ofList (c :: cs)) = none := by
  have hscan : ∀ rest, Decimal.scan? (c :: rest) = none := by
    rcases hc with rfl | rfl <;> exact fun _ ↦ rfl
  have hblank : isBlank c = false := by
    rcases hc with rfl | rfl <;> rfl
  rw [parse?, String.toList_ofList, trim_cons hblank, hscan]

private theorem Value.parse?_compact_array (items : List Value) :
    Number.parse? (Value.array items).toJson.compact = none := by
  rw [toJson, Json.compact]
  cases itemsToJson items with
  | nil => exact Number.parse?_cons_eq_none (.inl rfl) _
  | cons item items => exact Number.parse?_cons_eq_none (.inl rfl) _

private theorem Value.parse?_compact_object (fields : List (String × Value)) :
    Number.parse? (Value.object fields).toJson.compact = none := by
  rw [toJson, Json.compact]
  cases fieldsToJson fields with
  | nil => exact Number.parse?_cons_eq_none (.inr rfl) _
  | cons field fields => exact Number.parse?_cons_eq_none (.inr rfl) _

namespace Value

/-- Two texts are the same, or the same number is read from both. -/
def TextsAgree (a b : String) : Prop :=
  a = b ∨ ∃ x, Number.parse? a = some x ∧ Number.parse? b = some x

private theorem equivalence_textsAgree : Equivalence TextsAgree where
  refl a := .inl rfl
  symm := by
    rintro a b (rfl | ⟨x, ha, hb⟩)
    · exact .inl rfl
    · exact .inr ⟨x, hb, ha⟩
  trans := by
    rintro a b c (rfl | ⟨x, ha, hb⟩) (rfl | ⟨y, hb', hc⟩)
    · exact .inl rfl
    · exact .inr ⟨y, hb', hc⟩
    · exact .inr ⟨x, ha, hb⟩
    · rw [hb] at hb'
      cases hb'
      exact .inr ⟨x, ha, hc⟩

private theorem looselyEquals_text_iff {a b : String} :
    (text a).looselyEquals b = true ↔ TextsAgree a b := by
  -- Unless numbers are read from both, texts agree only if they are the same.
  have hnone : Number.parse? a = none ∨ Number.parse? b = none →
      (a = b ↔ TextsAgree a b) := by
    intro h
    refine (or_iff_left ?_).symm
    rintro ⟨x, ha, hb⟩
    rcases h with h | h
    · rw [h] at ha
      cases ha
    · rw [h] at hb
      cases hb
  rw [looselyEquals, toNumber?]
  cases ha : Number.parse? a with
  | none => exact beq_iff_eq.trans (hnone (.inl ha))
  | some x =>
    cases hb : Number.parse? b with
    | none => exact beq_iff_eq.trans (hnone (.inr hb))
    | some y =>
      refine (Number.equals_iff_of_parse? ha hb).trans ⟨?_, ?_⟩
      · rintro rfl
        exact .inr ⟨x, ha, hb⟩
      · rintro (rfl | ⟨z, ha', hb'⟩)
        · rw [ha] at hb
          exact Option.some.inj hb
        · rw [ha] at ha'
          rw [hb] at hb'
          exact Option.some.inj (ha'.trans hb'.symm)

/-- A value that is no finite number and whose text is none equals a text exactly if that is its
own. -/
theorem looselyEquals_eq_beq {v : Value} (s : String) (htext : Number.parse? v.toText = none)
    (hnumber : ∀ x y, v.toNumber? = some x → x.equals (.finite y) = false) :
    v.looselyEquals s = (v.toText == s) := by
  rw [looselyEquals]
  cases hx : v.toNumber? with
  | none => rfl
  | some x =>
    cases hs : Number.parse? s with
    | none => rfl
    | some y =>
      obtain ⟨y, rfl⟩ := Number.exists_finite_of_parse? hs
      have hne : v.toText ≠ s := by
        rintro rfl
        rw [htext] at hs
        cases hs
      rw [beq_false_of_ne hne]
      exact hnumber x y hx

/-- **A value equals a text as its own text does.** -/
theorem looselyEquals_toText (v : Value) (s : String) :
    v.looselyEquals s = (text v.toText).looselyEquals s := by
  -- For the values that are neither texts nor finite numbers.
  have hother : Number.parse? v.toText = none →
      (∀ x y, v.toNumber? = some x → x.equals (.finite y) = false) →
      v.looselyEquals s = (text v.toText).looselyEquals s := by
    intro htext hnumber
    rw [looselyEquals_eq_beq s htext hnumber, looselyEquals_eq_beq (v := text v.toText) s htext]
    · rfl
    · intro x y hx
      rw [toNumber?, htext] at hx
      cases hx
  cases v with
  | null => exact hother (by decide) fun _ _ h ↦ nomatch h
  | bool b => cases b <;> exact hother (by decide) fun _ _ h ↦ nomatch h
  | text t => rfl
  | array items => exact hother (parse?_compact_array items) fun _ _ h ↦ nomatch h
  | object fields => exact hother (parse?_compact_object fields) fun _ _ h ↦ nomatch h
  | number n =>
    cases n with
    | finite x =>
      rw [looselyEquals, looselyEquals, toNumber?, toNumber?, toText, Number.parse?_toText_finite]
      rfl
    | nan => exact hother (by decide) fun _ _ h ↦ Option.some.inj h ▸ rfl
    | negInfinity => exact hother (by decide) fun _ _ h ↦ Option.some.inj h ▸ rfl
    | posInfinity => exact hother (by decide) fun _ _ h ↦ Option.some.inj h ▸ rfl

end Value

/-- **Loose equality is an equivalence of values**: the operator sees no more of a value than its
text, and accepts it beside another text if the two are the same or are read as the same number. -/
theorem Operator.equals_equivalence :
    Equivalence (fun u v : Value ↦ equals.apply u v.toText = .ok true) ∧
      (∀ (u : Value) (right : String),
        equals.apply u right = equals.apply (.text u.toText) right) ∧
      ∀ (u : Value) (right : String),
        equals.apply u right = .ok true ↔ Value.TextsAgree u.toText right := by
  have htext : ∀ (u : Value) (right : String),
      equals.apply u right = equals.apply (.text u.toText) right := fun u right ↦
    congrArg Except.ok (u.looselyEquals_toText right)
  have hagree : ∀ (u : Value) (right : String),
      equals.apply u right = .ok true ↔ Value.TextsAgree u.toText right := by
    intro u right
    rw [htext, apply, Except.ok.injEq]
    exact Value.looselyEquals_text_iff
  refine ⟨?_, htext, hagree⟩
  simp only [hagree]
  exact InvImage.equivalence Value.TextsAgree Value.toText Value.equivalence_textsAgree

/-- A numeral may be written in several ways. -/
example : (Value.text " 1.50").looselyEquals "15e-1" = true := by decide +kernel

end FlowRouting
