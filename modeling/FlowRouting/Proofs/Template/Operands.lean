import FlowRouting.Proofs.Fallible
import FlowRouting.Proofs.Text.Trimming
import FlowRouting.Template

/-!
# What operands and templates read

An operand is trimmed before it is looked at, a template is not. Blanks are no braces, so trimming
does not change which spans a text has, nor whether it has opening braces at all. Rendering a
template and resolving an operand fail only by a reference that fails, and this reference is one of
those that can be read off the text.

Between double braces stands every reference in which nothing closes the span before its end; a
template that is such a span is rendered as the text of what the reference resolves to.
-/

namespace FlowRouting

namespace Template

theorem hasOpening_trimBlanks (s : String) : hasOpening s.trimBlanks = hasOpening s := by
  have hbrace : isBlank '{' = false := by decide
  have hbraces : ['{', '{'] <:+: Text.trim s.toList ↔ ['{', '{'] <:+: s.toList :=
    Text.infix_trim_iff (by simp) (by simp [hbrace])
  rw [Bool.eq_iff_iff, hasOpening, hasOpening, String.hasPart, String.hasPart, Text.hasPart_iff,
    Text.hasPart_iff, String.trimBlanks, String.toList_ofList, String.toList_ofList]
  exact hbraces

theorem hasOpening_append {s : String} (h : '{' ∉ s.toList) (t : String) :
    hasOpening (s ++ t) = hasOpening t := by
  have hbraces : ['{', '{'] <:+: s.toList ++ t.toList ↔ ['{', '{'] <:+: t.toList :=
    Text.cons_infix_append_iff h
  rw [Bool.eq_iff_iff, hasOpening, hasOpening, String.hasPart, String.hasPart, Text.hasPart_iff,
    Text.hasPart_iff, String.toList_append]
  exact hbraces

/-! ## The spans of a trimmed text -/

private theorem scan_blanks_append {a : List Char} (ha : ∀ c ∈ a, isBlank c = true)
    (cs : List Char) : scan none (a ++ cs) = a.map .char ++ scan none cs := by
  induction a with
  | nil => rfl
  | cons c a ih =>
    have hc : c ≠ '{' := by
      rintro rfl
      exact absurd (ha '{' List.mem_cons_self) (by decide)
    rw [List.cons_append, scan, ih fun c hc ↦ ha c (List.mem_cons_of_mem _ hc)]
    · rfl
    · intro cs' h
      exact absurd h hc

private theorem scan_open_blanks {b : List Char} (hb : ∀ c ∈ b, isBlank c = true)
    (inner : List Char) : scan (some inner) b = ('{' :: '{' :: inner ++ b).map .char := by
  induction b generalizing inner with
  | nil => rw [scan, List.append_nil]
  | cons c b ih =>
    have hc : c ≠ '}' := by
      rintro rfl
      exact absurd (hb '}' List.mem_cons_self) (by decide)
    rw [scan, ih fun c hc ↦ hb c (List.mem_cons_of_mem _ hc)]
    · simp
    · intro cs' h
      exact absurd h hc

private theorem scan_append_blanks {b : List Char} (hb : ∀ c ∈ b, isBlank c = true)
    (state : Option (List Char)) (cs : List Char) :
    scan state (cs ++ b) = scan state cs ++ b.map .char := by
  -- A character that does not open or close a span in `cs` does not do so with blanks behind it.
  have hnext : ∀ (brace c : Char) (cs : List Char), isBlank brace = false →
      (∀ cs', c = brace → cs = brace :: cs' → False) →
      ∀ cs', c = brace → cs ++ b = brace :: cs' → False := by
    intro brace c cs hbrace h cs' hc hcs
    cases cs with
    | nil =>
      rw [List.nil_append] at hcs
      have hblank := hb brace (hcs ▸ List.mem_cons_self)
      rw [hbrace] at hblank
      cases hblank
    | cons d cs =>
      rw [List.cons_append] at hcs
      exact h cs hc (by rw [(List.cons.inj hcs).1])
  induction state, cs using scan.induct with
  | case1 =>
    have hblanks := scan_blanks_append hb []
    rwa [List.append_nil, scan, List.append_nil] at hblanks
  | case2 inner => rw [List.nil_append, scan_open_blanks hb, scan, List.map_append]
  | case3 cs ih => rw [List.cons_append, List.cons_append, scan, ih, scan]
  | case4 inner cs ih => rw [List.cons_append, List.cons_append, scan, ih, scan, List.cons_append]
  | case5 c cs h ih =>
    rw [List.cons_append, scan, ih, scan, List.cons_append]
    · exact h
    · exact hnext '{' c cs (by decide) h
  | case6 inner c cs h ih =>
    rw [List.cons_append, scan, ih, scan]
    · exact h
    · exact hnext '}' c cs (by decide) h

/-- A text has the parts that it has without the blanks around it, between these blanks. -/
theorem exists_parts_eq (s : String) :
    ∃ a b, (∀ c ∈ a, isBlank c = true) ∧ (∀ c ∈ b, isBlank c = true) ∧
      s = String.ofList a ++ s.trimBlanks ++ String.ofList b ∧
      parts s = a.map .char ++ (parts s.trimBlanks ++ b.map .char) := by
  obtain ⟨a, b, hs, ha, hb⟩ := Text.exists_blanks_trim s.toList
  refine ⟨a, b, ha, hb, ?_, ?_⟩
  · rw [← String.toList_inj, String.trimBlanks]
    simpa using hs
  · rw [parts, parts, String.trimBlanks, String.toList_ofList]
    conv_lhs => rw [hs]
    rw [scan_blanks_append ha, scan_append_blanks hb]

theorem filterMap_reference?_chars (cs : List Char) :
    (cs.map Part.char).filterMap Part.reference? = [] := by
  rw [List.filterMap_map]
  exact List.filterMap_eq_nil_iff.mpr fun _ _ ↦ rfl

@[simp] theorem references_trimBlanks (s : String) : references s.trimBlanks = references s := by
  obtain ⟨a, b, -, -, -, hparts⟩ := exists_parts_eq s
  rw [references, references, hparts, List.filterMap_append, List.filterMap_append,
    filterMap_reference?_chars, filterMap_reference?_chars, List.nil_append, List.append_nil]

/-! ## A single span -/

/-- A text can stand between double braces: it neither has a pair of closing braces in it nor ends
with a closing one. -/
structure IsInner (cs : List Char) : Prop where
  closing : ¬['}', '}'] <:+: cs
  last : cs.getLast? ≠ some '}'

theorem IsInner.append {a b : List Char} (ha : '}' ∉ a) (hb : IsInner b) : IsInner (a ++ b) where
  closing := by
    rw [Text.cons_infix_append_iff ha]
    exact hb.closing
  last := by
    intro hlast
    rw [List.getLast?_append, Option.or_eq_some_iff] at hlast
    rcases hlast with hlast | ⟨-, hlast⟩
    · exact hb.last hlast
    · exact ha (List.mem_of_getLast? hlast)

/-- A span goes on up to the closing braces behind a text that can stand in it. -/
theorem scan_inner_append {inner : List Char} (h : IsInner inner) (acc rest : List Char) :
    scan (some acc) (inner ++ '}' :: '}' :: rest) = .span (acc ++ inner) :: scan none rest := by
  induction inner generalizing acc with
  | nil => rw [List.nil_append, scan, List.append_nil]
  | cons c inner ih =>
    have htail : IsInner inner :=
      { closing := fun hclosing ↦ h.closing (List.infix_cons_iff.mpr (.inr hclosing))
        last := by
          intro hlast
          cases inner with
          | nil => cases hlast
          | cons d inner => exact h.last hlast }
    rw [List.cons_append, scan, ih htail, List.append_assoc, List.singleton_append]
    -- A brace here and one behind it would close the span.
    intro cs hc hcs
    subst hc
    cases inner with
    | nil => exact h.last rfl
    | cons d inner =>
      obtain ⟨rfl, -⟩ := List.cons.inj hcs
      exact h.closing ⟨[], inner, rfl⟩

variable {vars : Variables}

theorem interpolate_eq_map (vars : Variables) (template : String) :
    interpolate vars template =
      (((parts template).mapM (Part.render vars)).map List.flatten).map String.ofList := by
  rw [interpolate]
  cases (parts template).mapM (Part.render vars) <;> rfl

theorem mapM_render_chars (vars : Variables) (cs : List Char) :
    (cs.map Part.char).mapM (Part.render vars) = .ok (cs.map fun c ↦ [c]) := by
  induction cs with
  | nil => rfl
  | cons c cs ih =>
    rw [List.map_cons, List.mapM_cons, ih]
    rfl

theorem flatten_chars (cs : List Char) : (cs.map fun c ↦ [c]).flatten = cs := by
  rw [← List.flatMap_def]
  simp

theorem scan_span {inner : List Char} (h : IsInner inner) :
    scan none (Part.span inner).source = [.span inner] := by
  have hsource : (Part.span inner).source = '{' :: '{' :: (inner ++ ['}', '}']) := rfl
  rw [hsource, scan, scan_inner_append h, List.nil_append, scan]

theorem interpolate_of_parts {template : String} {inner : List Char}
    (h : parts template = [.span inner]) (vars : Variables) :
    interpolate vars template = (vars (String.ofList (Text.trim inner))).map Value.toText := by
  have hrender : Part.render vars (.span inner) =
      (vars (String.ofList (Text.trim inner))).map fun v ↦ v.toText.toList := rfl
  rw [interpolate_eq_map, h, List.mapM_cons, List.mapM_nil, hrender]
  cases vars (String.ofList (Text.trim inner)) with
  | error e => rfl
  | ok v => simp [Except.map, bind, Except.bind, pure, Except.pure]

theorem interpolate_span {reference : String} (h : IsInner reference.toList) (vars : Variables) :
    interpolate vars ("\x7b\x7b" ++ reference ++ "\x7d\x7d") =
      (vars reference.trimBlanks).map Value.toText := by
  have htext : ("\x7b\x7b" ++ reference ++ "\x7d\x7d").toList =
      (Part.span reference.toList).source := by
    simp [Part.source]
  have hparts : parts ("\x7b\x7b" ++ reference ++ "\x7d\x7d") = [.span reference.toList] := by
    rw [parts, htext, scan_span h]
  rw [interpolate_of_parts hparts, ← String.trimBlanks]

/-! ## Failing references -/

/-- Rendering fails only by one of the references. -/
theorem exists_reference_of_interpolate_error {template : String} {e : EvalError}
    (h : interpolate vars template = .error e) :
    ∃ reference ∈ references template, vars reference = .error e := by
  rw [interpolate] at h
  rcases bind_eq_error_iff.mp h with h | ⟨_, _, h⟩
  · obtain ⟨part, hpart, hrender⟩ := exists_of_mapM_eq_error h
    rw [Part.render] at hrender
    cases hreference : part.reference? with
    | none =>
      rw [hreference] at hrender
      cases hrender
    | some reference =>
      rw [hreference] at hrender
      exact ⟨reference, List.mem_filterMap.mpr ⟨part, hpart, hreference⟩,
        map_eq_error_iff.mp hrender⟩
  · cases h

/-! ## Operands

An operand without opening braces is a reference, one that is a single span stands for its only
reference, and every other one for its text. Which of these it is does not depend on what the
references resolve to. -/

section Operands

variable {field : String}

theorem resolveOperand_of_bare (h : hasOpening field = false) (vars : Variables) :
    resolveOperand vars field = vars field.trimBlanks := by
  rw [resolveOperand, hasOpening_trimBlanks, h]
  rfl

theorem resolveOperand_of_parts_eq {inner : List Char} (h : hasOpening field = true)
    (hparts : parts field.trimBlanks = [.span inner]) (vars : Variables) :
    resolveOperand vars field = vars (String.ofList (Text.trim inner)) := by
  rw [resolveOperand, hasOpening_trimBlanks, h, hparts]
  rfl

theorem resolveOperand_of_parts_ne (h : hasOpening field = true)
    (hparts : ∀ inner, parts field.trimBlanks ≠ [.span inner]) (vars : Variables) :
    resolveOperand vars field = (interpolate vars field).map .text := by
  rw [resolveOperand, hasOpening_trimBlanks, h]
  -- By `hparts` only the last case of the match is left.
  simp only [Bool.not_true, Bool.false_eq_true, if_false]

theorem resolveOperand_cases (h : hasOpening field = true) :
    (∃ reference, references field = [reference] ∧
        ∀ vars, resolveOperand vars field = vars reference) ∨
      ∀ vars, resolveOperand vars field = (interpolate vars field).map .text := by
  by_cases hparts : ∀ inner, parts field.trimBlanks ≠ [.span inner]
  · exact Or.inr (resolveOperand_of_parts_ne h hparts)
  · obtain ⟨inner, hinner⟩ := not_forall_not.mp hparts
    refine Or.inl ⟨_, ?_, resolveOperand_of_parts_eq h hinner⟩
    rw [← references_trimBlanks, references, hinner]
    simp [Part.reference?]

/-- The references that resolving an operand may look up: one without opening braces is a reference
itself, even if it is blank. -/
def operandLookups (field : String) : List String :=
  if hasOpening field.trimBlanks then references field.trimBlanks else [field.trimBlanks]

theorem operandLookups_of_hasOpening (h : hasOpening field = true) :
    operandLookups field = references field := by
  rw [operandLookups, hasOpening_trimBlanks, if_pos h, references_trimBlanks]

theorem operandLookups_of_bare (h : hasOpening field = false) :
    operandLookups field = [field.trimBlanks] := by
  rw [operandLookups, hasOpening_trimBlanks, h]
  rfl

/-- Resolving an operand fails only by one of the references that it may look up. -/
theorem exists_lookup_of_resolveOperand_error {e : EvalError}
    (h : resolveOperand vars field = .error e) :
    ∃ reference ∈ operandLookups field, vars reference = .error e := by
  cases hopening : hasOpening field with
  | false =>
    rw [resolveOperand_of_bare hopening] at h
    rw [operandLookups_of_bare hopening]
    exact ⟨_, List.mem_singleton_self _, h⟩
  | true =>
    rw [operandLookups_of_hasOpening hopening]
    rcases resolveOperand_cases hopening with ⟨reference, hreference, hresolve⟩ | hresolve
    · rw [hresolve] at h
      exact ⟨reference, hreference ▸ List.mem_singleton_self _, h⟩
    · rw [hresolve] at h
      exact exists_reference_of_interpolate_error (map_eq_error_iff.mp h)

end Operands

end Template

end FlowRouting
