import FlowRouting.Proofs.Template.Spans

/-!
# Operands and templates agree

An operand that is exactly one span stands for the value of its reference, which keeps its type;
every other operand with opening braces stands for its text. So an operand and the template of the
same text come from the same references and fail alike, and where they do not fail, the text of the
value is what the template is rendered as.

An operand is trimmed before it is looked at, a template is not. As blanks are no braces, the parts
of a text are those of the trimmed text with the blanks around them, and rendering leaves these
blanks where they are. Whether a text is one span is said by its cut: the first span begins where
the text does and ends where the text does.
-/

namespace FlowRouting

namespace Template

/-! ## A text that is one span -/

theorem IsCut.exists_begins {cs last : List Char} {p : Piece} {pieces : List Piece}
    (h : IsCut cs ⟨p :: pieces, last⟩) : ∃ rest, Begins cs p rest := by
  generalize hcut : Cut.mk (p :: pieces) last = cut at h
  cases h with
  | whole _ => cases hcut
  | piece hbegins _ =>
    cases hcut
    exact ⟨_, hbegins⟩

/-- A text is exactly one span: nothing comes before its first span, and nothing behind it. -/
def IsSpan (s inner : String) : Prop :=
  IsCut s.toList ⟨[⟨[], inner.toList⟩], []⟩

theorem Cut.parts_eq_singleton_iff {cut : Cut} {inner : List Char} :
    cut.parts = [.span inner] ↔ cut = ⟨[⟨[], inner⟩], []⟩ := by
  constructor
  · intro h
    obtain ⟨pieces, last⟩ := cut
    cases pieces with
    | nil => cases last <;> cases h
    | cons p pieces =>
      obtain ⟨before, inner'⟩ := p
      cases before with
      | cons c before => cases h
      | nil =>
        obtain ⟨hspan, hrest⟩ := List.cons.inj h
        cases hspan
        -- Every further piece would have a span of its own.
        obtain ⟨hpieces, hlast⟩ := List.append_eq_nil_iff.mp hrest
        obtain rfl : last = [] := List.map_eq_nil_iff.mp hlast
        cases pieces with
        | nil => rfl
        | cons p pieces => simp at hpieces
  · rintro rfl
    rfl

private theorem parts_eq_singleton_iff {s inner : String} :
    parts s = [.span inner.toList] ↔ IsSpan s inner := by
  obtain ⟨cut, hcut⟩ := exists_isCut s.toList
  rw [parts, hcut.scan_eq, Cut.parts_eq_singleton_iff]
  constructor
  · rintro rfl
    exact hcut
  · exact hcut.unique

/-- A text is one span if it is a text between braces that does not close the span before. -/
theorem isSpan_iff {s inner : String} :
    IsSpan s inner ↔ s = "\x7b\x7b" ++ inner ++ "\x7d\x7d" ∧ IsInner inner.toList := by
  have htext : s = "\x7b\x7b" ++ inner ++ "\x7d\x7d" ↔
      s.toList = (Part.span inner.toList).source := by
    rw [← String.toList_inj]
    simp [Part.source]
  rw [htext]
  constructor
  · intro h
    have hsource : Cut.fill ⟨[⟨[], inner.toList⟩], []⟩ [(Part.span inner.toList).source] =
        (Part.span inner.toList).source := by
      simp [Cut.fill]
    obtain ⟨rest, hbegins⟩ := h.exists_begins
    exact ⟨h.fill_sources.symm.trans hsource, hbegins.isInner⟩
  · rintro ⟨hs, hinner⟩
    rw [← parts_eq_singleton_iff, parts, hs, scan_span hinner]

/-! ## Operands -/

section Operands

variable {field : String} (vars : Variables)

private theorem exists_blanks_interpolate (field : String) :
    ∃ front back : String, (∀ c ∈ front.toList, isBlank c = true) ∧
      (∀ c ∈ back.toList, isBlank c = true) ∧ field = front ++ field.trimBlanks ++ back ∧
      ∀ vars, interpolate vars field =
        (interpolate vars field.trimBlanks).map fun text ↦ front ++ text ++ back := by
  obtain ⟨a, b, ha, hb, hfield, hparts⟩ := exists_parts_eq field
  refine ⟨String.ofList a, String.ofList b, by simpa using ha, by simpa using hb, hfield,
    fun vars ↦ ?_⟩
  rw [interpolate_eq_map, interpolate_eq_map, hparts, List.mapM_append, List.mapM_append,
    mapM_render_chars, mapM_render_chars]
  cases (parts field.trimBlanks).mapM (Part.render vars) with
  | error e => rfl
  | ok texts =>
    refine congrArg Except.ok ?_
    rw [← String.toList_inj]
    simp [flatten_chars]

variable (hopening : hasOpening field = true)

include hopening

private theorem resolveOperand_of_isSpan {inner : String} (h : IsSpan field.trimBlanks inner) :
    resolveOperand vars field = vars inner.trimBlanks := by
  rw [resolveOperand_of_parts_eq hopening (parts_eq_singleton_iff.mpr h), String.trimBlanks]

private theorem resolveOperand_of_not_isSpan (h : ∀ inner, ¬IsSpan field.trimBlanks inner) :
    resolveOperand vars field = (interpolate vars field).map .text := by
  refine resolveOperand_of_parts_ne hopening (fun inner hparts ↦ ?_) vars
  refine h (String.ofList inner) (parts_eq_singleton_iff.mp ?_)
  rw [hparts, String.toList_ofList]

end Operands

private theorem interpolate_of_isSpan {s inner : String} (h : IsSpan s inner) (vars : Variables) :
    interpolate vars s = (vars inner.trimBlanks).map Value.toText := by
  rw [interpolate_of_parts (parts_eq_singleton_iff.mpr h), ← String.trimBlanks]

/-- **Operands and templates agree.** An operand that has opening braces fails exactly if the
template of the same text does, trimmed or not, and with the same error. If it is exactly one span
without the blanks around it, then it is the value of the reference, and the trimmed template is
rendered as the text of this value. Otherwise it is the text that the template is rendered as, in
which the blanks around it are kept. -/
theorem resolveOperand_agrees {field : String} (h : ['{', '{'] <:+: field.toList)
    (vars : Variables) :
    (∀ e, resolveOperand vars field = .error e ↔ interpolate vars field = .error e) ∧
      (∀ e, resolveOperand vars field = .error e ↔
        interpolate vars field.trimBlanks = .error e) ∧
      (∀ inner, IsSpan field.trimBlanks inner →
        resolveOperand vars field = vars inner.trimBlanks ∧
          interpolate vars field.trimBlanks = (resolveOperand vars field).map Value.toText) ∧
      ((∀ inner, ¬IsSpan field.trimBlanks inner) →
        resolveOperand vars field = (interpolate vars field).map .text) ∧
      ∃ front back : String, (∀ c ∈ front.toList ++ back.toList, isBlank c = true) ∧
        field = front ++ field.trimBlanks ++ back ∧
        interpolate vars field =
          (interpolate vars field.trimBlanks).map fun text ↦ front ++ text ++ back := by
  have hopening : hasOpening field = true := Text.hasPart_iff.mpr h
  obtain ⟨front, back, hfront, hback, hfield, hkept⟩ := exists_blanks_interpolate field
  have htrimmed : ∀ e, interpolate vars field = .error e ↔
      interpolate vars field.trimBlanks = .error e := by
    intro e
    rw [hkept, map_eq_error_iff]
  have hspan : ∀ inner, IsSpan field.trimBlanks inner →
      resolveOperand vars field = vars inner.trimBlanks ∧
        interpolate vars field.trimBlanks = (resolveOperand vars field).map Value.toText := by
    intro inner hinner
    have hresolve := resolveOperand_of_isSpan vars hopening hinner
    exact ⟨hresolve, by rw [interpolate_of_isSpan hinner, hresolve]⟩
  have hother : (∀ inner, ¬IsSpan field.trimBlanks inner) →
      resolveOperand vars field = (interpolate vars field).map .text :=
    resolveOperand_of_not_isSpan vars hopening
  have herror : ∀ e, resolveOperand vars field = .error e ↔
      interpolate vars field.trimBlanks = .error e := by
    intro e
    by_cases hone : ∃ inner, IsSpan field.trimBlanks inner
    · obtain ⟨inner, hinner⟩ := hone
      rw [(hspan inner hinner).2, map_eq_error_iff]
    · rw [hother (not_exists.mp hone), map_eq_error_iff, htrimmed]
  exact ⟨fun e ↦ (herror e).trans (htrimmed e).symm, herror, hspan, hother, front, back,
    List.forall_mem_append.mpr ⟨hfront, hback⟩, hfield, hkept vars⟩

def taggedVariables : Variables
  | "tags" => .ok (.array [.text "a", .bool true])
  | "name" => .ok (.text "Alice")
  | reference => .error (.unknownVariable reference)

/-- A span with blanks around it and in it keeps the list; two spans become a text, with the blanks
around them; and what a brace too many makes of a reference is unknown to both. -/
theorem resolveOperand_agrees_tagged :
    resolveOperand taggedVariables " \x7b\x7b tags \x7d\x7d\n" =
        .ok (.array [.text "a", .bool true]) ∧
      interpolate taggedVariables "\x7b\x7b tags \x7d\x7d" = .ok "[\"a\",true]" ∧
      resolveOperand taggedVariables " \x7b\x7bname\x7d\x7d\x7b\x7btags\x7d\x7d\n" =
        .ok (.text " Alice[\"a\",true]\n") ∧
      resolveOperand taggedVariables "\x7b\x7b\x7bname\x7d\x7d" =
        .error (.unknownVariable "\x7bname") := by
  have htrim : (" \x7b\x7b tags \x7d\x7d\n").trimBlanks = "\x7b\x7b tags \x7d\x7d" := by decide
  have hone : IsSpan (" \x7b\x7b tags \x7d\x7d\n").trimBlanks " tags " :=
    parts_eq_singleton_iff.mp (by decide)
  have htwo : ∀ inner,
      ¬IsSpan (" \x7b\x7bname\x7d\x7d\x7b\x7btags\x7d\x7d\n").trimBlanks inner := by
    intro inner
    have hparts : parts (" \x7b\x7bname\x7d\x7d\x7b\x7btags\x7d\x7d\n").trimBlanks =
        [.span "name".toList, .span "tags".toList] := by decide
    rw [← parts_eq_singleton_iff, hparts]
    simp
  obtain ⟨-, -, hspan, -⟩ := @resolveOperand_agrees " \x7b\x7b tags \x7d\x7d\n"
    (Text.hasPart_iff.mp (by decide)) taggedVariables
  obtain ⟨-, -, -, hother, -⟩ :=
    @resolveOperand_agrees " \x7b\x7bname\x7d\x7d\x7b\x7btags\x7d\x7d\n"
      (Text.hasPart_iff.mp (by decide)) taggedVariables
  obtain ⟨herror, -⟩ := @resolveOperand_agrees "\x7b\x7b\x7bname\x7d\x7d"
    (Text.hasPart_iff.mp (by decide)) taggedVariables
  obtain ⟨hvalue, htext⟩ := hspan " tags " hone
  have htags : taggedVariables (" tags ").trimBlanks = .ok (.array [.text "a", .bool true]) := by
    rw [show (" tags ").trimBlanks = "tags" by decide]
    rfl
  rw [htags] at hvalue
  refine ⟨hvalue, ?_, ?_, (herror _).mpr (by decide +kernel)⟩
  · have hcompact : (Value.array [.text "a", .bool true]).toText = "[\"a\",true]" := by
      decide +kernel
    rw [← htrim, htext, hvalue, ← hcompact]
    rfl
  · have hrendered : interpolate taggedVariables
        " \x7b\x7bname\x7d\x7d\x7b\x7btags\x7d\x7d\n" = .ok " Alice[\"a\",true]\n" := by
      decide +kernel
    rw [hother htwo, hrendered]
    rfl

/-- A third brace in front belongs to the span, one behind it does not. -/
example :
    parts "\x7b\x7b\x7ba\x7d\x7d" = [.span ['{', 'a']] ∧
      parts "\x7b\x7ba\x7d\x7d\x7d" = [.span ['a'], .char '}'] := by
  decide

end Template

end FlowRouting
