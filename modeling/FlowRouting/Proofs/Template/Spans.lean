import FlowRouting.Proofs.Template.Operands
import Mathlib.Order.WellFounded

/-!
# Where the spans of a template are

Where a text has spans can be said without reading it part by part. The first one begins with the
first opening braces that have closing ones behind them and ends with the first of these; the next
one is the first span of the rest. A text is *cut* where it is taken apart in this way. There is one
cut of every text, and reading the text into parts finds it.

Rendering resolves the references of the cut from left to right and fills in what they come to. So a
reference that fails is the first one that does, and variables that agree about the references of a
template render it alike.
-/

namespace FlowRouting

namespace Template

/-! ## Cuts -/

/-- A span and the text in front of it. -/
structure Piece where
  before : List Char
  /-- What stands between the braces of the span. -/
  inner : List Char
deriving DecidableEq

/-- A text taken apart at its spans. -/
structure Cut where
  pieces : List Piece
  /-- The text behind the last span. -/
  last : List Char
deriving DecidableEq

/-- The reference of the span of a piece. -/
def Piece.reference (p : Piece) : String :=
  String.ofList (Text.trim p.inner)

/-- The references of the spans, in order. -/
def Cut.references (cut : Cut) : List String :=
  cut.pieces.map Piece.reference

/-- The text with other texts in place of the spans. -/
def Cut.fill (cut : Cut) (texts : List (List Char)) : List Char :=
  (List.zipWith (fun p text ↦ p.before ++ text) cut.pieces texts).flatten ++ cut.last

theorem Cut.fill_piece (cut : Cut) (p : Piece) (text : List Char) (texts : List (List Char)) :
    Cut.fill ⟨p :: cut.pieces, cut.last⟩ (text :: texts) =
      p.before ++ (text ++ cut.fill texts) := by
  rw [fill, fill, List.zipWith_cons_cons, List.flatten_cons, List.append_assoc, List.append_assoc]

/-- The parts of a text that is cut in this way. -/
def Cut.parts (cut : Cut) : List Part :=
  (cut.pieces.flatMap fun p ↦ p.before.map .char ++ [.span p.inner]) ++ cut.last.map .char

theorem Cut.parts_piece (p : Piece) (pieces : List Piece) (last : List Char) :
    Cut.parts ⟨p :: pieces, last⟩ =
      p.before.map .char ++ .span p.inner :: Cut.parts ⟨pieces, last⟩ := by
  rw [parts, parts, List.flatMap_cons, List.append_assoc, List.append_assoc, List.singleton_append]

/-- A text begins with a piece whose span is the first one: no span begins before it, and of those
that begin with it none is shorter. -/
structure Begins (cs : List Char) (p : Piece) (rest : List Char) : Prop where
  eq : cs = p.before ++ ((Part.span p.inner).source ++ rest)
  leftmost : ∀ a b c, cs = a ++ ((Part.span b).source ++ c) → p.before.length ≤ a.length
  shortest : ∀ b c, cs = p.before ++ ((Part.span b).source ++ c) → p.inner.length ≤ b.length

/-- A text is cut at its first span, at the first span of the rest, and so on. -/
inductive IsCut : List Char → Cut → Prop
  | whole {cs : List Char} (h : ∀ a b c, cs ≠ a ++ ((Part.span b).source ++ c)) : IsCut cs ⟨[], cs⟩
  | piece {cs rest : List Char} {p : Piece} {cut : Cut} (h : Begins cs p rest)
      (hrest : IsCut rest cut) : IsCut cs ⟨p :: cut.pieces, cut.last⟩

/-! ## The first span -/

theorem source_span_append (inner rest : List Char) :
    (Part.span inner).source ++ rest = '{' :: '{' :: (inner ++ '}' :: '}' :: rest) := by
  simp [Part.source]

namespace Begins

variable {cs rest rest' : List Char} {p p' : Piece}

theorem isInner (h : Begins cs p rest) : IsInner p.inner where
  closing := by
    rintro ⟨b, c, hinner⟩
    have hle := h.shortest b (c ++ '}' :: '}' :: rest) (by
      rw [h.eq, source_span_append, source_span_append, ← hinner]
      simp)
    rw [← hinner] at hle
    simp only [List.length_append, List.length_cons] at hle
    omega
  last := by
    intro hlast
    obtain ⟨b, hinner⟩ := List.getLast?_eq_some_iff.mp hlast
    have hle := h.shortest b ('}' :: rest) (by
      rw [h.eq, source_span_append, source_span_append, hinner]
      simp)
    rw [hinner, List.length_append, List.length_singleton] at hle
    omega

theorem tail {c : Char} {before inner : List Char}
    (h : Begins (c :: cs) ⟨c :: before, inner⟩ rest) : Begins cs ⟨before, inner⟩ rest where
  eq := (List.cons.inj h.eq).2
  leftmost a b d hcs := Nat.le_of_succ_le_succ (h.leftmost (c :: a) b d (congrArg (c :: ·) hcs))
  shortest b d hcs := h.shortest b d (congrArg (c :: ·) hcs)

/-- Opening braces before the first span would begin one that ends where the first one does. -/
theorem not_opening {c : Char} {before inner : List Char}
    (h : Begins (c :: cs) ⟨c :: before, inner⟩ rest) :
    ∀ cs', c = '{' → cs = '{' :: cs' → False := by
  rintro cs' rfl hcs
  have heq : (before ++ '{' :: '{' :: inner) ++ '}' :: '}' :: rest = '{' :: cs' := by
    rw [← hcs, h.tail.eq, source_span_append]
    simp
  cases hinner : before ++ '{' :: '{' :: inner with
  | nil => simp at hinner
  | cons d b =>
    rw [hinner, List.cons_append] at heq
    have hle := h.leftmost [] b rest (by
      rw [hcs, ← (List.cons.inj heq).2, source_span_append, List.nil_append])
    cases hle

theorem scan_eq (h : Begins cs p rest) :
    scan none cs = p.before.map .char ++ .span p.inner :: scan none rest := by
  obtain ⟨before, inner⟩ := p
  induction before generalizing cs with
  | nil =>
    rw [h.eq, List.nil_append, source_span_append, scan, scan_inner_append h.isInner]
    rfl
  | cons c before ih =>
    obtain ⟨cs, rfl⟩ : ∃ cs', cs = c :: cs' := ⟨_, h.eq⟩
    rw [scan, ih h.tail]
    · rfl
    · exact h.not_opening

theorem unique (h : Begins cs p rest) (h' : Begins cs p' rest') : p = p' ∧ rest = rest' := by
  obtain ⟨before, inner⟩ := p
  obtain ⟨before', inner'⟩ := p'
  obtain ⟨rfl, hspan⟩ := List.append_inj (h.eq.symm.trans h'.eq)
    (Nat.le_antisymm (h.leftmost _ _ _ h'.eq) (h'.leftmost _ _ _ h.eq))
  rw [source_span_append, source_span_append] at hspan
  obtain ⟨rfl, hrest⟩ := List.append_inj (List.cons.inj (List.cons.inj hspan).2).2
    (Nat.le_antisymm (h.shortest _ _ h'.eq) (h'.shortest _ _ h.eq))
  exact ⟨rfl, (List.cons.inj (List.cons.inj hrest).2).2⟩

end Begins

private theorem exists_shortest {P : List Char → Prop} {a : List Char} (h : P a) :
    ∃ m, P m ∧ ∀ b, P b → m.length ≤ b.length := by
  obtain ⟨m, hm, hmin⟩ := (measure List.length).wf.has_min {b | P b} ⟨a, h⟩
  exact ⟨m, hm, fun b hb ↦ Nat.le_of_not_lt (hmin b hb)⟩

private theorem exists_begins {cs a b c : List Char} (h : cs = a ++ ((Part.span b).source ++ c)) :
    ∃ p rest, Begins cs p rest := by
  -- The shortest text in front of a span, and behind it the shortest span.
  obtain ⟨before, ⟨b, c, hbefore⟩, hleft⟩ :=
    exists_shortest (P := fun a ↦ ∃ b c, cs = a ++ ((Part.span b).source ++ c)) ⟨b, c, h⟩
  obtain ⟨inner, ⟨rest, hinner⟩, hshort⟩ :=
    exists_shortest (P := fun b ↦ ∃ c, cs = before ++ ((Part.span b).source ++ c)) ⟨c, hbefore⟩
  exact ⟨⟨before, inner⟩, rest, hinner, fun a b c ha ↦ hleft a ⟨b, c, ha⟩,
    fun b c hb ↦ hshort b ⟨c, hb⟩⟩

private theorem scan_eq_map_char (state : Option (List Char)) (cs : List Char)
    (h : ∀ a b c, (state.map fun inner ↦ '{' :: '{' :: inner).getD [] ++ cs ≠
      a ++ ((Part.span b).source ++ c)) :
    scan state cs =
      ((state.map fun inner ↦ '{' :: '{' :: inner).getD [] ++ cs).map .char := by
  -- Opening braces that have been read count as part of the text, as the case for an open span
  -- needs.
  induction state, cs using scan.induct with
  | case1 => rfl
  | case2 inner => simp [scan]
  | case3 cs ih =>
    rw [scan]
    exact ih h
  | case4 inner cs ih =>
    refine absurd ?_ (h [] inner cs)
    rw [source_span_append]
    rfl
  | case5 c cs hc ih =>
    rw [scan, ih fun a b d hcs ↦ h (c :: a) b d (congrArg (c :: ·) hcs)]
    · rfl
    · exact hc
  | case6 inner c cs hc ih =>
    have htext : '{' :: '{' :: (inner ++ [c]) ++ cs = '{' :: '{' :: inner ++ c :: cs := by simp
    rw [scan, ih]
    · simp
    · intro a b d hcs
      exact h a b d (htext.symm.trans hcs)
    · exact hc

/-! ## The cut of a text -/

theorem exists_isCut (cs : List Char) : ∃ cut, IsCut cs cut := by
  induction hn : cs.length using Nat.strong_induction_on generalizing cs with
  | _ n ih =>
    by_cases hspan : ∃ a b c, cs = a ++ ((Part.span b).source ++ c)
    · obtain ⟨a, b, c, hspan⟩ := hspan
      obtain ⟨p, rest, hbegins⟩ := exists_begins hspan
      have hlt : rest.length < n := by
        rw [← hn, hbegins.eq, source_span_append]
        simp
        omega
      obtain ⟨cut, hcut⟩ := ih _ hlt rest rfl
      exact ⟨_, .piece hbegins hcut⟩
    · simp only [not_exists] at hspan
      exact ⟨_, .whole hspan⟩

namespace IsCut

variable {cs : List Char} {cut cut' : Cut}

theorem unique (h : IsCut cs cut) (h' : IsCut cs cut') : cut = cut' := by
  induction h generalizing cut' with
  | whole hnone =>
    cases h' with
    | whole _ => rfl
    | piece hbegins _ => exact absurd hbegins.eq (hnone _ _ _)
  | piece hbegins _ ih =>
    cases h' with
    | whole hnone => exact absurd hbegins.eq (hnone _ _ _)
    | piece hbegins' hrest' =>
      obtain ⟨rfl, rfl⟩ := hbegins.unique hbegins'
      rw [ih hrest']

/-- With the spans themselves in their places a cut is the text again. -/
theorem fill_sources (h : IsCut cs cut) :
    cut.fill (cut.pieces.map fun p ↦ (Part.span p.inner).source) = cs := by
  induction h with
  | whole _ => rfl
  | piece hbegins _ ih => rw [List.map_cons, Cut.fill_piece, ih, hbegins.eq]

/-- Reading a text into parts finds its cut. -/
theorem scan_eq (h : IsCut cs cut) : scan none cs = cut.parts := by
  induction h with
  | whole hnone => exact scan_eq_map_char none _ hnone
  | piece hbegins _ ih => rw [hbegins.scan_eq, ih, Cut.parts_piece]

end IsCut

/-! ## Rendering -/

theorem Cut.filterMap_parts (cut : Cut) : cut.parts.filterMap Part.reference? = cut.references := by
  obtain ⟨pieces, last⟩ := cut
  induction pieces with
  | nil => exact filterMap_reference?_chars last
  | cons p pieces ih =>
    rw [parts_piece, List.filterMap_append, filterMap_reference?_chars, List.nil_append,
      List.filterMap_cons, ih]
    rfl

theorem Cut.mapM_render_parts (vars : Variables) (cut : Cut) :
    (cut.parts.mapM (Part.render vars)).map List.flatten =
      (cut.references.mapM vars).map fun values ↦
        cut.fill (values.map fun v ↦ v.toText.toList) := by
  obtain ⟨pieces, last⟩ := cut
  induction pieces with
  | nil =>
    exact (congrArg (Except.map List.flatten) (mapM_render_chars vars last)).trans
      (congrArg Except.ok (flatten_chars last))
  | cons p pieces ih =>
    rw [parts_piece, List.mapM_append, mapM_render_chars, List.mapM_cons]
    have hrender : Part.render vars (.span p.inner) =
        (vars p.reference).map fun v ↦ v.toText.toList := rfl
    rw [hrender]
    show _ = ((p.reference :: Cut.references ⟨pieces, last⟩).mapM vars).map _
    rw [List.mapM_cons]
    cases vars p.reference with
    | error e => rfl
    | ok v =>
      calc _ = (((Cut.parts ⟨pieces, last⟩).mapM (Part.render vars)).map List.flatten).map
              fun text ↦ p.before ++ (v.toText.toList ++ text) := by
            cases (Cut.parts ⟨pieces, last⟩).mapM (Part.render vars) with
            | error e => rfl
            | ok texts =>
              refine congrArg Except.ok (List.flatten_append.trans ?_)
              rw [flatten_chars, List.flatten_cons]
        _ = _ := by
            rw [ih]
            cases (Cut.references ⟨pieces, last⟩).mapM vars with
            | error e => rfl
            | ok values =>
              exact congrArg Except.ok (Cut.fill_piece ⟨pieces, last⟩ p v.toText.toList _).symm

theorem references_eq {template : String} {cut : Cut} (h : IsCut template.toList cut) :
    references template = cut.references := by
  rw [references, Template.parts, h.scan_eq, cut.filterMap_parts]

/-- A template comes to its cut with the texts of its references in place of the spans. -/
theorem interpolate_eq {template : String} {cut : Cut} (h : IsCut template.toList cut)
    (vars : Variables) :
    interpolate vars template = ((references template).mapM vars).map fun values ↦
      String.ofList (cut.fill (values.map fun v ↦ v.toText.toList)) := by
  rw [interpolate_eq_map, parts, h.scan_eq, cut.mapM_render_parts, references_eq h]
  cases cut.references.mapM vars <;> rfl

/-- Rendering depends on the references of a template only. -/
theorem interpolate_congr {template : String} {vars vars' : Variables}
    (h : ∀ reference ∈ references template, vars reference = vars' reference) :
    interpolate vars template = interpolate vars' template := by
  obtain ⟨cut, hcut⟩ := exists_isCut template.toList
  rw [interpolate_eq hcut, interpolate_eq hcut, mapM_congr h]

theorem interpolate_of_references_eq_nil {template : String} (h : references template = [])
    (vars : Variables) : interpolate vars template = .ok template := by
  obtain ⟨cut, hcut⟩ := exists_isCut template.toList
  have hpieces : cut.pieces = [] := by
    rw [references_eq hcut] at h
    exact List.map_eq_nil_iff.mp h
  have hfill : cut.fill [] = template.toList := by
    have hsources := hcut.fill_sources
    rwa [hpieces, List.map_nil] at hsources
  rw [interpolate_eq hcut, h]
  show Except.ok (String.ofList (cut.fill [])) = _
  rw [hfill, String.ofList_toList]

/-- **Rendering fills in the spans of a template, from left to right.** There is one cut of the
template, into the spans that come first and are the shortest and the texts around them. The
references are what stands between their braces, trimmed. Rendering succeeds exactly if all
references have values, and then leaves the texts around the spans as they are, with the texts of
the values in between; otherwise it fails as the first reference without a value does. Nothing but
the references matters. -/
theorem interpolate_exact (template : String) :
    ∃ cut, IsCut template.toList cut ∧ (∀ cut', IsCut template.toList cut' → cut' = cut) ∧
      cut.fill (cut.pieces.map fun p ↦ (Part.span p.inner).source) = template.toList ∧
      references template = cut.references ∧
      ∀ vars : Variables,
        ((∃ text, interpolate vars template = .ok text) ↔
          ∀ reference ∈ references template, ∃ v, vars reference = .ok v) ∧
        (∀ values, List.Forall₂ (fun reference v ↦ vars reference = .ok v)
            (references template) values →
          interpolate vars template =
            .ok (String.ofList (cut.fill (values.map fun v ↦ v.toText.toList)))) ∧
        (∀ before reference after e, references template = before ++ reference :: after →
          (∀ r ∈ before, ∃ v, vars r = .ok v) → vars reference = .error e →
            interpolate vars template = .error e) ∧
        ∀ vars' : Variables,
          (∀ reference ∈ references template, vars' reference = vars reference) →
            interpolate vars' template = interpolate vars template := by
  obtain ⟨cut, hcut⟩ := exists_isCut template.toList
  refine ⟨cut, hcut, fun _ hcut' ↦ hcut'.unique hcut, hcut.fill_sources, references_eq hcut,
    fun vars ↦ ⟨⟨?_, fun hall ↦ ?_⟩, fun values hvalues ↦ ?_, ?_, fun _ ↦ interpolate_congr⟩⟩
  · rintro ⟨text, htext⟩ reference hreference
    rw [interpolate_eq hcut] at htext
    obtain ⟨values, hvalues, _⟩ := map_eq_ok_iff.mp htext
    obtain ⟨v, _, hv⟩ := exists_of_mapM_eq_ok hvalues hreference
    exact ⟨v, hv⟩
  · obtain ⟨values, hvalues⟩ := exists_mapM_eq_ok hall
    exact ⟨_, by rw [interpolate_eq hcut, hvalues]; rfl⟩
  · rw [interpolate_eq hcut, mapM_eq_ok_iff.mpr hvalues]
    rfl
  · intro before reference after e hreferences hbefore hfails
    rw [interpolate_eq hcut,
      mapM_eq_error_iff.mpr ⟨before, reference, after, hreferences, hbefore, hfails⟩]
    rfl

/-- A brace more belongs to the span, and opening braces that nothing closes are text. -/
example :
    references "\x7b \x7b\x7b\x7ba\x7d\x7d\x7d \x7b\x7b\nb\x7d\x7d \x7b\x7b" =
      ["\x7ba", "b"] := by
  decide

end Template

end FlowRouting
