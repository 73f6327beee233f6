import FlowRouting.Proofs.Condition.RoundTrip
import FlowRouting.Proofs.Value.Paths

/-!
# Operators that do not exist

The names of operators are looked at twice. Before a configuration is decoded, the clauses are
searched for an unknown one, so that it is reported with its clause; the decoder then refuses any
unknown one that is left. The two do not go through the same clauses. The decoder takes a path or a
clause as an object or as the list of its fields in order, while the search follows keys, and in a
list it finds nothing.

So an unknown operator never passes, but how it is reported depends on whether keys lead to it. If
they do, it is reported with its clause whatever else is wrong; if not, the error is one about the
shape of the configuration.
-/

namespace FlowRouting

open Json

/-! ## Clauses in their places -/

/-- A clause of a configuration, as a value, with the path that it is in. -/
structure PlacedClause where
  path : Value
  clause : Value

namespace PlacedClause

/-- Whether keys lead to the fields of the clause: neither it nor its path is a list. -/
def isKeyed (p : PlacedClause) : Bool :=
  p.path.asFields?.isSome && p.clause.asFields?.isSome

/-- The text in the place of the operator, unless there is such an operator. -/
def unknownOperator? (p : PlacedClause) : Option String :=
  ((Clause.shape.entry? "operator" p.clause).bind Value.asText?).filter fun name ↦
    (Operator.ofName? name).isNone

def error (p : PlacedClause) (name : String) : ConditionError :=
  .invalidClause (p.clause.getPath "id").toText (EvalError.unknownOperator name)

/-- What is reported of the clause before it is decoded. -/
def report? (p : PlacedClause) : Option ConditionError :=
  if p.isKeyed then p.unknownOperator?.map p.error else none

variable {p : PlacedClause}

theorem report?_eq_none_iff :
    p.report? = none ↔ (p.isKeyed = true → p.unknownOperator? = none) := by
  rw [report?]
  by_cases hkeyed : p.isKeyed = true
  · rw [if_pos hkeyed, Option.map_eq_none_iff, forall_prop_of_true hkeyed]
  · rw [if_neg hkeyed]
    exact iff_of_true rfl fun h ↦ absurd h hkeyed

theorem report?_eq_some_iff {e : ConditionError} : p.report? = some e ↔
    p.isKeyed = true ∧ ∃ name, p.unknownOperator? = some name ∧ p.error name = e := by
  rw [report?, Option.ite_none_right_eq_some, Option.map_eq_some_iff]

end PlacedClause

namespace Condition

/-- The clauses of a configuration in order, in the places from which the decoder takes them. -/
def placedClauses (config : Fields) : List PlacedClause :=
  ((Dict.get? config "paths").getD .null).items.flatMap fun path ↦
    ((Path.shape.entry? "clauses" path).getD .null).items.map (.mk path)

/-! ## The search -/

private theorem operatorError?_eq (p : PlacedClause) :
    operatorError? p.clause =
      if p.clause.asFields?.isSome = true then p.unknownOperator?.map p.error else none := by
  obtain ⟨path, clause⟩ := p
  cases clause with
  | object fields =>
    have hkey : (Value.object fields).getPath "operator" =
        (Dict.get? fields "operator").getD .null :=
      Value.getPath_of_notMem (by decide) (by decide) _
    show operatorError? (.object fields) = Option.map _ (Option.filter _ (Option.bind _ _))
    rw [operatorError?, hkey, Shape.entry?]
    cases Dict.get? fields "operator" with
    | none => rfl
    | some v =>
      cases v with
      | text name =>
        simp only [Option.getD_some, Option.bind_some, Value.asText?, Option.filter_some]
        cases Operator.ofName? name <;> rfl
      | _ => rfl
  | array | null | bool | number | text => rfl

private theorem findSome?_clauses (path : Value) :
    (path.getPath "clauses").items.findSome? operatorError? =
      (((Path.shape.entry? "clauses" path).getD .null).items.map
        (PlacedClause.mk path)).findSome? PlacedClause.report? := by
  rw [List.findSome?_map]
  cases path with
  | object fields =>
    have hkey : (Value.object fields).getPath "clauses" =
        (Dict.get? fields "clauses").getD .null :=
      Value.getPath_of_notMem (by decide) (by decide) _
    rw [hkey, Shape.entry?]
    congr 1
    funext clause
    exact operatorError?_eq ⟨.object fields, clause⟩
  | array items => exact (List.findSome?_eq_none_iff.mpr fun _ _ ↦ rfl).symm
  | null | bool | number | text => rfl

/-- The search finds the first unknown operator that keys lead to. -/
theorem findSome?_rawClauses (config : Fields) :
    (rawClauses config).findSome? operatorError? =
      (placedClauses config).findSome? PlacedClause.report? := by
  rw [rawClauses, placedClauses]
  induction ((Dict.get? config "paths").getD .null).items with
  | nil => rfl
  | cons path paths ih =>
    rw [List.flatMap_cons, List.flatMap_cons, List.findSome?_append, List.findSome?_append, ih,
      findSome?_clauses]

/-! ## The decoder -/

private theorem exists_of_mem_items {o : Option Value} {item : Value}
    (h : item ∈ (o.getD .null).items) : ∃ items, o = some (.array items) ∧ item ∈ items := by
  cases o with
  | none => cases h
  | some v =>
    cases v with
    | array items => exact ⟨items, rfl, h⟩
    | null | bool | number | text | object => cases h

section Items

variable {α β : Type} {shape : Shape α} {field : Json.Field α} {decode : Decoder β} {c : α}

/-- In a value that was decoded, every item of a list has been decoded that is in the place of a
field for lists. -/
theorem exists_decode_of_mem_items (hkeys : shape.HasDistinctKeys) (hfield : field ∈ shape.fields)
    (hlist : ∀ j a b, field.put .tree j a = .ok b → ∃ xs, Decoder.list decode .tree j = .ok xs)
    {v item : Value} (hordered : v.IsOrdered) (h : shape.decode .tree v.toJson = .ok c)
    (hitem : item ∈ ((shape.entry? field.key v).getD .null).items) :
    item.IsOrdered ∧ ∃ x, decode .tree item.toJson = .ok x := by
  obtain ⟨items, hentry, hitem⟩ := exists_of_mem_items hitem
  obtain ⟨a, b, hput⟩ := Shape.exists_put_of_decode_tree hkeys hfield hordered h hentry
  obtain ⟨xs, hxs⟩ := hlist _ a b hput
  refine ⟨?_, Decoder.exists_of_list_tree hxs hitem⟩
  cases Shape.isOrdered_of_entry? hordered hentry with
  | array hitems => exact hitems item hitem

end Items

private theorem unknownOperator?_of_decode {p : PlacedClause} (hordered : p.clause.IsOrdered)
    {c : Clause} (h : Clause.shape.decode .tree p.clause.toJson = .ok c) :
    p.unknownOperator? = none := by
  rw [PlacedClause.unknownOperator?, Option.filter_eq_none_iff]
  intro name hname
  obtain ⟨v, hentry, htext⟩ := Option.bind_eq_some_iff.mp hname
  obtain ⟨a, b, hput⟩ := Shape.exists_put_of_decode_tree Clause.hasDistinctKeys_shape
    (.tail _ (.tail _ (.head _))) hordered h hentry
  obtain ⟨op, hop, -⟩ := map_eq_ok_iff.mp hput
  cases v with
  | text s =>
    cases htext
    obtain ⟨read, hread, hop⟩ := bind_eq_ok_iff.mp hop
    cases hread
    cases hfound : Operator.ofName? name with
    | some found => exact Bool.false_ne_true
    | none =>
      rw [hfound] at hop
      cases hop
  | null | bool | number | array | object => cases htext

private theorem unknownOperator?_of_mem {config : Fields}
    (hordered : (Value.object config).IsOrdered) {c : Condition}
    (h : shape.decode .tree (Value.object config).toJson = .ok c) {p : PlacedClause}
    (hp : p ∈ placedClauses config) : p.unknownOperator? = none := by
  obtain ⟨path, hpath, hp⟩ := List.mem_flatMap.mp hp
  obtain ⟨clause, hclause, rfl⟩ := List.mem_map.mp hp
  obtain ⟨hpathOrdered, q, hq⟩ := exists_decode_of_mem_items hasDistinctKeys_shape (.head _)
    (fun j a b hput ↦ (map_eq_ok_iff.mp hput).imp fun _ ↦ And.left) hordered h hpath
  obtain ⟨hclauseOrdered, d, hd⟩ := exists_decode_of_mem_items Path.hasDistinctKeys_shape
    (.tail _ (.tail _ (.head _)))
    (fun j a b hput ↦ (map_eq_ok_iff.mp hput).imp fun _ ↦ And.left) hpathOrdered hq hclause
  exact unknownOperator?_of_decode hclauseOrdered hd

/-! ## Reports -/

section Reports

variable {nodeId : String} {config : Fields}

private theorem ofFields_of_report {e : ConditionError}
    (h : (placedClauses config).findSome? PlacedClause.report? = some e) :
    ofFields nodeId config = .error e := by
  rw [ofFields, findSome?_rawClauses, h]
  rfl

private theorem ofFields_of_first {before after : List PlacedClause} {p : PlacedClause}
    {name : String} (hplaced : placedClauses config = before ++ p :: after)
    (hkeyed : p.isKeyed = true) (hname : p.unknownOperator? = some name)
    (hbefore : ∀ q ∈ before, q.isKeyed = true → q.unknownOperator? = none) :
    ofFields nodeId config = .error (p.error name) := by
  refine ofFields_of_report (List.findSome?_eq_some_iff.mpr ⟨before, p, after, hplaced, ?_, ?_⟩)
  · exact PlacedClause.report?_eq_some_iff.mpr ⟨hkeyed, name, hname, rfl⟩
  · exact fun q hq ↦ PlacedClause.report?_eq_none_iff.mpr (hbefore q hq)

/-- If keys lead to no unknown operator, any one that is there is left to the decoder. -/
theorem exists_mismatch_of_unkeyed (hordered : (Value.object config).IsOrdered)
    (hunknown : ∃ p ∈ placedClauses config, p.unknownOperator?.isSome = true)
    (hkeyed : ∀ p ∈ placedClauses config, p.isKeyed = true → p.unknownOperator? = none) :
    ∃ m, shape.decode .tree (Value.object config).toJson = .error m ∧
      ofFields nodeId config = .error (.invalidLayout nodeId (.shape m)) := by
  obtain ⟨p, hp, hname⟩ := hunknown
  have hquiet : (placedClauses config).findSome? PlacedClause.report? = none :=
    List.findSome?_eq_none_iff.mpr fun q hq ↦ PlacedClause.report?_eq_none_iff.mpr (hkeyed q hq)
  cases hdecode : shape.decode .tree (Value.object config).toJson with
  | ok c =>
    rw [unknownOperator?_of_mem hordered hdecode hp] at hname
    cases hname
  | error m =>
    refine ⟨m, rfl, ?_⟩
    rw [ofFields, findSome?_rawClauses, hquiet]
    simp only [hdecode]
    rfl

/-- **Unknown operators are refused.** A configuration with an unknown operator in the place of the
operator of some clause is no condition. The error is one about a clause exactly if keys lead to
some such clause, and then it is about the first of these clauses, its operator and no other fault.
Otherwise it is the error that the decoder has about the shape of the configuration. -/
theorem unknownOperator_refused (nodeId : String) (hordered : (Value.object config).IsOrdered)
    (hunknown : ∃ p ∈ placedClauses config, p.unknownOperator?.isSome = true) :
    ((∃ id source, ofFields nodeId config = .error (.invalidClause id source)) ↔
        ∃ p ∈ placedClauses config, p.isKeyed = true ∧ p.unknownOperator?.isSome = true) ∧
      (∀ before p after name, placedClauses config = before ++ p :: after → p.isKeyed = true →
        p.unknownOperator? = some name →
        (∀ q ∈ before, q.isKeyed = true → q.unknownOperator? = none) →
          ofFields nodeId config = .error (p.error name)) ∧
      ((∀ p ∈ placedClauses config, p.isKeyed = true → p.unknownOperator? = none) →
        ∃ m, shape.decode .tree (Value.object config).toJson = .error m ∧
          ofFields nodeId config = .error (.invalidLayout nodeId (.shape m))) := by
  refine ⟨⟨?_, ?_⟩, fun before p after name ↦ ofFields_of_first,
    exists_mismatch_of_unkeyed hordered hunknown⟩
  · rintro ⟨id, source, hreport⟩
    by_contra hkeyed
    have hunkeyed : ∀ p ∈ placedClauses config, p.isKeyed = true → p.unknownOperator? = none :=
      fun p hp hkey ↦ Option.not_isSome_iff_eq_none.mp fun hname ↦ hkeyed ⟨p, hp, hkey, hname⟩
    obtain ⟨m, -, hlayout⟩ := exists_mismatch_of_unkeyed hordered hunknown hunkeyed
    rw [hlayout] at hreport
    cases hreport
  · rintro ⟨p, hp, hkeyed, hname⟩
    cases hfind : (placedClauses config).findSome? PlacedClause.report? with
    | none =>
      rw [PlacedClause.report?_eq_none_iff.mp (List.findSome?_eq_none_iff.mp hfind p hp) hkeyed]
        at hname
      cases hname
    | some e =>
      obtain ⟨q, -, hq⟩ := List.exists_of_findSome?_eq_some hfind
      obtain ⟨-, name, -, rfl⟩ := PlacedClause.report?_eq_some_iff.mp hq
      exact ⟨_, _, ofFields_of_report hfind⟩

end Reports

/-! ### Clauses as lists -/

/-- A configuration whose only clause is the list of its fields. -/
def listedGate (operator : String) : Fields :=
  [("paths", .array
    [.object
      [("clauses", .array [.array [.text "c1", .text "x", .text operator, .text "1"]]),
        ("id", .text "p1"), ("name", .text "A")],
      .object [("id", .text "else"), ("name", .text "Else")]])]

/-- A configuration with a path that is a list, and a list among the clauses of the other one. Of
its operators three do not exist. -/
def mixedGate : Fields :=
  [("paths", .array
    [.array
      [.text "p1", .text "A", .array
        [.object
          [("id", .text "c1"), ("inputField", .text "x"), ("operator", .text "approximately")]]],
      .object
        [("clauses", .array
          [.array [.text "c2", .text "x", .text "about", .text "1"],
            .object
              [("id", .text "c3"), ("inputField", .text "x"), ("operator", .text "roughly")]]),
          ("id", .text "p2"), ("name", .text "B")],
      .object [("id", .text "else"), ("name", .text "Else")]])]

private theorem isOrdered_listedGate : (Value.object (listedGate "approximately")).IsOrdered :=
  Value.isOrdered_of_ofJson
    (show Value.ofJson none (Value.object (listedGate "approximately")).toJson = .ok _ from rfl)

private theorem isOrdered_mixedGate : (Value.object mixedGate).IsOrdered :=
  Value.isOrdered_of_ofJson
    (show Value.ofJson none (Value.object mixedGate).toJson = .ok _ from rfl)

/-- The third of the unknown operators is reported, because keys lead to it and not to the others;
where keys lead to none, the error is one about the shape. -/
theorem unknownOperator_refused_mixedGate :
    ofFields "gate" mixedGate =
        .error (.invalidClause "c3" (EvalError.unknownOperator "roughly")) ∧
      (∃ p ∈ placedClauses mixedGate, p.unknownOperator? = some "approximately") ∧
      ∃ m, ofFields "gate" (listedGate "approximately") =
        .error (.invalidLayout "gate" (.shape m)) := by
  obtain ⟨-, hfirst, -⟩ := unknownOperator_refused "gate" isOrdered_mixedGate (by decide +kernel)
  obtain ⟨-, -, hnone⟩ := unknownOperator_refused "gate" isOrdered_listedGate
    (by decide +kernel)
  obtain ⟨m, -, hlayout⟩ := hnone (by decide +kernel)
  refine ⟨?_, by decide +kernel, m, hlayout⟩
  exact hfirst ((placedClauses mixedGate).take 2) (placedClauses mixedGate)[2] [] "roughly" rfl rfl
    (by decide +kernel) (by decide +kernel)

/-- An unknown operator of a clause that is a list is reported without the clause, although such a
clause is read as any other if its operator is known. -/
theorem unknownOperator_not_reported_listedGate :
    (Value.object (listedGate "approximately")).IsOrdered ∧
      (∃ c, ofFields "gate" (listedGate "==") = .ok c ∧
        c.clauses = [⟨"c1", "x", .equals, some "1"⟩]) ∧
      (∃ p ∈ placedClauses (listedGate "approximately"),
        p.unknownOperator? = some "approximately") ∧
      ofFields "gate" (listedGate "approximately") = .error (.invalidLayout "gate"
        (.shape (.refusedText (EvalError.unknownOperator "approximately").message))) :=
  ⟨isOrdered_listedGate, ⟨_, rfl, rfl⟩, by decide +kernel, rfl⟩

end Condition

end FlowRouting
