import FlowRouting.Proofs.Condition.Layout
import FlowRouting.Proofs.Json.Records

/-!
# Conditions in configurations

A condition is kept as plain values and read back from them. The values are dictionaries, so every
record of a condition is written with its keys in order, and no member of it is passed over; what
the reader puts together of them is the record that was written.
-/

namespace FlowRouting

open Json

private theorem optionalEntry_eq (key : String) (o : Option String) :
    optionalEntry key o = o.toList.map fun s ↦ (key, .text s) := by
  cases o <;> rfl

/-! ## Clauses -/

private theorem Operator.decode_name (source : Source) (op : Operator) :
    Operator.decode source (.string op.name) = .ok op := by
  simp [decode, Decoder.string, bind, Except.bind, pure, Except.pure]

theorem Clause.hasDistinctKeys_shape : Clause.shape.HasDistinctKeys := by
  show List.Nodup _
  decide +kernel

private theorem Clause.toFields_eq (c : Clause) :
    c.toFields =
      ("id", .text c.id) :: ("inputField", .text c.inputField) ::
        ("operator", .text c.operator.name) :: c.value.toList.map fun s ↦ ("value", .text s) := by
  rw [toFields, optionalEntry_eq]
  have hkeys : ["id", "inputField", "operator", "value"].Pairwise (· < ·) := by decide
  refine (Dict.Sorted.of_sublist_keys hkeys ?_).ofList_eq
  cases c.value <;> simp

private theorem Clause.decode_toFields (c : Clause) :
    Clause.shape.decode .tree (Value.object c.toFields).toJson = .ok c := by
  refine Shape.Puts.decode_tree_eq (Dict.sorted_ofList _) ?_ hasDistinctKeys_shape ?_
  · rw [toFields_eq]
    obtain ⟨id, inputField, operator, value⟩ := c
    simp only [List.map_cons, List.map_map, Function.comp_def, Value.toJson]
    refine .cons 0 rfl rfl trivial (Field.put_required_eq_ok rfl _) ?_
    refine .cons 1 rfl rfl trivial (Field.put_required_eq_ok rfl _) ?_
    refine .cons 2 rfl rfl trivial (Field.put_required_eq_ok (Operator.decode_name _ _) _) ?_
    exact .optional (fun s ↦ s) value 3 rfl (fun _ ↦ rfl) rfl rfl
  · rw [toFields_eq]
    simp [Shape.Covers, shape, Field.required, Field.withDefault]

/-! ## Paths -/

private theorem LogicalOperator.decode_name (source : Source) (op : LogicalOperator) :
    Decoder.variant variants source (.string op.name) = .ok op :=
  Decoder.variant_eq_ok (by cases op <;> decide)

theorem Path.hasDistinctKeys_shape : Path.shape.HasDistinctKeys := by
  show List.Nodup _
  decide +kernel

private theorem Path.toFields_eq (p : Path) :
    p.toFields =
      [("clauses", .array (p.clauses.map fun c ↦ .object c.toFields)), ("id", .text p.id),
        ("logicalOperator", .text p.logicalOperator.name), ("name", .text p.name)] := by
  have hkeys : ["clauses", "id", "logicalOperator", "name"].Pairwise (· < ·) := by decide
  refine Dict.Sorted.ofList_eq_of_perm (.of_sublist_keys hkeys (.refl _)) ?_
  have hperm : ∀ a b c d : String × Value, [a, b, c, d].Perm [c, a, d, b] := by
    intro a b c d
    have hfront : [a, b, c, d].Perm [c, a, b, d] :=
      ((List.Perm.swap c b [d]).cons a).trans (.swap c a [b, d])
    exact hfront.trans (((List.Perm.swap d b []).cons a).cons c)
  exact hperm _ _ _ _

private theorem Path.decode_toFields (p : Path) :
    Path.shape.decode .tree (Value.object p.toFields).toJson = .ok p := by
  refine Shape.Puts.decode_tree_eq (Dict.sorted_ofList _) ?_ hasDistinctKeys_shape ?_
  · rw [toFields_eq]
    obtain ⟨id, name, clauses, logicalOperator⟩ := p
    have hclauses : Decoder.list Clause.shape.decode .tree
        (.array (clauses.map fun c ↦ (Value.object c.toFields).toJson)) = .ok clauses :=
      Decoder.list_map_eq_ok rfl fun c _ ↦ c.decode_toFields
    simp only [List.map_cons, List.map_nil, Value.toJson, Value.itemsToJson_eq_map, List.map_map,
      Function.comp_def] at hclauses ⊢
    -- The members come in key order, which is not that of the fields.
    refine .cons 2 rfl rfl trivial (Field.put_withDefault_eq_ok hclauses _) ?_
    refine .cons 0 rfl rfl trivial (Field.put_required_eq_ok rfl _) ?_
    refine .cons 3 rfl rfl trivial
      (Field.put_withDefault_eq_ok (LogicalOperator.decode_name _ _) _) ?_
    refine .cons 1 rfl rfl trivial (Field.put_required_eq_ok rfl _) .nil
  · rw [toFields_eq]
    simp [Shape.Covers, shape, Field.required, Field.withDefault]

/-! ## Conditions -/

theorem RoutingMode.decode_name (source : Source) (mode : RoutingMode) :
    Decoder.variant variants source (.string mode.name) = .ok mode :=
  Decoder.variant_eq_ok (by cases mode <;> decide)

namespace Condition

theorem hasDistinctKeys_shape : Condition.shape.HasDistinctKeys := by
  show List.Nodup _
  decide +kernel

private theorem toFields_eq (c : Condition) :
    c.toFields =
      (c.mode.toList.map fun mode ↦ ("mode", .text mode.name)) ++
        ("paths", .array (c.paths.map fun p ↦ .object p.toFields)) ::
          c.variableName.toList.map fun s ↦ ("variableName", .text s) := by
  have hkeys : ["mode", "paths", "variableName"].Pairwise (· < ·) := by decide
  refine Dict.Sorted.ofList_eq_of_perm (.of_sublist_keys hkeys ?_) ?_
  · cases c.mode <;> cases c.variableName <;> simp
  · rw [optionalEntry_eq, optionalEntry_eq, Option.toList_map, List.map_map]
    exact List.perm_append_comm

private theorem decode_toFields (c : Condition) :
    Condition.shape.decode .tree (Value.object c.toFields).toJson = .ok c := by
  refine Shape.Puts.decode_tree_eq (Dict.sorted_ofList _) ?_ hasDistinctKeys_shape ?_
  · rw [toFields_eq]
    obtain ⟨paths, variableName, mode⟩ := c
    have hpaths : Decoder.list Path.shape.decode .tree
        (.array (paths.map fun p ↦ (Value.object p.toFields).toJson)) = .ok paths :=
      Decoder.list_map_eq_ok rfl fun p _ ↦ p.decode_toFields
    simp only [List.map_append, List.map_cons, Value.toJson, Value.itemsToJson_eq_map, List.map_map,
      Function.comp_def] at hpaths ⊢
    refine .append (.optional RoutingMode.name mode 2 rfl (RoutingMode.decode_name _) rfl rfl) ?_
    refine .cons 0 rfl rfl trivial (Field.put_required_eq_ok hpaths _) ?_
    exact .optional (fun s ↦ s) variableName 1 rfl (fun _ ↦ rfl) rfl rfl
  · rw [toFields_eq]
    simp [Shape.Covers, shape, Field.required, Field.withDefault]

/-! ### The names of operators -/

private theorem getPath_toFields_clauses (p : Path) :
    (Value.object p.toFields).getPath "clauses" =
      .array (p.clauses.map fun c ↦ .object c.toFields) := by
  rw [Path.toFields_eq]
  rfl

private theorem operatorError?_toFields (clause : Clause) :
    operatorError? (.object clause.toFields) = none := by
  have hname : (Value.object clause.toFields).getPath "operator" = .text clause.operator.name := by
    rw [Clause.toFields_eq]
    rfl
  rw [operatorError?, hname]
  simp only [Operator.ofName?_name]

private theorem rawClauses_toFields (c : Condition) :
    rawClauses c.toFields = c.clauses.map fun clause ↦ .object clause.toFields := by
  have hpaths : Dict.get? c.toFields "paths" =
      some (.array (c.paths.map fun p ↦ .object p.toFields)) := by
    rw [toFields_eq]
    cases c.mode <;> rfl
  rw [rawClauses, hpaths, Option.getD_some, Value.items, clauses, List.flatMap_map,
    List.map_flatMap]
  congr 1
  funext p
  rw [getPath_toFields_clauses, Value.items]

/-! ### Reading what was written -/

/-- Of a condition that was written nothing but its faults can be reported. -/
theorem ofFields_toFields_eq (nodeId : String) (c : Condition) :
    ofFields nodeId c.toFields =
      match c.fault? nodeId with
      | some e => .error e
      | none => .ok c := by
  -- The names are looked at before the configuration is decoded.
  have hnames : (rawClauses c.toFields).findSome? operatorError? = none := by
    rw [rawClauses_toFields, List.findSome?_eq_none_iff, List.forall_mem_map]
    intro clause _
    exact operatorError?_toFields clause
  rw [ofFields, hnames]
  simp only [decode_toFields]
  cases c.fault? nodeId <;> rfl

private theorem ne_of_fault? {nodeId : String} {c : Condition} {e : ConditionError}
    (h : c.fault? nodeId = some e) :
    (∀ id m, e ≠ .invalidLayout id (.shape m)) ∧ ∀ id source, e ≠ .invalidClause id source := by
  rw [fault?] at h
  split at h
  · cases h
    simp
  · split at h
    · cases h
      simp
    · obtain ⟨clause, -, rfl⟩ := Option.map_eq_some_iff.mp h
      simp

/-- **Conditions are read back.** What is read of a condition that was written is the condition, if
it is well-formed, and the error of its own check if it is not, which is none about the shape of the
configuration or the name of an operator. So a condition that was read from any configuration is
read again from the one that is written of it. -/
theorem ofFields_toFields (nodeId : String) (c : Condition) :
    (c.IsWellFormed → ofFields nodeId c.toFields = .ok c) ∧
      (¬c.IsWellFormed →
        ∃ e, c.fault? nodeId = some e ∧ ofFields nodeId c.toFields = .error e ∧
          (∀ id m, e ≠ .invalidLayout id (.shape m)) ∧
            ∀ id source, e ≠ .invalidClause id source) ∧
      ∀ otherId config, ofFields otherId config = .ok c → ofFields nodeId c.toFields = .ok c := by
  have hread : c.IsWellFormed → ofFields nodeId c.toFields = .ok c := by
    intro h
    rw [ofFields_toFields_eq, fault?_eq_none_iff.mpr h]
  refine ⟨hread, ?_, ?_⟩
  · intro h
    obtain ⟨e, he⟩ := Option.ne_none_iff_exists'.mp fun hnone ↦ h (fault?_eq_none_iff.mp hnone)
    refine ⟨e, he, ?_, ne_of_fault? he⟩
    rw [ofFields_toFields_eq, he]
  · intro otherId config h
    exact hread (isWellFormed_of_ofFields h)

/-! ### A reviewed order -/

/-- A condition with all that may be left out, and some that is. -/
def reviewed : Condition where
  paths :=
    [⟨"p1", "High", [⟨"c1", "order.total", .greaterThan, some "3"⟩,
        ⟨"c2", "order.note", .isEmpty, none⟩], .or⟩,
      ⟨"else", "Else", [], .and⟩]
  variableName := some "route"
  mode := some .lenient

/-- A configuration with a key that means nothing, and in which names are written in small letters
and lists without items are left out. -/
def reviewedConfig : Fields :=
  [("comment", .null), ("mode", .text "lenient"),
    ("paths", .array
      [.object [("clauses", .array
          [.object [("id", .text "c1"), ("inputField", .text "order.total"),
              ("operator", .text ">"), ("value", .text "3")],
            .object [("id", .text "c2"), ("inputField", .text "order.note"),
              ("operator", .text "is_empty"), ("value", .null)]]),
        ("id", .text "p1"), ("logicalOperator", .text "or"), ("name", .text "High")],
      .object [("id", .text "else"), ("name", .text "Else")]]),
    ("variableName", .text "route")]

def unguarded : Condition :=
  { reviewed with paths := reviewed.paths.drop 1 }

/-- The reviewed condition is read back, also after it was read from the other configuration; with
one path only it is refused for the number of its paths. -/
theorem ofFields_toFields_reviewed :
    reviewed.IsWellFormed ∧ ofFields "gate" reviewed.toFields = .ok reviewed ∧
      ofFields "other" reviewedConfig = .ok reviewed ∧
      ofFields "again" reviewed.toFields = .ok reviewed ∧ ¬unguarded.IsWellFormed ∧
      ofFields "gate" unguarded.toFields =
        .error (.invalidLayout "gate" (.tooFewPaths 1)) := by
  have hconfig : ofFields "other" reviewedConfig = .ok reviewed := rfl
  have hwellFormed : reviewed.IsWellFormed := isWellFormed_of_ofFields hconfig
  have hill : ¬unguarded.IsWellFormed := fun h ↦ absurd h.two_le_length (by decide)
  obtain ⟨e, he, hread, -⟩ := (ofFields_toFields "gate" unguarded).2.1 hill
  cases he
  exact ⟨hwellFormed, (ofFields_toFields "gate" reviewed).1 hwellFormed, hconfig,
    (ofFields_toFields "again" reviewed).2.2 "other" reviewedConfig hconfig, hill, hread⟩

end Condition

end FlowRouting
