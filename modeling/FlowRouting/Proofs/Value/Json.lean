import FlowRouting.Proofs.Dict
import FlowRouting.Proofs.Fallible
import FlowRouting.Proofs.Json.Documents
import FlowRouting.Proofs.Json.Nesting
import FlowRouting.Proofs.Number.Integers
import FlowRouting.Value.Json

/-!
# Values that were written

A value whose numbers are small integers has a plain document, and of its document nothing is lost:
an integer is written with all its digits, and the keys of a record come in their order, in which
they are put back. So the value is read back, provided that it nests no deeper than reading goes.

What is read is never deeper than that, and its records have their keys in order whatever the order
of the text; so of a value that was read only the numbers are in question.
-/

namespace FlowRouting.Value

private theorem induct {p : Value → Prop} (null : p .null) (bool : ∀ b, p (.bool b))
    (number : ∀ x, p (.number x)) (text : ∀ s, p (.text s))
    (array : ∀ items, (∀ item ∈ items, p item) → p (.array items))
    (object : ∀ fields, (∀ f ∈ fields, p f.2) → p (.object fields)) (v : Value) : p v :=
  @Value.rec p (fun items ↦ ∀ item ∈ items, p item) (fun fields ↦ ∀ f ∈ fields, p f.2)
    (fun f ↦ p f.2) null bool number text array object
    (List.forall_mem_nil _)
    (fun _ _ hitem hitems ↦ List.forall_mem_cons.mpr ⟨hitem, hitems⟩)
    (List.forall_mem_nil _)
    (fun _ _ hfield hfields ↦ List.forall_mem_cons.mpr ⟨hfield, hfields⟩)
    (fun _ _ hvalue ↦ hvalue) v

/-- The records in a value are dictionaries. -/
inductive IsOrdered : Value → Prop where
  | null : IsOrdered .null
  | bool (b : Bool) : IsOrdered (.bool b)
  | number (x : Number) : IsOrdered (.number x)
  | text (s : String) : IsOrdered (.text s)
  | array {items : List Value} (h : ∀ item ∈ items, IsOrdered item) : IsOrdered (.array items)
  | object {fields : List (String × Value)} (hsorted : Dict.Sorted fields)
      (h : ∀ f ∈ fields, IsOrdered f.2) : IsOrdered (.object fields)

/-- The numbers in a value are integers below `10¹⁵` in magnitude. -/
inductive IsIntegral : Value → Prop where
  | null : IsIntegral .null
  | bool (b : Bool) : IsIntegral (.bool b)
  | number {x : Number} {n : Int} (h : x.smallInt? = some n) : IsIntegral (.number x)
  | text (s : String) : IsIntegral (.text s)
  | array {items : List Value} (h : ∀ item ∈ items, IsIntegral item) : IsIntegral (.array items)
  | object {fields : List (String × Value)} (h : ∀ f ∈ fields, IsIntegral f.2) :
      IsIntegral (.object fields)

theorem isOrdered_object_nil : IsOrdered (.object []) :=
  .object List.Pairwise.nil (List.forall_mem_nil _)

theorem isIntegral_object_nil : IsIntegral (.object []) :=
  .object (List.forall_mem_nil _)

/-! ## Lists and records at once -/

theorem itemsToJson_eq_map (items : List Value) : itemsToJson items = items.map toJson := by
  induction items with
  | nil => rfl
  | cons item items ih => rw [itemsToJson, ih, List.map_cons]

theorem fieldsToJson_eq_map (fields : List (String × Value)) :
    fieldsToJson fields = fields.map fun f ↦ (f.1, f.2.toJson) := by
  induction fields with
  | nil => rfl
  | cons f fields ih => rw [fieldsToJson, ih, List.map_cons]

private theorem itemsOfJson_eq_mapM (levels : Option Nat) (items : List Json) :
    itemsOfJson levels items = items.mapM (ofJson levels) := by
  induction items with
  | nil => rfl
  | cons item items ih =>
    rw [itemsOfJson, List.mapM_cons, ih]

private theorem fieldsOfJson_eq_mapM (levels : Option Nat) (members : List (String × Json)) :
    fieldsOfJson levels members =
      members.mapM fun m ↦ (ofJson levels m.2).map fun v ↦ (m.1, v) := by
  induction members with
  | nil => rfl
  | cons m members ih =>
    rw [fieldsOfJson, List.mapM_cons, ih]
    cases ofJson levels m.2 <;> rfl

/-! ## Reading what was written -/

private theorem numberToJson_eq {x : Number} {n : Int} (h : x.smallInt? = some n) :
    x.toJson = .number (if n < 0 then .negative n.natAbs else .natural n.natAbs) := by
  simp only [Number.toJson, h]

private theorem isPlain_numberToJson {x : Number} {n : Int} (h : x.smallInt? = some n) :
    x.toJson.IsPlain := by
  have hlt := Number.natAbs_lt_of_smallInt? h
  have hbound : Nat.pow 10 15 ≤ Nat.pow 2 63 ∧ Nat.pow 2 63 ≤ Json.maxSignificand := by decide
  rw [numberToJson_eq h]
  by_cases hneg : n < 0
  · simp only [hneg, if_true]
    exact .negative (by omega) (by omega)
  · simp only [hneg, if_false]
    exact .natural (by omega)

private theorem ofJson_numberToJson {x : Number} {n : Int} (h : x.smallInt? = some n)
    (levels : Option Nat) : ofJson levels x.toJson = .ok (.number x) := by
  rw [numberToJson_eq h]
  by_cases hneg : n < 0
  · have habs : (-(n.natAbs : Int)) = n := by omega
    simp only [hneg, if_true, ofJson, Json.Numeral.toNumber, habs, Number.ofInt_of_smallInt? h]
  · have habs : (n.natAbs : Int) = n := by omega
    simp only [hneg, if_false, ofJson, Json.Numeral.toNumber, habs, Number.ofInt_of_smallInt? h]

theorem IsIntegral.isPlain_toJson {v : Value} (h : v.IsIntegral) : v.toJson.IsPlain := by
  induction h with
  | null => exact .null
  | bool b => exact .bool b
  | number h => exact isPlain_numberToJson h
  | text s => exact .string s
  | array _ ih =>
    rw [toJson, itemsToJson_eq_map]
    refine .array fun j hj ↦ ?_
    obtain ⟨item, hitem, rfl⟩ := List.mem_map.mp hj
    exact ih item hitem
  | object _ ih =>
    rw [toJson, fieldsToJson_eq_map]
    refine .object fun m hm ↦ ?_
    obtain ⟨f, hf, rfl⟩ := List.mem_map.mp hm
    exact ih f hf

private theorem descend_of_pos {n : Nat} (h : 0 < n) : descend (some n) = .ok (some (n - 1)) := by
  obtain ⟨n, rfl⟩ : ∃ m, n = m + 1 := ⟨n - 1, by omega⟩
  rfl

/-- The document of a value is read as the value, if it nests no deeper than reading goes. -/
theorem ofJson_toJson {v : Value} (hordered : v.IsOrdered) (hintegral : v.IsIntegral) {n : Nat}
    (hdepth : v.toJson.depth ≤ n) : ofJson (some n) v.toJson = .ok v := by
  induction v using induct generalizing n with
  | null => rfl
  | bool b => rfl
  | number x =>
    cases hintegral with
    | number h => exact ofJson_numberToJson h (some n)
  | text s => rfl
  | array items ih =>
    cases hordered with
    | array hordered =>
    cases hintegral with
    | array hintegral =>
    rw [toJson, itemsToJson_eq_map] at hdepth ⊢
    -- The items are read with one level less, and nest one level less.
    obtain ⟨hpos, hdepth⟩ := Json.depth_array_le_iff.mp hdepth
    have hread : (items.map toJson).mapM (ofJson (some (n - 1))) = .ok items := by
      rw [mapM_eq_ok_iff, List.forall₂_map_left_iff, List.forall₂_same]
      intro item hitem
      exact ih item hitem (hordered item hitem) (hintegral item hitem)
        (hdepth _ (List.mem_map_of_mem hitem))
    rw [ofJson, descend_of_pos hpos]
    simp only [bind, Except.bind, itemsOfJson_eq_mapM, hread, pure, Except.pure]
  | object fields ih =>
    cases hordered with
    | object hsorted hordered =>
    cases hintegral with
    | object hintegral =>
    rw [toJson, fieldsToJson_eq_map] at hdepth ⊢
    obtain ⟨hpos, hdepth⟩ := Json.depth_object_le_iff.mp hdepth
    -- The entries are put into a dictionary again, which they are already.
    have hread : fieldsOfJson (some (n - 1)) (fields.map fun f ↦ (f.1, f.2.toJson)) =
        .ok fields := by
      rw [fieldsOfJson_eq_mapM, mapM_eq_ok_iff, List.forall₂_map_left_iff, List.forall₂_same]
      intro f hf
      rw [ih f hf (hordered f hf) (hintegral f hf)
        (hdepth _ (List.mem_map_of_mem (f := fun f ↦ (f.1, f.2.toJson)) hf))]
      rfl
    rw [ofJson, descend_of_pos hpos]
    simp only [bind, Except.bind, hread, pure, Except.pure, hsorted.ofList_eq]

/-- **Values are read back.** A value whose numbers are small integers is read back from its text in
any layout, if it nests no deeper than texts may. -/
theorem parse_write {v : Value} (hordered : v.IsOrdered) (hintegral : v.IsIntegral)
    (hdepth : v.toJson.depth ≤ maxLevels) {style : Json.Style} (hstyle : style.IsBlank) :
    parse (String.ofList (v.toJson.write style 0)) = .ok v := by
  rw [parse, hintegral.isPlain_toJson.parse_write hstyle]
  simp only [ofJson_toJson hordered hintegral hdepth]
  rfl

/-! ## What was read -/

private theorem exists_of_ofJson_array {levels : Option Nat} {items : List Json} {v : Value}
    (h : ofJson levels (.array items) = .ok v) :
    ∃ below values, descend levels = .ok below ∧ v = .array values ∧
      ∀ value ∈ values, ∃ item ∈ items, ofJson below item = .ok value := by
  rw [ofJson] at h
  obtain ⟨below, hbelow, h⟩ := bind_eq_ok_iff.mp h
  obtain ⟨values, hvalues, h⟩ := bind_eq_ok_iff.mp h
  cases h
  rw [itemsOfJson_eq_mapM] at hvalues
  exact ⟨below, values, hbelow, rfl, fun _ hvalue ↦ exists_of_mem_mapM hvalues hvalue⟩

theorem exists_of_ofJson_object {levels : Option Nat} {members : List (String × Json)} {v : Value}
    (h : ofJson levels (.object members) = .ok v) :
    ∃ below fields, descend levels = .ok below ∧ v = .object fields ∧ Dict.Sorted fields ∧
      ∀ f ∈ fields, ∃ m ∈ members, ofJson below m.2 = .ok f.2 := by
  rw [ofJson] at h
  obtain ⟨below, hbelow, h⟩ := bind_eq_ok_iff.mp h
  obtain ⟨entries, hentries, h⟩ := bind_eq_ok_iff.mp h
  cases h
  rw [fieldsOfJson_eq_mapM] at hentries
  refine ⟨below, Dict.ofList entries, hbelow, rfl, Dict.sorted_ofList entries, ?_⟩
  rintro ⟨key, value⟩ hf
  obtain ⟨m, hm, hread⟩ := exists_of_mem_mapM hentries (Dict.mem_of_mem_ofList hf)
  obtain ⟨_, hvalue, heq⟩ := map_eq_ok_iff.mp hread
  cases heq
  exact ⟨m, hm, hvalue⟩

theorem isOrdered_of_ofJson {levels : Option Nat} {j : Json} {v : Value}
    (h : ofJson levels j = .ok v) : v.IsOrdered := by
  induction j using Json.induct generalizing levels v with
  | null =>
    cases h
    exact .null
  | bool b =>
    cases h
    exact .bool b
  | number n =>
    cases h
    exact .number _
  | string s =>
    cases h
    exact .text s
  | array items ih =>
    obtain ⟨below, values, -, rfl, hvalues⟩ := exists_of_ofJson_array h
    refine .array fun value hvalue ↦ ?_
    obtain ⟨item, hitem, hread⟩ := hvalues value hvalue
    exact ih item hitem hread
  | object members ih =>
    obtain ⟨below, fields, -, rfl, hsorted, hfields⟩ := exists_of_ofJson_object h
    refine .object hsorted fun f hf ↦ ?_
    obtain ⟨m, hm, hread⟩ := hfields f hf
    exact ih m hm hread
  | flawed flaw => cases h
  | flawedKey flaw => cases h

private theorem descend_eq_ok {n : Nat} {below : Option Nat} (h : descend (some n) = .ok below) :
    0 < n ∧ below = some (n - 1) := by
  cases n with
  | zero => cases h
  | succ n =>
    cases h
    exact ⟨Nat.succ_pos n, rfl⟩

private theorem depth_numberToJson (x : Number) : x.toJson.depth = 0 := by
  unfold Number.toJson
  split
  · rfl
  · split <;> rfl

/-- What is read nests no deeper than reading goes. -/
theorem depth_le_of_ofJson {n : Nat} {j : Json} {v : Value} (h : ofJson (some n) j = .ok v) :
    v.toJson.depth ≤ n := by
  induction j using Json.induct generalizing n v with
  | null | bool | string =>
    cases h
    exact Nat.zero_le n
  | number x =>
    cases h
    rw [toJson, depth_numberToJson]
    exact Nat.zero_le n
  | array items ih =>
    obtain ⟨below, values, hbelow, rfl, hvalues⟩ := exists_of_ofJson_array h
    obtain ⟨hpos, rfl⟩ := descend_eq_ok hbelow
    rw [toJson, itemsToJson_eq_map, Json.depth_array_le_iff, List.forall_mem_map]
    refine ⟨hpos, fun value hvalue ↦ ?_⟩
    obtain ⟨item, hitem, hread⟩ := hvalues value hvalue
    exact ih item hitem hread
  | object members ih =>
    obtain ⟨below, fields, hbelow, rfl, -, hfields⟩ := exists_of_ofJson_object h
    obtain ⟨hpos, rfl⟩ := descend_eq_ok hbelow
    rw [toJson, fieldsToJson_eq_map, Json.depth_object_le_iff, List.forall_mem_map]
    refine ⟨hpos, fun f hf ↦ ?_⟩
    obtain ⟨m, hm, hread⟩ := hfields f hf
    exact ih m hm hread
  | flawed flaw => cases h
  | flawedKey flaw => cases h

end FlowRouting.Value
