import FlowRouting.Json.Decoding
import FlowRouting.Proofs.Value.Json

/-!
# Records that were written

A decoder puts the members of an object into a blank record, one after the other. `Shape.Puts`
follows it through members that each have a field of their own: if their keys differ and no required
field is left out, then what the members lead to is what is decoded. In the other direction, a
property of the blank record that no field destroys is one of every record that was decoded, and
each of its fields has taken what is in its place, be it under a key or among the items of a list.
-/

namespace FlowRouting.Json

variable {α β γ : Type} {source inner : Source}

/-! ## Fields -/

/-- The key of the member that has this value can be read. -/
def HasKey : Json → Prop
  | .flawedKey _ => False
  | _ => True

theorem HasKey.ne {j : Json} (h : j.HasKey) (flaw : Flaw) : j ≠ .flawedKey flaw := by
  rintro rfl
  exact h

theorem Field.put_required_eq_ok {key : String} {decode : Decoder β} {set : β → α → α} {j : Json}
    {x : β} (h : decode source j = .ok x) (a : α) :
    (Field.required key decode set).put source j a = .ok (set x a) :=
  map_eq_ok_iff.mpr ⟨x, h, rfl⟩

theorem Field.put_withDefault_eq_ok {key : String} {decode : Decoder β} {set : β → α → α}
    {j : Json} {x : β} (h : decode source j = .ok x) (a : α) :
    (Field.withDefault key decode set).put source j a = .ok (set x a) :=
  map_eq_ok_iff.mpr ⟨x, h, rfl⟩

/-! ## Decoders of data that are no records -/

theorem Decoder.optional_eq_ok {decode : Decoder β} {j : Json} {x : β} (hj : j ≠ .null)
    (h : decode source j = .ok x) : optional decode source j = .ok (some x) := by
  rw [optional.eq_2 _ _ _ hj, h]
  rfl

theorem Decoder.variant_eq_ok {variants : List (String × β)} {name : String} {x : β}
    (h : variants.lookup name = some x) : variant variants source (.string name) = .ok x := by
  rw [variant, variantNamed, h]

theorem Decoder.list_map_eq_ok {decode : Decoder α} {write : α → Json} {xs : List α}
    (hinner : source.inner = .ok inner) (h : ∀ x ∈ xs, decode inner (write x) = .ok x) :
    list decode source (.array (xs.map write)) = .ok xs := by
  rw [list]
  refine bind_eq_ok_iff.mpr ⟨inner, hinner, ?_⟩
  rw [mapM_eq_ok_iff, List.forall₂_map_left_iff, List.forall₂_same]
  exact h

theorem Decoder.exists_of_list_tree {decode : Decoder α} {items : List Value} {xs : List α}
    (h : list decode .tree (Value.array items).toJson = .ok xs) {item : Value}
    (hitem : item ∈ items) : ∃ x, decode .tree item.toJson = .ok x := by
  rw [Value.toJson, Value.itemsToJson_eq_map] at h
  have hitems : (items.map Value.toJson).mapM (decode .tree) = .ok xs := h
  obtain ⟨x, -, hx⟩ := exists_of_mapM_eq_ok hitems (List.mem_map_of_mem hitem)
  exact ⟨x, hx⟩

/-- Everything in a list that was decoded comes of an item, one level down. -/
theorem Decoder.exists_of_list {decode : Decoder α} {j : Json} {xs : List α}
    (h : list decode source j = .ok xs) :
    ∃ inner, source.inner = .ok inner ∧ ∀ x ∈ xs, ∃ item, decode inner item = .ok x := by
  cases j with
  | array items =>
    obtain ⟨inner, hinner, h⟩ := bind_eq_ok_iff.mp h
    refine ⟨inner, hinner, fun x hx ↦ ?_⟩
    obtain ⟨item, -, hitem⟩ := exists_of_mem_mapM h hx
    exact ⟨item, hitem⟩
  | _ => cases h

namespace Shape

variable {shape : Shape α} {members : List (String × Json)} {a b c : α}

/-! ## From members to a record -/

private theorem putMembers_cons_of_field {key : String} {j : Json} {field : Field α}
    {seen : List String} (hj : j.HasKey) (hfield : shape.field? key = some field)
    (hseen : key ∉ seen) (hput : field.put source j a = .ok b) :
    shape.putMembers source ((key, j) :: members) seen a =
      shape.putMembers source members (key :: seen) b := by
  have hfresh : seen.contains key = false := by
    rw [List.contains_eq_mem, decide_eq_false_iff_not]
    exact hseen
  rw [putMembers.eq_3 _ _ _ _ _ _ _ hj.ne]
  simp only [hfield, hfresh, hput]
  rfl

/-- A member that is read is either passed over, and then no field has its key, or put into the
record. -/
theorem putMembers_cons_cases {key : String} {j : Json} {seen seen' : List String}
    (h : shape.putMembers source ((key, j) :: members) seen a = .ok (seen', c)) :
    shape.field? key = none ∧ shape.putMembers source members seen a = .ok (seen', c) ∨
      ∃ field ∈ shape.fields, field.key = key ∧ ∃ b, field.put source j a = .ok b ∧
        shape.putMembers source members (key :: seen) b = .ok (seen', c) := by
  -- A key that cannot be read stops the reading.
  by_cases hj : ∃ flaw, j = .flawedKey flaw
  · obtain ⟨flaw, rfl⟩ := hj
    cases h
  · rw [putMembers.eq_3 _ _ _ _ _ _ _ fun flaw hflaw ↦ hj ⟨flaw, hflaw⟩] at h
    cases hfield : shape.field? key with
    | none =>
      simp only [hfield] at h
      cases hskip : j.skip? with
      | none =>
        rw [hskip] at h
        exact .inl ⟨rfl, h⟩
      | some fault =>
        rw [hskip] at h
        cases h
    | some field =>
      simp only [hfield] at h
      by_cases hseen : seen.contains key = true
      · rw [if_pos hseen] at h
        cases h
      · rw [if_neg hseen] at h
        obtain ⟨b, hput, h⟩ := bind_eq_ok_iff.mp h
        have hkey : field.key = key := by simpa using List.find?_some hfield
        exact .inr ⟨field, List.mem_of_find?_eq_some hfield, hkey, b, hput, h⟩

/-- No two fields of a record have the same key. -/
def HasDistinctKeys (shape : Shape α) : Prop :=
  (shape.fields.map Field.key).Nodup

theorem HasDistinctKeys.field?_key (h : shape.HasDistinctKeys) {field : Field α}
    (hfield : field ∈ shape.fields) : shape.field? field.key = some field := by
  obtain ⟨found, hfound⟩ : ∃ found, shape.field? field.key = some found := by
    rw [← Option.isSome_iff_exists, field?, List.find?_isSome]
    exact ⟨field, hfield, beq_self_eq_true _⟩
  have hkey : found.key = field.key := by simpa using List.find?_some hfound
  rw [hfound, List.inj_on_of_nodup_map h (List.mem_of_find?_eq_some hfound) hfield hkey]

/-- Putting members into a record one after the other leads to another record. Each of the members
belongs to one of the fields, which is given by its place. -/
inductive Puts (shape : Shape α) (source : Source) : List (String × Json) → α → α → Prop where
  | nil {a : α} : Puts shape source [] a a
  | cons {key : String} {j : Json} {members : List (String × Json)} {field : Field α} {a b c : α}
      (place : Nat) (hfield : shape.fields[place]? = some field) (hkey : field.key = key)
      (hj : j.HasKey) (hput : field.put source j a = .ok b)
      (h : Puts shape source members b c) : Puts shape source ((key, j) :: members) a c

namespace Puts

theorem append {behind : List (String × Json)} (h : Puts shape source members a b)
    (hbehind : Puts shape source behind b c) : Puts shape source (members ++ behind) a c := by
  induction h with
  | nil => exact hbehind
  | cons place hfield hkey hj hput _ ih => exact .cons place hfield hkey hj hput (ih hbehind)

/-- A text that is left out if there is nothing to write is read as what there was. -/
theorem optional {key : String} {decode : Decoder β} {set : Option β → α → α} (write : β → String)
    (o : Option β) (place : Nat)
    (hfield : shape.fields[place]? = some (.withDefault key (.optional decode) set))
    (hread : ∀ x, decode source (.string (write x)) = .ok x) (hnone : set none a = a)
    (hset : set o a = b) :
    Puts shape source (o.toList.map fun x ↦ (key, .string (write x))) a b := by
  subst hset
  cases o with
  | none =>
    rw [hnone]
    exact .nil
  | some x =>
    have hnull : Json.string (write x) ≠ .null := Json.noConfusion
    exact .cons place hfield rfl trivial
      (Field.put_withDefault_eq_ok (Decoder.optional_eq_ok hnull (hread x)) a) .nil

theorem putMembers_eq (h : Puts shape source members a c) (hkeys : shape.HasDistinctKeys)
    {seen : List String} (hnodup : (members.map Prod.fst).Nodup)
    (hseen : ∀ key ∈ members.map Prod.fst, key ∉ seen) :
    shape.putMembers source members seen a = .ok ((members.map Prod.fst).reverse ++ seen, c) := by
  induction h generalizing seen with
  | nil => rfl
  | @cons key j members field a b c place hfield hkey hj hput h ih =>
    rw [List.map_cons, List.nodup_cons] at hnodup
    obtain ⟨hfresh, hseen⟩ := List.forall_mem_cons.mp hseen
    -- A field is looked up by its key, and no other field has the same.
    have hfound : shape.field? key = some field :=
      hkey ▸ hkeys.field?_key (List.mem_of_getElem? hfield)
    have hbelow : ∀ k ∈ members.map Prod.fst, k ∉ key :: seen := by
      intro k hk hmem
      rcases List.mem_cons.mp hmem with rfl | hmem
      · exact hnodup.1 hk
      · exact hseen k hk hmem
    rw [putMembers_cons_of_field hj hfound hfresh hput, ih hnodup.2 hbelow, List.map_cons,
      List.reverse_cons, List.append_assoc, List.singleton_append]

end Puts

/-- The required fields of a record are among the keys of some members. -/
def Covers (shape : Shape α) (members : List (String × Json)) : Prop :=
  ∀ field ∈ shape.fields, field.isRequired = true → field.key ∈ members.map Prod.fst

/-- What the members of an object lead to is decoded, if no key comes twice and every required field
is there. -/
theorem Puts.ofMembers_eq (h : Puts shape source members shape.blank c)
    (hkeys : shape.HasDistinctKeys) (hnodup : (members.map Prod.fst).Nodup)
    (hcovers : shape.Covers members) : shape.ofMembers source members = .ok c := by
  have hfound : (shape.fields.find? fun field ↦
      field.isRequired && !((members.map Prod.fst).reverse ++ []).contains field.key) = none := by
    rw [List.find?_eq_none]
    intro field hfield hmissing
    simp only [Bool.and_eq_true, Bool.not_eq_true', List.append_nil, List.contains_eq_mem,
      List.mem_reverse, decide_eq_false_iff_not] at hmissing
    exact hmissing.2 (hcovers field hfield hmissing.1)
  rw [ofMembers, h.putMembers_eq hkeys hnodup fun _ _ ↦ List.not_mem_nil]
  simp only [bind, Except.bind, hfound]
  rfl

theorem Puts.decode_text_eq {levels : Nat} (h : Puts shape (.text levels) members shape.blank c)
    (hkeys : shape.HasDistinctKeys) (hnodup : (members.map Prod.fst).Nodup)
    (hcovers : shape.Covers members) :
    shape.decode (.text (levels + 1)) (.object members) = .ok c :=
  h.ofMembers_eq hkeys hnodup hcovers

/-- The members of a tree come in key order, as those of a dictionary of values do. -/
theorem Puts.decode_tree_eq {fields : Fields} (hsorted : Dict.Sorted fields)
    (h : Puts shape .tree (fields.map fun f ↦ (f.1, f.2.toJson)) shape.blank c)
    (hkeys : shape.HasDistinctKeys)
    (hcovers : shape.Covers (fields.map fun f ↦ (f.1, f.2.toJson))) :
    shape.decode .tree (Value.object fields).toJson = .ok c := by
  -- A tree is sorted once more before it is read, which changes nothing here.
  have hmembers : Dict.Sorted (fields.map fun f ↦ (f.1, f.2.toJson)) :=
    List.pairwise_map.mpr hsorted
  rw [Value.toJson, Value.fieldsToJson_eq_map]
  show shape.ofMembers .tree (Dict.ofList _) = .ok c
  rw [hmembers.ofList_eq]
  exact h.ofMembers_eq hkeys hmembers.nodup_keys hcovers

/-! ## From a record that was decoded -/

/-- Fields keep a property of records. -/
def Keeps (shape : Shape α) (source : Source) (p : α → Prop) : Prop :=
  ∀ field ∈ shape.fields, ∀ j a b, p a → field.put source j a = .ok b → p b

variable {p : α → Prop}

theorem Keeps.of_putMembers (hkeeps : shape.Keeps source p) {seen seen' : List String} (ha : p a)
    (h : shape.putMembers source members seen a = .ok (seen', b)) : p b := by
  induction members generalizing seen a with
  | nil =>
    cases h
    exact ha
  | cons m members ih =>
    rcases putMembers_cons_cases h with ⟨-, h⟩ | ⟨field, hfield, -, a', hput, h⟩
    · exact ih ha h
    · exact ih (hkeeps field hfield m.2 a a' ha hput) h

theorem Keeps.of_putItems (hkeeps : shape.Keeps source p) {fields : List (Field α)}
    (hfields : ∀ field ∈ fields, field ∈ shape.fields) {items rest : List Json} (ha : p a)
    (h : shape.putItems source fields items a = .ok (rest, b)) : p b := by
  induction fields generalizing items a with
  | nil =>
    cases h
    exact ha
  | cons field fields ih =>
    obtain ⟨hfield, hfields⟩ := List.forall_mem_cons.mp hfields
    cases items with
    | nil =>
      rw [putItems] at h
      split at h
      · cases h
      · exact ih hfields ha h
    | cons item items =>
      obtain ⟨a', hput, h⟩ := bind_eq_ok_iff.mp h
      exact ih hfields (hkeeps field hfield item a a' ha hput) h

/-- What a blank record has and fields keep, every record has that is decoded from an object or from
a list. -/
theorem Keeps.of_decode (hblank : p shape.blank)
    (hkeeps : ∀ inner, source.inner = .ok inner → shape.Keeps inner p) {j : Json}
    (h : shape.decode source j = .ok a) : p a := by
  cases j with
  | object members =>
    obtain ⟨inner, hinner, h⟩ := bind_eq_ok_iff.mp h
    have hmembers : ∃ members, shape.ofMembers inner members = .ok a := by
      cases inner with
      | text levels => exact ⟨_, h⟩
      | tree => exact ⟨_, h⟩
    obtain ⟨members, hmembers⟩ := hmembers
    obtain ⟨⟨seen, b⟩, hput, h⟩ := bind_eq_ok_iff.mp hmembers
    simp only at h
    split at h
    · cases h
    · cases h
      exact (hkeeps inner hinner).of_putMembers hblank hput
  | array items =>
    obtain ⟨inner, hinner, h⟩ := bind_eq_ok_iff.mp h
    obtain ⟨⟨rest, b⟩, hput, h⟩ := bind_eq_ok_iff.mp h
    simp only at h
    split at h
    · cases h
    · cases h
      exact (hkeeps inner hinner).of_putItems (fun _ hfield ↦ hfield) hblank hput
  | _ => cases h

/-! ### What the member under one key says -/

/-- Of the fields of a record, the one with this key sets a part of it to what its member says, and
the others leave this part as it is. -/
structure Sets (shape : Shape α) (source : Source) (key : String) (part : α → γ)
    (read : Json → γ) : Prop where
  key_mem : ∃ field ∈ shape.fields, field.key = key
  part_eq : ∀ field ∈ shape.fields, ∀ j a b, field.put source j a = .ok b →
    part b = if field.key = key then read j else part a

variable {key : String} {part : α → γ} {read : Json → γ}

theorem Sets.of_putMembers (hsets : shape.Sets source key part read) {seen seen' : List String}
    (hnodup : (members.map Prod.fst).Nodup)
    (h : shape.putMembers source members seen a = .ok (seen', c)) :
    part c = (Dict.get? members key).elim (part a) read := by
  induction members generalizing seen a with
  | nil =>
    cases h
    rfl
  | cons m members ih =>
    obtain ⟨k, j⟩ := m
    rw [List.map_cons, List.nodup_cons] at hnodup
    rcases putMembers_cons_cases h with ⟨hpassed, h⟩ | ⟨field, hfield, rfl, b, hput, h⟩
    · have hne : k ≠ key := by
        rintro rfl
        obtain ⟨field, hfield, rfl⟩ := hsets.key_mem
        exact List.find?_eq_none.mp hpassed field hfield (beq_self_eq_true _)
      rw [ih hnodup.2 h, Dict.get?, if_neg hne]
    · rw [ih hnodup.2 h, hsets.part_eq field hfield j a b hput, Dict.get?]
      by_cases hkey : field.key = key
      · -- No later member has the same key.
        have hlater : Dict.get? members key = none := by
          rw [← hkey, ← Option.not_isSome_iff_eq_none, ← Dict.mem_keys_iff]
          exact hnodup.1
        rw [hlater, if_pos hkey, if_pos hkey]
        rfl
      · rw [if_neg hkey, if_neg hkey]

private theorem exists_putMembers_of_decode_tree {fields : Fields} (hsorted : Dict.Sorted fields)
    (h : shape.decode .tree (Value.object fields).toJson = .ok c) :
    ∃ seen, shape.putMembers .tree (fields.map fun f ↦ (f.1, f.2.toJson)) [] shape.blank =
      .ok (seen, c) := by
  have hmembers : Dict.Sorted (fields.map fun f ↦ (f.1, f.2.toJson)) :=
    List.pairwise_map.mpr hsorted
  rw [Value.toJson, Value.fieldsToJson_eq_map] at h
  change shape.ofMembers .tree (Dict.ofList _) = .ok c at h
  rw [hmembers.ofList_eq] at h
  obtain ⟨⟨seen, b⟩, hput, h⟩ := bind_eq_ok_iff.mp h
  simp only at h
  split at h
  · cases h
  · cases h
    exact ⟨seen, hput⟩

/-- In a record of values that was decoded, a part that a single field sets is what the value under
its key says. -/
theorem Sets.of_decode_tree (hsets : shape.Sets .tree key part read) {fields : Fields}
    (hsorted : Dict.Sorted fields)
    (h : shape.decode .tree (Value.object fields).toJson = .ok c) :
    part c = (Dict.get? fields key).elim (part shape.blank) fun v ↦ read v.toJson := by
  have hmembers : Dict.Sorted (fields.map fun f ↦ (f.1, f.2.toJson)) :=
    List.pairwise_map.mpr hsorted
  obtain ⟨seen, hput⟩ := exists_putMembers_of_decode_tree hsorted h
  rw [hsets.of_putMembers hmembers.nodup_keys hput, Dict.get?_map, Option.elim_map]
  rfl

/-! ### What is in the place of a field -/

/-- What a value has in the place of a field of a record: what is under the key of the field in an
object, and in a list what comes where the field comes among the others. -/
def entry? (shape : Shape α) (key : String) : Value → Option Value
  | .object fields => Dict.get? fields key
  | .array items => items[(shape.fields.map Field.key).idxOf key]?
  | _ => none

theorem isOrdered_of_entry? {v u : Value} (hordered : v.IsOrdered)
    (hentry : shape.entry? key v = some u) : u.IsOrdered := by
  cases hordered with
  | object _ hfields => exact hfields _ (Dict.mem_of_get? hentry)
  | array hitems => exact hitems _ (List.mem_of_getElem? hentry)
  | null | bool | number | text => cases hentry

section Put

variable {field : Field α}

theorem HasDistinctKeys.getElem?_idxOf (hkeys : shape.HasDistinctKeys)
    (hfield : field ∈ shape.fields) :
    shape.fields[(shape.fields.map Field.key).idxOf field.key]? = some field := by
  have hplace := List.getElem?_idxOf (List.mem_map_of_mem (f := Field.key) hfield)
  rw [List.getElem?_map] at hplace
  obtain ⟨found, hfound, hkey⟩ := Option.map_eq_some_iff.mp hplace
  rw [hfound, List.inj_on_of_nodup_map hkeys (List.mem_of_getElem? hfound) hfield hkey]

private theorem exists_put_of_putMembers (hkeys : shape.HasDistinctKeys)
    (hfield : field ∈ shape.fields) {seen seen' : List String}
    (h : shape.putMembers source members seen a = .ok (seen', c)) {j : Json}
    (hmem : (field.key, j) ∈ members) : ∃ a b, field.put source j a = .ok b := by
  induction members generalizing seen a with
  | nil => exact absurd hmem List.not_mem_nil
  | cons m members ih =>
    rcases putMembers_cons_cases h with ⟨hpassed, h⟩ | ⟨found, hfound, hkey, b, hput, h⟩
    · rcases List.mem_cons.mp hmem with rfl | hmem
      · rw [hkeys.field?_key hfield] at hpassed
        cases hpassed
      · exact ih h hmem
    · rcases List.mem_cons.mp hmem with rfl | hmem
      · rw [List.inj_on_of_nodup_map hkeys hfound hfield hkey] at hput
        exact ⟨a, b, hput⟩
      · exact ih h hmem

private theorem exists_put_of_putItems {fields : List (Field α)} {items rest : List Json}
    (h : shape.putItems source fields items a = .ok (rest, c)) {place : Nat} {j : Json}
    (hfield : fields[place]? = some field) (hitem : items[place]? = some j) :
    ∃ a b, field.put source j a = .ok b := by
  induction fields generalizing items a place with
  | nil => cases hfield
  | cons first fields ih =>
    cases items with
    | nil => cases hitem
    | cons item items =>
      obtain ⟨b, hput, h⟩ := bind_eq_ok_iff.mp h
      cases place with
      | zero =>
        cases hfield
        cases hitem
        exact ⟨a, b, hput⟩
      | succ place => exact ih h hfield hitem

/-- In a value that was decoded, what is in the place of a field has been put into the record by the
field. -/
theorem exists_put_of_decode_tree (hkeys : shape.HasDistinctKeys) (hfield : field ∈ shape.fields)
    {v u : Value} (hordered : v.IsOrdered) (h : shape.decode .tree v.toJson = .ok c)
    (hentry : shape.entry? field.key v = some u) : ∃ a b, field.put .tree u.toJson a = .ok b := by
  cases hordered with
  | @object fields hsorted _ =>
    obtain ⟨seen, hput⟩ := exists_putMembers_of_decode_tree hsorted h
    exact exists_put_of_putMembers hkeys hfield hput
      (List.mem_map_of_mem (f := fun f ↦ (f.1, f.2.toJson)) (Dict.mem_of_get? hentry))
  | @array items _ =>
    rw [Value.toJson, Value.itemsToJson_eq_map] at h
    change shape.ofItems .tree (items.map Value.toJson) = .ok c at h
    obtain ⟨⟨rest, b⟩, hput, -⟩ := bind_eq_ok_iff.mp h
    refine exists_put_of_putItems hput (hkeys.getElem?_idxOf hfield) ?_
    have hitem : items[(shape.fields.map Field.key).idxOf field.key]? = some u := hentry
    rw [List.getElem?_map, hitem, Option.map_some]
  | null | bool | number | text => cases hentry

end Put

end Shape

end FlowRouting.Json
