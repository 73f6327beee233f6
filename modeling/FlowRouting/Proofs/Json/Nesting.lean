import FlowRouting.Json.Basic

/-!
# How deep documents nest

Readers bound the nesting of what they read, so what was written is read back only if it nests no
deeper than they go. Documents nest lists of documents, and induction over them has one case for
every form, with the hypothesis for all items or members at once.
-/

namespace FlowRouting.Json

theorem induct {p : Json → Prop} (null : p .null) (bool : ∀ b, p (.bool b))
    (number : ∀ n, p (.number n)) (string : ∀ s, p (.string s))
    (array : ∀ items, (∀ item ∈ items, p item) → p (.array items))
    (object : ∀ members, (∀ m ∈ members, p m.2) → p (.object members))
    (flawed : ∀ flaw, p (.flawed flaw)) (flawedKey : ∀ flaw, p (.flawedKey flaw)) (j : Json) :
    p j :=
  @Json.rec p (fun items ↦ ∀ item ∈ items, p item) (fun members ↦ ∀ m ∈ members, p m.2)
    (fun m ↦ p m.2) null bool number string array object flawed flawedKey
    (List.forall_mem_nil _)
    (fun _ _ hitem hitems ↦ List.forall_mem_cons.mpr ⟨hitem, hitems⟩)
    (List.forall_mem_nil _)
    (fun _ _ hmember hmembers ↦ List.forall_mem_cons.mpr ⟨hmember, hmembers⟩)
    (fun _ _ hvalue ↦ hvalue) j

mutual

/-- The number of levels to which a document nests lists and objects. -/
def depth : Json → Nat
  | .array items => itemsDepth items + 1
  | .object members => membersDepth members + 1
  | _ => 0

def itemsDepth : List Json → Nat
  | [] => 0
  | item :: items => max item.depth (itemsDepth items)

def membersDepth : List (String × Json) → Nat
  | [] => 0
  | (_, value) :: members => max value.depth (membersDepth members)

end

private theorem itemsDepth_le_iff {items : List Json} {n : Nat} :
    itemsDepth items ≤ n ↔ ∀ item ∈ items, item.depth ≤ n := by
  induction items with
  | nil => simp [itemsDepth]
  | cons item items ih => rw [itemsDepth, Nat.max_le, List.forall_mem_cons, ih]

private theorem membersDepth_le_iff {members : List (String × Json)} {n : Nat} :
    membersDepth members ≤ n ↔ ∀ m ∈ members, m.2.depth ≤ n := by
  induction members with
  | nil => simp [membersDepth]
  | cons m members ih => rw [membersDepth, Nat.max_le, List.forall_mem_cons, ih]

theorem depth_array_le_iff {items : List Json} {n : Nat} :
    (Json.array items).depth ≤ n ↔ 0 < n ∧ ∀ item ∈ items, item.depth ≤ n - 1 := by
  rw [depth, ← itemsDepth_le_iff]
  omega

theorem depth_object_le_iff {members : List (String × Json)} {n : Nat} :
    (Json.object members).depth ≤ n ↔ 0 < n ∧ ∀ m ∈ members, m.2.depth ≤ n - 1 := by
  rw [depth, ← membersDepth_le_iff]
  omega

end FlowRouting.Json
