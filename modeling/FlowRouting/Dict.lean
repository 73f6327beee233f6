/-!
# Dictionaries in key order

Records, node configurations and node outputs are dictionaries whose keys come out in the order of
their code points. A dictionary is the list of its entries in strictly increasing key order, so
two dictionaries with the same entries are the same list.

The order is not part of the type, because values nest dictionaries of values. `Dict.Sorted` states
it, `Dict.insert` keeps it, and every dictionary of the library is built by `Dict.insert`.
-/

namespace FlowRouting

/-- Entries under keys. -/
abbrev Dict (α : Type u) := List (String × α)

namespace Dict

variable {α : Type u}

/-- The keys stand in strictly increasing order. -/
def Sorted (d : Dict α) : Prop :=
  d.Pairwise fun a b ↦ a.1 < b.1

/-- The entry under a key. -/
def get? (d : Dict α) (key : String) : Option α :=
  match d with
  | [] => none
  | (k, v) :: rest => if k = key then some v else get? rest key

/-- Puts a value under a key, in place of the value that was there. -/
def insert (d : Dict α) (key : String) (value : α) : Dict α :=
  match d with
  | [] => [(key, value)]
  | (k, v) :: rest =>
    if key < k then (key, value) :: (k, v) :: rest
    else if key = k then (key, value) :: rest
    else (k, v) :: insert rest key value

def keys (d : Dict α) : List String :=
  d.map Prod.fst

def contains (d : Dict α) (key : String) : Bool :=
  (d.get? key).isSome

/-- The dictionary of a list of entries, of which a later one wins. -/
def ofList (entries : List (String × α)) : Dict α :=
  entries.foldl (fun d e ↦ d.insert e.1 e.2) []

/-- The dictionary with all entries of a second one put into it. -/
def extend (d e : Dict α) : Dict α :=
  e.foldl (fun d e ↦ d.insert e.1 e.2) d

/-! ## What insertion does -/

@[simp] theorem get?_nil (key : String) : get? ([] : Dict α) key = none := rfl

theorem get?_insert (d : Dict α) (key : String) (value : α) (k : String) :
    (d.insert key value).get? k = if key = k then some value else d.get? k := by
  induction d with
  | nil => rfl
  | cons e rest ih =>
    obtain ⟨k', v⟩ := e
    simp only [insert]
    split
    · rfl
    · split
      · next heq =>
        subst heq
        simp only [get?]
        split <;> rfl
      · next hne =>
        simp only [get?, ih]
        split
        · next hk =>
          subst hk
          simp [hne]
        · rfl

theorem mem_insert {d : Dict α} {key : String} {value : α} {e : String × α}
    (h : e ∈ d.insert key value) : e = (key, value) ∨ e ∈ d := by
  induction d with
  | nil => simpa [insert] using h
  | cons a rest ih =>
    simp only [insert] at h
    split at h
    · simpa using h
    · split at h
      · rcases List.mem_cons.1 h with h | h
        · exact .inl h
        · exact .inr (List.mem_cons_of_mem _ h)
      · rcases List.mem_cons.1 h with h | h
        · exact .inr (h ▸ List.mem_cons_self)
        · exact (ih h).imp_right (List.mem_cons_of_mem _)

theorem sorted_insert {d : Dict α} (h : d.Sorted) (key : String) (value : α) :
    (d.insert key value).Sorted := by
  induction d with
  | nil => exact List.pairwise_singleton _ _
  | cons a rest ih =>
    have hrest := List.pairwise_cons.1 h
    simp only [insert]
    split
    · next hlt =>
      refine List.pairwise_cons.2 ⟨fun e he ↦ ?_, h⟩
      rcases List.mem_cons.1 he with rfl | he
      · exact hlt
      · exact String.lt_trans hlt (hrest.1 e he)
    · next hnlt =>
      split
      · next heq =>
        exact List.pairwise_cons.2 ⟨fun e he ↦ heq ▸ hrest.1 e he, hrest.2⟩
      · next hne =>
        refine List.pairwise_cons.2 ⟨fun e he ↦ ?_, ih hrest.2⟩
        rcases mem_insert he with rfl | he
        · exact Decidable.byContradiction fun hn ↦ hne (String.le_antisymm hn hnlt)
        · exact hrest.1 e he

theorem sorted_extend {d : Dict α} (h : d.Sorted) (e : Dict α) : (d.extend e).Sorted := by
  induction e generalizing d with
  | nil => exact h
  | cons a rest ih => exact ih (sorted_insert h a.1 a.2)

theorem sorted_ofList (entries : List (String × α)) : (ofList entries).Sorted :=
  sorted_extend List.Pairwise.nil entries

theorem ofList_append (a b : List (String × α)) : ofList (a ++ b) = (ofList a).extend b := by
  rw [ofList, List.foldl_append, ← ofList, ← extend]

theorem get?_extend_of_notMem {d e : Dict α} {key : String} (h : key ∉ e.keys) :
    (d.extend e).get? key = d.get? key := by
  induction e generalizing d with
  | nil => rfl
  | cons a rest ih =>
    rw [keys, List.map_cons, List.mem_cons, not_or] at h
    rw [extend, List.foldl_cons, ← extend, ih h.2, get?_insert, if_neg (Ne.symm h.1)]

theorem mem_keys_iff {d : Dict α} {key : String} : key ∈ d.keys ↔ (d.get? key).isSome := by
  induction d with
  | nil => simp [keys]
  | cons a rest ih =>
    simp only [keys, List.map_cons, List.mem_cons, get?] at ih ⊢
    split
    · next h => simp [h]
    · next h => simp [ih, Ne.symm h]

end Dict

end FlowRouting
