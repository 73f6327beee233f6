import Mathlib.Data.List.Nodup
import Mathlib.Data.List.Perm.Basic
import FlowRouting.Dict

/-!
# Dictionaries and their entries

If no two entries have the same key, then putting them into a dictionary only sorts them. As a
dictionary is sorted in one way only, it does not depend on the order in which the entries came, and
leaving out some of the keys may be done before or after.
-/

namespace FlowRouting

theorem exists_last {α : Type u} {p : α → Prop} {xs : List α} (h : ∃ x ∈ xs, p x) :
    ∃ earlier x later, xs = earlier ++ x :: later ∧ p x ∧ ∀ y ∈ later, ¬p y := by
  induction xs with
  | nil => simp at h
  | cons x xs ih =>
    by_cases hlater : ∃ y ∈ xs, p y
    · obtain ⟨earlier, y, later, rfl, hy, hnone⟩ := ih hlater
      exact ⟨x :: earlier, y, later, rfl, hy, hnone⟩
    · obtain ⟨y, hy, hp⟩ := h
      rcases List.mem_cons.mp hy with rfl | hy
      · exact ⟨[], y, xs, rfl, hp, fun z hz hpz ↦ hlater ⟨z, hz, hpz⟩⟩
      · exact absurd ⟨y, hy, hp⟩ hlater

namespace Dict

variable {α : Type u} {d e : Dict α} {entries : List (String × α)} {key : String} {value : α}

theorem mem_of_get? (h : d.get? key = some value) : (key, value) ∈ d := by
  induction d with
  | nil => cases h
  | cons a rest ih =>
    rw [get?] at h
    split at h
    · next hkey =>
      cases h
      exact hkey ▸ List.mem_cons_self
    · exact List.mem_cons_of_mem a (ih h)

/-! ## Sorted entries -/

theorem Sorted.get?_of_mem (hd : d.Sorted) (h : (key, value) ∈ d) : d.get? key = some value := by
  induction d with
  | nil => exact absurd h List.not_mem_nil
  | cons a rest ih =>
    obtain ⟨hlt, hrest⟩ := List.pairwise_cons.mp hd
    rw [get?]
    rcases List.mem_cons.mp h with rfl | h
    · rw [if_pos rfl]
    · have hne : a.1 ≠ key := fun heq ↦ String.lt_irrefl _ (heq ▸ hlt _ h)
      rw [if_neg hne, ih hrest h]

/-- A dictionary is determined by its entries. -/
theorem Sorted.eq_of_perm (hd : d.Sorted) (he : e.Sorted) (h : d.Perm e) : d = e :=
  h.eq_of_pairwise (fun _ _ _ _ hab hba ↦ absurd hba (String.lt_asymm hab)) hd he

theorem Sorted.nodup_keys (hd : d.Sorted) : (d.map Prod.fst).Nodup := by
  refine List.pairwise_map.mpr (hd.imp ?_)
  intro a b hlt heq
  rw [heq] at hlt
  exact String.lt_irrefl b.1 hlt

theorem Sorted.of_sublist_keys {keys : List String} (hkeys : keys.Pairwise (· < ·))
    (h : (d.map Prod.fst).Sublist keys) : d.Sorted :=
  List.pairwise_map.mp (hkeys.sublist h)

private theorem mem_of_mem_extend (h : (key, value) ∈ d.extend entries) :
    (key, value) ∈ d ∨ (key, value) ∈ entries := by
  induction entries generalizing d with
  | nil => exact .inl h
  | cons a entries ih =>
    rcases ih h with h | h
    · rcases mem_insert h with h | h
      · exact .inr (h ▸ List.mem_cons_self)
      · exact .inl h
    · exact .inr (List.mem_cons_of_mem a h)

theorem mem_of_mem_ofList (h : (key, value) ∈ ofList entries) : (key, value) ∈ entries :=
  (mem_of_mem_extend (d := []) h).resolve_left List.not_mem_nil

theorem mem_keys_insert {k : String} : k ∈ (d.insert key value).keys ↔ k = key ∨ k ∈ d.keys := by
  rw [mem_keys_iff, mem_keys_iff, get?_insert]
  by_cases hk : key = k
  · rw [if_pos hk]
    exact iff_of_true rfl (.inl hk.symm)
  · rw [if_neg hk]
    exact (or_iff_right (Ne.symm hk)).symm

theorem get?_map {β : Type v} (d : Dict α) (f : α → β) (key : String) :
    Dict.get? (d.map fun e ↦ (e.1, f e.2)) key = (d.get? key).map f := by
  induction d with
  | nil => rfl
  | cons e rest ih =>
    rw [List.map_cons, get?, get?, ih]
    split <;> rfl

/-! ## Entries with different keys -/

theorem perm_insert (h : key ∉ d.keys) : (d.insert key value).Perm ((key, value) :: d) := by
  induction d with
  | nil => exact .refl _
  | cons a rest ih =>
    rw [keys, List.map_cons, List.mem_cons, not_or] at h
    rw [insert]
    split
    · exact .refl _
    · rw [if_neg h.1]
      exact ((ih h.2).cons a).trans (.swap _ _ _)

private theorem perm_extend (h : ((d ++ entries).map Prod.fst).Nodup) :
    (d.extend entries).Perm (d ++ entries) := by
  induction entries generalizing d with
  | nil =>
    rw [List.append_nil]
    exact .refl _
  | cons a entries ih =>
    have hfresh : a.1 ∉ d.keys := by
      rw [List.map_append, List.map_cons, List.nodup_append] at h
      exact fun hmem ↦ h.2.2 a.1 hmem a.1 List.mem_cons_self rfl
    have hstep : (d.insert a.1 a.2 ++ entries).Perm (d ++ a :: entries) :=
      ((perm_insert hfresh).append_right entries).trans List.perm_middle.symm
    rw [extend, List.foldl_cons, ← extend]
    exact (ih ((hstep.map Prod.fst).nodup_iff.mpr h)).trans hstep

/-- Entries with different keys are the entries of their dictionary. -/
theorem perm_ofList (h : (entries.map Prod.fst).Nodup) : (ofList entries).Perm entries :=
  perm_extend (d := []) h

/-- The entries of a dictionary make it up again, in whatever order they come. -/
theorem Sorted.ofList_eq_of_perm (hd : d.Sorted) (h : entries.Perm d) : ofList entries = d :=
  (sorted_ofList entries).eq_of_perm hd
    ((perm_ofList ((h.map Prod.fst).nodup_iff.mpr hd.nodup_keys)).trans h)

theorem Sorted.ofList_eq (hd : d.Sorted) : ofList d = d :=
  hd.ofList_eq_of_perm (.refl d)

theorem get?_ofList_of_mem (h : (entries.map Prod.fst).Nodup) (hmem : (key, value) ∈ entries) :
    (ofList entries).get? key = some value :=
  (sorted_ofList entries).get?_of_mem ((perm_ofList h).mem_iff.mpr hmem)

theorem get?_extend_map (d : Dict α) (keys : List String) (f : String → α) (key : String) :
    (d.extend (keys.map fun k ↦ (k, f k))).get? key =
      if key ∈ keys then some (f key) else d.get? key := by
  induction keys generalizing d with
  | nil => rfl
  | cons k keys ih =>
    rw [List.map_cons, extend, List.foldl_cons, ← extend, ih, get?_insert]
    by_cases hkey : key ∈ keys
    · rw [if_pos hkey, if_pos (List.mem_cons_of_mem k hkey)]
    · rw [if_neg hkey]
      by_cases hk : k = key
      · rw [if_pos hk, if_pos (hk ▸ List.mem_cons_self), hk]
      · rw [if_neg hk, if_neg fun hmem ↦ (List.mem_cons.mp hmem).elim (Ne.symm hk) hkey]

theorem get?_ofList_of_notMem (h : key ∉ entries.map Prod.fst) :
    (ofList entries).get? key = none :=
  get?_extend_of_notMem (d := []) h

private theorem get?_ofList_append_cons {before after : List (String × α)}
    (h : key ∉ after.map Prod.fst) :
    (ofList (before ++ (key, value) :: after)).get? key = some value := by
  rw [ofList_append, extend, List.foldl_cons, ← extend, get?_extend_of_notMem h, get?_insert,
    if_pos rfl]

/-- Of the elements that have an entry under a key, the last one wins. -/
theorem get?_ofList_filterMap_eq_some_iff {β : Type v} {f : β → Option (String × α)}
    {xs : List β} :
    (ofList (xs.filterMap f)).get? key = some value ↔
      ∃ earlier x later, xs = earlier ++ x :: later ∧ f x = some (key, value) ∧
        ∀ y ∈ later, ∀ other, f y ≠ some (key, other) := by
  have hlast : ∀ {earlier x later v}, xs = earlier ++ x :: later → f x = some (key, v) →
      (∀ y ∈ later, ∀ other, f y ≠ some (key, other)) →
        (ofList (xs.filterMap f)).get? key = some v := by
    rintro earlier x later v rfl hx hnone
    rw [List.filterMap_append, List.filterMap_cons_some hx]
    refine get?_ofList_append_cons fun hmem ↦ ?_
    obtain ⟨⟨k, other⟩, hentry, rfl⟩ := List.mem_map.mp hmem
    obtain ⟨y, hy, hfy⟩ := List.mem_filterMap.mp hentry
    exact hnone y hy other hfy
  constructor
  · intro h
    have hkey : ∃ x ∈ xs, ∃ v, f x = some (key, v) := by
      by_contra hnone
      refine Option.some_ne_none value (h.symm.trans (get?_ofList_of_notMem fun hmem ↦ hnone ?_))
      obtain ⟨⟨k, v⟩, hentry, rfl⟩ := List.mem_map.mp hmem
      obtain ⟨x, hx, hfx⟩ := List.mem_filterMap.mp hentry
      exact ⟨x, hx, v, hfx⟩
    obtain ⟨earlier, x, later, hxs, ⟨v, hx⟩, hnone⟩ := exists_last hkey
    have hlater : ∀ y ∈ later, ∀ other, f y ≠ some (key, other) :=
      fun y hy other hfy ↦ hnone y hy ⟨other, hfy⟩
    obtain rfl : v = value := Option.some.inj ((hlast hxs hx hlater).symm.trans h)
    exact ⟨earlier, x, later, hxs, hx, hlater⟩
  · rintro ⟨earlier, x, later, hxs, hx, hnone⟩
    exact hlast hxs hx hnone

/-- The order of entries with different keys makes no difference. -/
theorem ofList_eq_of_perm {entries' : List (String × α)} (h : (entries.map Prod.fst).Nodup)
    (hperm : entries.Perm entries') : ofList entries = ofList entries' := by
  have h' : (entries'.map Prod.fst).Nodup := (hperm.map Prod.fst).nodup_iff.mp h
  exact (sorted_ofList entries).eq_of_perm (sorted_ofList entries')
    (((perm_ofList h).trans hperm).trans (perm_ofList h').symm)

theorem ofList_filter (h : (entries.map Prod.fst).Nodup) (p : String × α → Bool) :
    ofList (entries.filter p) = (ofList entries).filter p := by
  have h' : ((entries.filter p).map Prod.fst).Nodup :=
    h.sublist (List.filter_sublist.map Prod.fst)
  exact (sorted_ofList _).eq_of_perm ((sorted_ofList entries).filter p)
    ((perm_ofList h').trans ((perm_ofList h).filter p).symm)

/-! ## Taking entries out -/

/-- The dictionary without the entry under a key. -/
def erase (d : Dict α) (key : String) : Dict α :=
  d.filter fun e ↦ e.1 != key

theorem get?_erase_of_ne {k : String} (h : k ≠ key) : (d.erase key).get? k = d.get? k := by
  induction d with
  | nil => rfl
  | cons a rest ih =>
    rw [erase] at ih ⊢
    by_cases hkey : a.1 = key
    · rw [List.filter_cons_of_neg (by simpa using hkey), ih, get?, if_neg (hkey ▸ h.symm)]
    · rw [List.filter_cons_of_pos (by simpa using hkey), get?, get?, ih]

end Dict

end FlowRouting
