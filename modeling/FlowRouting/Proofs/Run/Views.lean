import FlowRouting.Proofs.Dict
import FlowRouting.Run.History

/-!
# Views of a history

The outputs and the routes of a run are dictionaries that the visits of its history fill in, each
under the id of its node. Both are `History.collect` of what a single visit has to say. As a run
visits every node once, the entry of a node is what its visit says, and visits of other nodes do not
matter.
-/

namespace FlowRouting.History

variable {β : Type} {h h' : History} {f : Visit → Option β}

/-- What the visits of a history say, each under its node. -/
def entries (f : Visit → Option β) (h : History) : List (String × β) :=
  h.filterMap fun v ↦ (f v).map fun b ↦ (v.nodeId, b)

/-- The dictionary of what the visits of a history say. -/
def collect (f : Visit → Option β) (h : History) : Dict β :=
  Dict.ofList (h.entries f)

theorem routes_eq_collect (h : History) :
    h.routes = h.collect fun v ↦ v.output?.bind NodeOutput.branch := rfl

theorem outputs_eq_collect (h : History) :
    h.outputs = h.collect fun v ↦ v.output?.map NodeOutput.outputs := by
  rw [outputs, collect, entries]
  simp only [Option.map_map, Function.comp_def]

/-! ## Entries -/

private theorem entries_append (h h' : History) :
    entries f (h ++ h') = h.entries f ++ h'.entries f :=
  List.filterMap_append

private theorem mem_entries_of_mem {v : Visit} {b : β} (hv : v ∈ h) (hf : f v = some b) :
    (v.nodeId, b) ∈ h.entries f :=
  List.mem_filterMap.mpr ⟨v, hv, by rw [hf, Option.map_some]⟩

private theorem map_fst_entries (h : History) :
    (h.entries f).map Prod.fst = (h.filter fun v ↦ (f v).isSome).map Visit.nodeId := by
  induction h with
  | nil => rfl
  | cons v h ih =>
    rw [entries] at ih
    cases hf : f v with
    | none =>
      rw [entries, List.filterMap_cons_none (by rw [hf]; rfl), ih,
        List.filter_cons_of_neg (by simp [hf])]
    | some b =>
      rw [entries, List.filterMap_cons_some (by rw [hf]; rfl), List.map_cons, ih,
        List.filter_cons_of_pos (by simp [hf]), List.map_cons]

private theorem nodup_map_fst_entries (hnodup : (h.map Visit.nodeId).Nodup) :
    ((h.entries f).map Prod.fst).Nodup := by
  rw [map_fst_entries]
  exact hnodup.sublist (List.filter_sublist.map Visit.nodeId)

private theorem entries_filter (keep : String → Bool) (h : History) :
    entries f (h.filter fun v ↦ keep v.nodeId) = (h.entries f).filter fun e ↦ keep e.1 := by
  rw [entries, entries, List.filterMap_filter, List.filter_filterMap]
  refine List.filterMap_congr fun v _ ↦ ?_
  cases f v with
  | none => rw [Option.map_none, ite_self, Option.filter_none]
  | some b => rw [Option.map_some, Option.filter_some]

/-! ## Collected entries -/

/-- In a history that visits every node once, the entry of a node is what its visit says. -/
theorem get?_collect_of_mem (hnodup : (h.map Visit.nodeId).Nodup) {v : Visit} (hv : v ∈ h) :
    (h.collect f).get? v.nodeId = f v := by
  cases hf : f v with
  | some b =>
    exact Dict.get?_ofList_of_mem (nodup_map_fst_entries hnodup) (mem_entries_of_mem hv hf)
  | none =>
    refine Dict.get?_ofList_of_notMem fun hmem ↦ ?_
    rw [map_fst_entries] at hmem
    obtain ⟨u, hu, hid⟩ := List.mem_map.mp hmem
    obtain ⟨hu, hsome⟩ := List.mem_filter.mp hu
    rw [List.inj_on_of_nodup_map hnodup hu hv hid, hf] at hsome
    cases hsome

theorem get?_collect_append {id : String} (hid : id ∉ h'.map Visit.nodeId) :
    (collect f (h ++ h')).get? id = (h.collect f).get? id := by
  rw [collect, entries_append, Dict.ofList_append, ← collect]
  refine Dict.get?_extend_of_notMem fun hmem ↦ hid ?_
  rw [Dict.keys, map_fst_entries] at hmem
  obtain ⟨v, hv, rfl⟩ := List.mem_map.mp hmem
  exact List.mem_map_of_mem (List.mem_of_mem_filter hv)

theorem collect_concat (f : Visit → Option β) (h : History) (v : Visit) :
    collect f (h ++ [v]) =
      match f v with
      | none => collect f h
      | some b => (collect f h).insert v.nodeId b := by
  rw [collect, entries_append, Dict.ofList_append, ← collect, entries]
  cases hf : f v with
  | none =>
    rw [List.filterMap_cons_none (by rw [hf]; rfl)]
    rfl
  | some b =>
    rw [List.filterMap_cons_some (by rw [hf]; rfl)]
    rfl

theorem keys_collect_perm (hnodup : (h.map Visit.nodeId).Nodup) :
    (h.collect f).keys.Perm ((h.filter fun v ↦ (f v).isSome).map Visit.nodeId) := by
  rw [← map_fst_entries]
  exact (Dict.perm_ofList (nodup_map_fst_entries hnodup)).map Prod.fst

theorem mem_keys_collect_iff (hnodup : (h.map Visit.nodeId).Nodup) {id : String} :
    id ∈ (h.collect f).keys ↔ ∃ v ∈ h, v.nodeId = id ∧ (f v).isSome = true := by
  rw [(keys_collect_perm hnodup).mem_iff, List.mem_map]
  constructor
  · rintro ⟨v, hv, hid⟩
    obtain ⟨hv, hsome⟩ := List.mem_filter.mp hv
    exact ⟨v, hv, hid, hsome⟩
  · rintro ⟨v, hv, hid, hsome⟩
    exact ⟨v, List.mem_filter.mpr ⟨hv, hsome⟩, hid⟩

theorem get?_collect_eq_some_iff (hnodup : (h.map Visit.nodeId).Nodup) {id : String} {b : β} :
    (h.collect f).get? id = some b ↔ ∃ v ∈ h, v.nodeId = id ∧ f v = some b := by
  constructor
  · intro hb
    have hkey : id ∈ (h.collect f).keys := by
      rw [Dict.mem_keys_iff, hb]
      rfl
    obtain ⟨v, hv, rfl, -⟩ := (mem_keys_collect_iff hnodup).mp hkey
    exact ⟨v, hv, rfl, (get?_collect_of_mem hnodup hv).symm.trans hb⟩
  · rintro ⟨v, hv, rfl, hf⟩
    exact (get?_collect_of_mem hnodup hv).trans hf

/-- The order of the visits makes no difference to what is collected. -/
theorem collect_eq_of_perm (hnodup : (h.map Visit.nodeId).Nodup) (hperm : h.Perm h') :
    h.collect f = h'.collect f :=
  Dict.ofList_eq_of_perm (nodup_map_fst_entries hnodup) (hperm.filterMap _)

theorem collect_filter (hnodup : (h.map Visit.nodeId).Nodup) (keep : String → Bool) :
    collect f (h.filter fun v ↦ keep v.nodeId) = (h.collect f).filter fun e ↦ keep e.1 := by
  rw [collect, entries_filter, Dict.ofList_filter (nodup_map_fst_entries hnodup)]
  rfl

end FlowRouting.History
