import FlowRouting.Proofs.Run.Views
import FlowRouting.Proofs.Run.Visits

/-!
# Which nodes a run starts

Whether a node is skipped is decided when its turn comes, from what the nodes before it have done.
The nodes before it include the sources of all of its edges, and what these have done does not
change any more; so the decision can be read off the history of the whole run. From there it is
reachability: a run starts the nodes to which active edges lead from the nodes without incoming
edges, and skips the others.
-/

namespace FlowRouting

/-! ## Ways -/

/-- A list of edges is a way from one node to another; it may be empty. -/
inductive Way (edges : List Edge) (root : String) : List Edge → String → Prop where
  | nil : Way edges root [] root
  | concat {way : List Edge} {e : Edge} (h : Way edges root way e.source) (he : e ∈ edges) :
    Way edges root (way ++ [e]) e.target

/-- No edge leads to the node. -/
def Workflow.IsRoot (w : Workflow) (id : String) : Prop :=
  id ∈ w.nodes.map NodeSpec.id ∧ ∀ e ∈ w.edges, e.target ≠ id

/-! ## What a run and its result tell -/

/-- An observer of the run sees the node start. -/
def Run.Starts (run : Run) (id : String) : Prop :=
  ∃ nodeType, .nodeStarted id nodeType ∈ run.events

/-- The edge is active by the routes of the result: its source was started, and either took no path
or the edge is not one of another path. -/
def Run.Activates (run : Run) (res : RunResult) (e : Edge) : Prop :=
  run.Starts e.source ∧ (res.routes.get? e.source = none ∨ e.sourceHandle = none ∨
    e.sourceHandle = res.routes.get? e.source)

/-- The edge names a path that its source did not take. -/
def RunResult.Bars (res : RunResult) (e : Edge) : Prop :=
  ∃ handle taken, e.sourceHandle = some handle ∧ res.routes.get? e.source = some taken ∧
    handle ≠ taken

theorem RunResult.Bars.not_activates {run : Run} {res : RunResult} {e : Edge} (h : res.Bars e) :
    ¬run.Activates res e := by
  obtain ⟨handle, taken, hhandle, htaken, hne⟩ := h
  rintro ⟨_, hroute | hfree | hsame⟩
  · rw [hroute] at htaken
    cases htaken
  · rw [hfree] at hhandle
    cases hhandle
  · rw [hhandle, htaken, Option.some.injEq] at hsame
    exact hne hsame

private theorem nodeStarted_mem_events_iff {v : Visit} {id nodeType : String} :
    .nodeStarted id nodeType ∈ v.events ↔
      ∃ notes ending, v = .executed id nodeType notes ending := by
  cases v with
  | skipped id' => simp [Visit.events]
  | executed id' nodeType' notes ending =>
    have hending : Event.nodeStarted id nodeType ∉ ending.events id' := by
      rw [Ending.events]
      cases ending.result with
      | error e => simp
      | ok output => simp [NodeOutput.selectionEvent?]
    simp [Visit.events, hending, and_comm, eq_comm]

private theorem Run.starts_iff_mem_finished {run : Run} {id : String} :
    run.Starts id ↔ id ∈ run.history.finished := by
  have hevents : ∀ nodeType, .nodeStarted id nodeType ∈ run.events ↔
      ∃ v ∈ run.history, ∃ notes ending, v = .executed id nodeType notes ending := by
    intro nodeType
    simp [Run.events, List.mem_flatMap, nodeStarted_mem_events_iff]
  simp only [Run.Starts, hevents, History.finished, List.mem_map, List.mem_filter]
  constructor
  · rintro ⟨nodeType, v, hv, notes, ending, rfl⟩
    exact ⟨_, ⟨hv, rfl⟩, rfl⟩
  · rintro ⟨v, ⟨hv, hexecuted⟩, rfl⟩
    cases v with
    | skipped id => cases hexecuted
    | executed id nodeType notes ending => exact ⟨nodeType, _, hv, notes, ending, rfl⟩

/-! ## Views of a history -/

namespace History

variable {h h' : History}

theorem mem_map_nodeId_filter_iff {p : Visit → Bool} {v : Visit}
    (hnodup : (h.map Visit.nodeId).Nodup) (hv : v ∈ h) :
    v.nodeId ∈ (h.filter p).map Visit.nodeId ↔ p v = true := by
  rw [List.mem_map]
  constructor
  · rintro ⟨u, hu, hid⟩
    obtain ⟨hmem, hp⟩ := List.mem_filter.mp hu
    rwa [← List.inj_on_of_nodup_map hnodup hmem hv hid]
  · intro hp
    exact ⟨v, List.mem_filter.mpr ⟨hv, hp⟩, rfl⟩

private theorem mem_map_nodeId_of_mem_filter {p : Visit → Bool} {id : String}
    (hid : id ∈ (h.filter p).map Visit.nodeId) : id ∈ h.map Visit.nodeId := by
  obtain ⟨v, hv, rfl⟩ := List.mem_map.mp hid
  exact List.mem_map_of_mem (List.mem_of_mem_filter hv)

theorem mem_finished_append_iff {id : String} (hid : id ∉ h'.map Visit.nodeId) :
    id ∈ finished (h ++ h') ↔ id ∈ h.finished := by
  have hnot : id ∉ finished h' := fun hmem ↦ hid (mem_map_nodeId_of_mem_filter hmem)
  rw [finished, List.filter_append, List.map_append, List.mem_append, ← finished, ← finished]
  exact or_iff_left hnot

theorem get?_routes_append {id : String} (hid : id ∉ h'.map Visit.nodeId) :
    (routes (h ++ h')).get? id = h.routes.get? id := by
  rw [routes_eq_collect, routes_eq_collect, get?_collect_append hid]

end History

theorem Edge.isActive_iff {e : Edge} {h : History} :
    e.isActive h = true ↔ e.source ∈ h.finished ∧ (h.routes.get? e.source = none ∨
      e.sourceHandle = none ∨ e.sourceHandle = h.routes.get? e.source) := by
  rw [Edge.isActive, Bool.and_eq_true, List.contains_iff_mem]
  cases h.routes.get? e.source <;> cases e.sourceHandle <;> simp

private theorem Edge.isActive_append {e : Edge} {h h' : History}
    (hsource : e.source ∉ h'.map Visit.nodeId) : e.isActive (h ++ h') = e.isActive h := by
  rw [Bool.eq_iff_iff, Edge.isActive_iff, Edge.isActive_iff,
    History.mem_finished_append_iff hsource, History.get?_routes_append hsource]

/-! ## The whole history decides -/

section Complete

variable {w : Workflow} {r : RunRequest}

theorem nodup_map_nodeId_visits (hplan : r.plan.Realizes w) :
    ((r.visits [] r.plan.steps).map Visit.nodeId).Nodup := by
  rw [RunRequest.map_nodeId_visits, hplan.map_id_steps]
  exact hplan.represents.nodup_order

theorem notMem_rest_of_idxOf_lt (hplan : r.plan.Realizes w) {prior rest : List Step} {s : Step}
    (hsteps : r.plan.steps = prior ++ s :: rest) {id : String}
    (hlt : r.plan.graph.order.idxOf id < r.plan.graph.order.idxOf s.id) :
    id ∉ (s :: rest).map Step.id := by
  have horder : r.plan.graph.order = prior.map Step.id ++ (s :: rest).map Step.id := by
    rw [← hplan.map_id_steps, hsteps, List.map_append]
  have hnodup := hplan.represents.nodup_order
  have hdisjoint : ∀ id ∈ (s :: rest).map Step.id, id ∉ prior.map Step.id := by
    rw [horder] at hnodup
    exact fun id hid hprior ↦ (List.nodup_append.mp hnodup).2.2 id hprior id hid rfl
  -- The step is the first of the list, so nothing in the list would come before it.
  intro hmem
  rw [horder, List.idxOf_append_of_notMem (hdisjoint _ hmem),
    List.idxOf_append_of_notMem (hdisjoint _ (by simp)), List.map_cons, List.idxOf_cons_self] at hlt
  omega

private theorem source_notMem_rest (hplan : r.plan.Realizes w) {prior rest : List Step} {s : Step}
    (hsteps : r.plan.steps = prior ++ s :: rest) {e : Edge} (he : e ∈ w.edges)
    (htarget : e.target = s.id) : e.source ∉ (s :: rest).map Step.id :=
  notMem_rest_of_idxOf_lt hplan hsteps (htarget ▸ hplan.represents.forward e he)

/-- A step that is left out by its history is left out by the history of the whole run. -/
theorem skips_visits_iff (hplan : r.plan.Realizes w) {prior rest : List Step} {s : Step}
    (hsteps : r.plan.steps = prior ++ s :: rest) :
    r.Skips (r.visits [] r.plan.steps) s ↔ r.Skips (r.visits [] prior) s := by
  have hactive : r.activeEdges (r.visits [] r.plan.steps) s.id =
      r.activeEdges (r.visits [] prior) s.id := by
    -- What is visited from the step on does not include the source of any of its edges.
    refine List.filter_congr fun e he ↦ ?_
    obtain ⟨hmem, htarget⟩ := Graph.mem_incoming_iff.mp he
    rw [hplan.represents.edges_eq] at hmem
    rw [hsteps, RunRequest.visits_append]
    refine Edge.isActive_append ?_
    rw [RunRequest.map_nodeId_visits]
    exact source_notMem_rest hplan hsteps hmem htarget
  rw [RunRequest.Skips, RunRequest.Skips, hactive]

/-- **The local law.** In the history of all visits a node is among the skipped ones exactly if
there are edges that lead to it and none of them is active, and otherwise among the finished
ones. -/
theorem skipped_and_finished_iff (hplan : r.plan.Realizes w) {s : Step} (hs : s ∈ r.plan.steps) :
    (s.id ∈ History.skipped (r.visits [] r.plan.steps) ↔
        r.Skips (r.visits [] r.plan.steps) s) ∧
      (s.id ∈ History.finished (r.visits [] r.plan.steps) ↔
        ¬r.Skips (r.visits [] r.plan.steps) s) := by
  obtain ⟨prior, rest, hsteps⟩ := List.append_of_mem hs
  have hnodup := nodup_map_nodeId_visits hplan
  have hmem : r.visit (r.visits [] prior) s ∈ r.visits [] r.plan.steps := by
    rw [hsteps, RunRequest.visits_append]
    simp
  have hview : ∀ p : Visit → Bool,
      s.id ∈ ((r.visits [] r.plan.steps).filter p).map Visit.nodeId ↔
        p (r.visit (r.visits [] prior) s) = true := by
    intro p
    rw [← r.nodeId_visit (r.visits [] prior) s]
    exact History.mem_map_nodeId_filter_iff hnodup hmem
  rw [skips_visits_iff hplan hsteps, History.skipped, History.finished, hview, hview]
  by_cases hskip : r.Skips (r.visits [] prior) s
  · rw [RunRequest.visit_of_skips hskip]
    simp [hskip, Visit.isSkipped]
  · rw [RunRequest.visit_of_not_skips hskip]
    simp [hskip, Visit.isSkipped]

private theorem exists_step_of_id (hplan : r.plan.Realizes w) {id : String}
    (hid : id ∈ w.nodes.map NodeSpec.id) : ∃ s ∈ r.plan.steps, s.id = id := by
  rw [← hplan.represents.mem_order_iff, ← hplan.map_id_steps] at hid
  exact List.mem_map.mp hid

private theorem mem_ids_of_mem_map_nodeId (hplan : r.plan.Realizes w) {id : String}
    (hid : id ∈ (r.visits [] r.plan.steps).map Visit.nodeId) : id ∈ w.nodes.map NodeSpec.id := by
  rw [RunRequest.map_nodeId_visits, hplan.map_id_steps] at hid
  exact hplan.represents.mem_order_iff.mp hid

private theorem finished_of_isRoot (hplan : r.plan.Realizes w) {id : String} (hid : w.IsRoot id) :
    id ∈ History.finished (r.visits [] r.plan.steps) := by
  obtain ⟨s, hs, rfl⟩ := exists_step_of_id hplan hid.1
  refine (skipped_and_finished_iff hplan hs).2.mpr fun hskip ↦ hskip.1 ?_
  refine List.eq_nil_iff_forall_not_mem.mpr fun e he ↦ ?_
  obtain ⟨hmem, htarget⟩ := Graph.mem_incoming_iff.mp he
  rw [hplan.represents.edges_eq] at hmem
  exact hid.2 e hmem htarget

private theorem finished_of_isActive (hplan : r.plan.Realizes w) {e : Edge} (he : e ∈ w.edges)
    (hactive : e.isActive (r.visits [] r.plan.steps) = true) :
    e.target ∈ History.finished (r.visits [] r.plan.steps) := by
  obtain ⟨s, hs, hid⟩ := exists_step_of_id hplan (hplan.represents.ends_mem e he).2
  rw [← hid]
  refine (skipped_and_finished_iff hplan hs).2.mpr fun hskip ↦ ?_
  have hmem : e ∈ r.activeEdges (r.visits [] r.plan.steps) s.id := by
    refine List.mem_filter.mpr ⟨Graph.mem_incoming_iff.mpr ⟨?_, hid.symm⟩, hactive⟩
    rwa [hplan.represents.edges_eq]
  rw [hskip.2] at hmem
  exact List.not_mem_nil hmem

private theorem isRoot_or_isActive_of_finished (hplan : r.plan.Realizes w) {id : String}
    (hid : id ∈ History.finished (r.visits [] r.plan.steps)) :
    w.IsRoot id ∨
      ∃ e ∈ w.edges, e.target = id ∧ e.isActive (r.visits [] r.plan.steps) = true := by
  have hnode := mem_ids_of_mem_map_nodeId hplan (History.mem_map_nodeId_of_mem_filter hid)
  obtain ⟨s, hs, rfl⟩ := exists_step_of_id hplan hnode
  have hskip := (skipped_and_finished_iff hplan hs).2.mp hid
  rw [RunRequest.Skips, not_and_or, not_not] at hskip
  rcases hskip with hroot | hactive
  · refine Or.inl ⟨hnode, fun e he htarget ↦ ?_⟩
    have hmem : e ∈ r.plan.graph.incoming s.id := by
      rw [← hplan.represents.edges_eq] at he
      exact Graph.mem_incoming_iff.mpr ⟨he, htarget⟩
    rw [hroot] at hmem
    exact List.not_mem_nil hmem
  · obtain ⟨e, he⟩ := List.exists_mem_of_ne_nil _ hactive
    obtain ⟨hincoming, hactive⟩ := List.mem_filter.mp he
    obtain ⟨hmem, htarget⟩ := Graph.mem_incoming_iff.mp hincoming
    rw [hplan.represents.edges_eq] at hmem
    exact Or.inr ⟨e, hmem, htarget, hactive⟩

/-- The finished nodes are those to which active edges lead from the roots. -/
theorem finished_iff_reached (hplan : r.plan.Realizes w) {id : String} :
    id ∈ History.finished (r.visits [] r.plan.steps) ↔
      ∃ root way, w.IsRoot root ∧ Way w.edges root way id ∧
        ∀ e ∈ way, e.isActive (r.visits [] r.plan.steps) = true := by
  constructor
  · -- The sources of active edges come earlier in the topological order.
    intro hid
    induction hplace : r.plan.graph.order.idxOf id using Nat.strongRecOn
      generalizing id with
    | ind place ih =>
      rcases isRoot_or_isActive_of_finished hplan hid with hroot | ⟨e, he, rfl, hactive⟩
      · exact ⟨id, [], hroot, .nil, by simp⟩
      · have hforward := hplan.represents.forward e he
        rw [hplace] at hforward
        obtain ⟨root, way, hroot, hway, hall⟩ :=
          ih _ hforward (Edge.isActive_iff.mp hactive).1 rfl
        refine ⟨root, way ++ [e], hroot, hway.concat he, fun e' he' ↦ ?_⟩
        rcases List.mem_append.mp he' with he' | he'
        · exact hall e' he'
        · rwa [List.mem_singleton.mp he']
  · -- No induction is needed: the last edge of the way is active.
    rintro ⟨root, way, hroot, hway, hall⟩
    cases hway with
    | nil => exact finished_of_isRoot hplan hroot
    | concat _ he => exact finished_of_isActive hplan he (hall _ (by simp))

end Complete

/-! ## What is started -/

section Run

variable {w : Workflow} {context : RunContext} {cancellation : Cancellation} {res : RunResult}

/-- **A run starts what it reaches.** In a run that comes to a result, a node is started exactly if
a way of active edges leads to it from some node without incoming edges; every other node is among
the skipped ones. So a node is not started if every way to it has an edge of a path that was not
taken. -/
theorem starts_iff_reached (h : (w.run context cancellation).result = .ok res) :
    (∀ id, (w.run context cancellation).Starts id ↔
        ∃ root way, w.IsRoot root ∧ Way w.edges root way id ∧
          ∀ e ∈ way, (w.run context cancellation).Activates res e) ∧
      (∀ id, id ∈ res.skippedNodes ↔
        id ∈ w.nodes.map NodeSpec.id ∧ ¬(w.run context cancellation).Starts id) ∧
      ∀ id, (∀ root way, w.IsRoot root → Way w.edges root way id → ∃ e ∈ way, res.Bars e) →
        ¬(w.run context cancellation).Starts id := by
  obtain ⟨plan, hplan⟩ := exists_plan_of_run_ok h
  obtain ⟨done, rest, hsteps, hhistory, hresult⟩ :=
    exists_visits_of_run hplan context cancellation
  obtain ⟨rfl, rfl⟩ := hresult res h
  rw [List.append_nil] at hsteps
  subst hsteps
  let r : RunRequest := ⟨plan, context, cancellation⟩
  have hr : r.plan.Realizes w := Plan.ofWorkflow_eq_ok_iff.mp hplan
  have hrun : (w.run context cancellation).history = r.visits [] r.plan.steps := hhistory
  have hstarts : ∀ id, (w.run context cancellation).Starts id ↔
      id ∈ History.finished (r.visits [] r.plan.steps) := by
    intro id
    rw [Run.starts_iff_mem_finished, hrun]
  have hreached : ∀ id, (w.run context cancellation).Starts id ↔
      ∃ root way, w.IsRoot root ∧ Way w.edges root way id ∧
        ∀ e ∈ way, (w.run context cancellation).Activates (.ofHistory context.executionId
          plan.graph.nodes.length (w.run context cancellation).history) e := by
    intro id
    rw [hstarts, finished_iff_reached hr]
    simp only [Run.Activates, hstarts, RunResult.ofHistory, hrun, Edge.isActive_iff]
  refine ⟨hreached, fun id ↦ ?_, fun id hbarred hid ↦ ?_⟩
  · rw [hstarts, RunResult.ofHistory, hrun]
    constructor
    · intro hskipped
      have hnode := mem_ids_of_mem_map_nodeId hr (History.mem_map_nodeId_of_mem_filter hskipped)
      obtain ⟨s, hs, rfl⟩ := exists_step_of_id hr hnode
      obtain ⟨hskip, hfinish⟩ := skipped_and_finished_iff hr hs
      exact ⟨hnode, fun hfinished ↦ hfinish.mp hfinished (hskip.mp hskipped)⟩
    · rintro ⟨hnode, hunfinished⟩
      obtain ⟨s, hs, rfl⟩ := exists_step_of_id hr hnode
      obtain ⟨hskip, hfinish⟩ := skipped_and_finished_iff hr hs
      exact hskip.mpr (not_not.mp fun hnot ↦ hunfinished (hfinish.mpr hnot))
  · obtain ⟨root, way, hroot, hway, hall⟩ := (hreached id).mp hid
    obtain ⟨e, he, hbars⟩ := hbarred root way hroot hway
    exact hbars.not_activates (hall e he)

end Run

/-! ### A fork

A condition whose first path is always taken. -/

/-- A condition with a node behind each of its two paths. -/
def forked : Workflow where
  id := Uuid.nil
  name := "forked"
  nodes :=
    [{ id := "gate", nodeType := "condition",
        config := Condition.toFields
          ⟨[⟨"open", "Open", [], .and⟩, ⟨"else", "Else", [], .and⟩], none, none⟩ },
      { id := "taken", nodeType := "text" }, { id := "untaken", nodeType := "text" }]
  edges :=
    [{ source := "gate", target := "taken", sourceHandle := some "open" },
      { source := "gate", target := "untaken", sourceHandle := some "else" }]

/-- The node behind the path that is taken starts, and the other one is skipped. -/
theorem starts_iff_reached_forked :
    ∃ res, (forked.run exampleContext .never).result = .ok res ∧
      (forked.run exampleContext .never).Starts "taken" ∧ "untaken" ∈ res.skippedNodes := by
  have hroute : ((forked.run exampleContext .never).result.toOption.bind
      (·.routes.get? "gate")) = some "open" := by decide +kernel
  obtain ⟨res, hres⟩ := exists_eq_ok_of_isOk
    (show (forked.run exampleContext .never).result.isOk = true by decide +kernel)
  rw [hres] at hroute
  have hopen : res.routes.get? "gate" = some "open" := hroute
  obtain ⟨hreached, hskipped, hbarred⟩ := starts_iff_reached hres
  have hroot : forked.IsRoot "gate" := ⟨by decide, by decide⟩
  have hgate : (forked.run exampleContext .never).Starts "gate" :=
    (hreached "gate").mpr ⟨"gate", [], hroot, .nil, by simp⟩
  refine ⟨res, hres, (hreached "taken").mpr ?_, (hskipped "untaken").mpr ⟨by decide, ?_⟩⟩
  · have hedge : ⟨"gate", "taken", some "open", none⟩ ∈ forked.edges := List.mem_cons_self
    refine ⟨"gate", _, hroot, .concat .nil hedge, ?_⟩
    rw [List.nil_append, List.forall_mem_singleton]
    exact ⟨hgate, Or.inr (Or.inr hopen.symm)⟩
  · refine hbarred "untaken" fun root way hroot hway ↦ ?_
    generalize hid : "untaken" = id at hway
    cases hway with
    | nil => exact absurd hid (hroot.2 _ (List.mem_cons_of_mem _ List.mem_cons_self))
    | concat _ he =>
      rcases List.mem_cons.mp he with rfl | he
      · exact absurd hid (by decide)
      · rw [List.mem_singleton.mp he]
        exact ⟨_, List.mem_concat_self, "else", "open", rfl, hopen, by decide⟩

end FlowRouting
