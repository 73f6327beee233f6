import FlowRouting.Condition.Selection
import FlowRouting.Proofs.Fallible
import FlowRouting.Reference

/-!
# Which path is chosen

Guarded paths that do not hold are passed over in both modes, so strict mode comes down to the first
path that holds or cannot be evaluated. Lenient mode passes over the paths that cannot be evaluated
as well. It is compared with strict mode on the list that lacks these paths: both take the same one,
and what lenient mode reports are the paths that were left out before it.
-/

namespace FlowRouting

variable {vars : Variables}

/-! ## Where a path fails -/

/-- A path fails at a clause: the clauses before it leave the outcome open, and it cannot be
evaluated. -/
def Path.FailsAt (vars : Variables) (p : Path) (c : Clause) (e : EvalError) : Prop :=
  ∃ before after, p.clauses = before ++ c :: after ∧
    (∀ b ∈ before, b.evaluate vars = .ok !p.logicalOperator.decisive) ∧ c.evaluate vars = .error e

namespace Path

/-- Clauses fail at the first that cannot be evaluated, unless the outcome is certain before it. -/
theorem combine_eq_error_iff {decisive : Bool} {clauses : List Clause} {f : ClauseFailure} :
    combine vars decisive clauses = .error f ↔
      ∃ before c after, clauses = before ++ c :: after ∧
        (∀ b ∈ before, b.evaluate vars = .ok !decisive) ∧
        c.evaluate vars = .error f.error ∧ c.id = f.clauseId := by
  constructor
  · intro h
    induction clauses with
    | nil => cases h
    | cons c clauses ih =>
      rw [combine] at h
      cases hc : c.evaluate vars with
      | error e =>
        rw [hc] at h
        cases h
        exact ⟨[], c, clauses, rfl, List.forall_mem_nil _, hc, rfl⟩
      | ok outcome =>
        simp only [hc] at h
        split at h
        · cases h
        · next hopen =>
          obtain ⟨before, c', after, rfl, hbefore, hfails⟩ := ih h
          refine ⟨c :: before, c', after, rfl, List.forall_mem_cons.mpr ⟨?_, hbefore⟩, hfails⟩
          rw [hc, Bool.eq_not_of_ne hopen]
  · rintro ⟨before, c, after, rfl, hbefore, hfails, hid⟩
    induction before with
    | nil =>
      rw [List.nil_append, combine, hfails, hid]
    | cons b before ih =>
      obtain ⟨hb, hbefore⟩ := List.forall_mem_cons.mp hbefore
      rw [List.cons_append, combine, hb]
      have hopen : (!decisive) ≠ decisive := by simp
      exact (if_neg hopen).trans (ih hbefore)

variable {p : Path}

theorem holds_eq_error_iff {f : ClauseFailure} :
    p.holds vars = .error f ↔ ∃ c, p.FailsAt vars c f.error ∧ c.id = f.clauseId := by
  have hexact : combine vars p.logicalOperator.decisive p.clauses = .error f ↔
      ∃ c, p.FailsAt vars c f.error ∧ c.id = f.clauseId := by
    rw [combine_eq_error_iff]
    constructor
    · rintro ⟨before, c, after, hclauses, hbefore, hfails, hid⟩
      exact ⟨c, ⟨before, after, hclauses, hbefore, hfails⟩, hid⟩
    · rintro ⟨c, ⟨before, after, hclauses, hbefore, hfails⟩, hid⟩
      exact ⟨before, c, after, hclauses, hbefore, hfails, hid⟩
  rw [← hexact, holds]
  split
  · next hempty =>
    rw [List.isEmpty_iff.mp hempty]
    exact iff_of_false nofun nofun
  · rfl

private theorem holds_eq_ok_iff {outcome : Bool} :
    p.holds vars = .ok outcome ↔ p.evaluate vars = .ok outcome :=
  mapError_eq_ok_iff.symm

private theorem exists_holds_of_evaluate_eq_error {e : EvalError} (h : p.evaluate vars = .error e) :
    ∃ f, p.holds vars = .error f ∧ f.error = e :=
  mapError_eq_error_iff.mp h

end Path

/-- What is noted about a path that cannot be evaluated: the id and the error of the clause at which
it fails. -/
def Downgrade.Notes (vars : Variables) (p : Path) (d : Downgrade) : Prop :=
  d.path = p ∧ ∃ c, p.FailsAt vars c d.failure.error ∧ c.id = d.failure.clauseId

namespace Routing

variable {mode : RoutingMode} {fallback p : Path} {index : Nat} {paths : List Path}

/-! ## Steps -/

private theorem tryPaths_of_true (h : p.evaluate vars = .ok true) :
    tryPaths vars mode fallback index (p :: paths) = ⟨[], .ok (p.select true index)⟩ := by
  simp only [tryPaths, Path.holds_eq_ok_iff.mpr h]

private theorem tryPaths_of_false (h : p.evaluate vars = .ok false) :
    tryPaths vars mode fallback index (p :: paths) =
      tryPaths vars mode fallback (index + 1) paths := by
  simp only [tryPaths, Path.holds_eq_ok_iff.mpr h]

private theorem tryPaths_strict_of_error {e : EvalError} (h : p.evaluate vars = .error e) :
    tryPaths vars .strict fallback index (p :: paths) = ⟨[], .error e⟩ := by
  obtain ⟨f, hholds, rfl⟩ := Path.exists_holds_of_evaluate_eq_error h
  simp only [tryPaths, hholds]

private theorem exists_tryPaths_lenient_of_error {e : EvalError} (h : p.evaluate vars = .error e) :
    ∃ d : Downgrade, d.Notes vars p ∧
      tryPaths vars .lenient fallback index (p :: paths) =
        ⟨d :: (tryPaths vars .lenient fallback (index + 1) paths).downgrades,
          (tryPaths vars .lenient fallback (index + 1) paths).outcome⟩ := by
  obtain ⟨f, hholds, rfl⟩ := Path.exists_holds_of_evaluate_eq_error h
  refine ⟨⟨p, f⟩, ⟨rfl, Path.holds_eq_error_iff.mp hholds⟩, ?_⟩
  simp only [tryPaths, hholds]

private theorem tryPaths_append (h : ∀ q ∈ paths, q.evaluate vars = .ok false) (rest : List Path) :
    tryPaths vars mode fallback index (paths ++ rest) =
      tryPaths vars mode fallback (index + paths.length) rest := by
  induction paths generalizing index with
  | nil => rfl
  | cons p paths ih =>
    obtain ⟨hp, hpaths⟩ := List.forall_mem_cons.mp h
    rw [List.cons_append, tryPaths_of_false hp, ih hpaths, List.length_cons]
    congr 1
    omega

private theorem choose_eq_tryPaths (vars : Variables) (mode : RoutingMode) (guarded : List Path)
    (fallback : Path) :
    choose vars mode (guarded ++ [fallback]) = tryPaths vars mode fallback 0 guarded := by
  rw [choose, List.getLast?_concat, List.dropLast_concat]

/-! ## Lenient mode against strict mode -/

/-- The guarded paths that can be evaluated. -/
def evaluable (vars : Variables) (guarded : List Path) : List Path :=
  guarded.filter fun p ↦ (p.evaluate vars).isOk

/-- The places of the guarded paths that can be evaluated, and then that of the fallback. -/
def places (vars : Variables) (guarded : List Path) : List Nat :=
  (guarded.zipIdx.filter fun q ↦ (q.1.evaluate vars).isOk).map Prod.snd ++ [guarded.length]

private theorem places_cons (vars : Variables) (p : Path) (paths : List Path) :
    places vars (p :: paths) =
      if (p.evaluate vars).isOk then 0 :: (places vars paths).map (· + 1)
      else (places vars paths).map (· + 1) := by
  have hshift : paths.zipIdx 1 = paths.zipIdx.map fun q ↦ (q.1, q.2 + 1) := by
    rw [List.zipIdx_succ]
  have hfilter : ((paths.zipIdx 1).filter fun q ↦ (q.1.evaluate vars).isOk).map Prod.snd =
      ((paths.zipIdx.filter fun q ↦ (q.1.evaluate vars).isOk).map Prod.snd).map (· + 1) := by
    rw [hshift, List.filter_map, List.map_map, List.map_map]
    rfl
  rw [places, List.zipIdx_cons, List.filter_cons, places, List.map_append, ← hfilter]
  split <;> rfl

/-- Lenient mode takes the path that strict mode takes where the paths are left out that cannot be
evaluated, and notes those of them that come before it. -/
theorem exists_tryPaths_lenient (vars : Variables) (fallback : Path) (paths : List Path)
    (start start' : Nat) :
    ∃ p matched index index' downgrades,
      tryPaths vars .lenient fallback start paths =
        ⟨downgrades, .ok (p.select matched (start + index))⟩ ∧
      tryPaths vars .strict fallback start' (evaluable vars paths) =
        ⟨[], .ok (p.select matched (start' + index'))⟩ ∧
      (paths ++ [fallback])[index]? = some p ∧
      (places vars paths)[index']? = some index ∧
      List.Forall₂ (Downgrade.Notes vars)
        ((paths.take index).filter fun q ↦ !(q.evaluate vars).isOk) downgrades := by
  induction paths generalizing start start' with
  | nil => exact ⟨fallback, false, 0, 0, [], rfl, rfl, rfl, rfl, .nil⟩
  | cons p paths ih =>
    rw [evaluable, List.filter_cons]
    cases hp : p.evaluate vars with
    | error e =>
      -- A path that cannot be evaluated takes a place in lenient mode, and none in strict mode.
      obtain ⟨q, matched, index, index', downgrades, hlenient, hstrict, hq, hplace, hnotes⟩ :=
        ih (start + 1) start'
      obtain ⟨d, hd, hstep⟩ := exists_tryPaths_lenient_of_error hp
      refine ⟨q, matched, index + 1, index', d :: downgrades, ?_, hstrict, hq, ?_, ?_⟩
      · rw [hstep, hlenient, Nat.add_right_comm, Nat.add_assoc]
      · rw [places_cons, hp, if_neg nofun, List.getElem?_map, hplace]
        rfl
      · rw [List.take_succ_cons, List.filter_cons_of_pos (by rw [hp]; rfl)]
        exact .cons hd hnotes
    | ok outcome =>
      rw [if_pos (by rfl)]
      cases outcome with
      | true =>
        refine ⟨p, true, 0, 0, [], tryPaths_of_true hp, tryPaths_of_true hp, rfl, ?_, .nil⟩
        rw [places_cons, hp, if_pos (by rfl)]
        rfl
      | false =>
        obtain ⟨q, matched, index, index', downgrades, hlenient, hstrict, hq, hplace, hnotes⟩ :=
          ih (start + 1) (start' + 1)
        refine ⟨q, matched, index + 1, index' + 1, downgrades, ?_, ?_, hq, ?_, ?_⟩
        · rw [tryPaths_of_false hp, hlenient, Nat.add_right_comm, Nat.add_assoc]
        · rw [tryPaths_of_false hp, Nat.add_comm index', ← Nat.add_assoc]
          exact hstrict
        · rw [places_cons, hp, if_pos (by rfl), List.getElem?_cons_succ, List.getElem?_map, hplace]
          rfl
        · rw [List.take_succ_cons, List.filter_cons_of_neg (by rw [hp]; exact nofun)]
          exact hnotes

/-- **Both modes choose exactly as they are meant to.** Strict mode takes the first guarded path
that holds unless one before it cannot be evaluated, which is then its error; where no guarded path
holds it takes the fallback. Lenient mode always takes a path: the one that strict mode takes where
the paths are left out that cannot be evaluated, with its place among all paths. The paths left out
before it are noted once each, in order, with the clauses at which they fail. -/
theorem choose_exact (vars : Variables) (guarded : List Path) (fallback : Path) :
    (∀ before p after, guarded = before ++ p :: after →
      (∀ q ∈ before, q.evaluate vars = .ok false) →
        (p.evaluate vars = .ok true →
          choose vars .strict (guarded ++ [fallback]) =
            ⟨[], .ok (p.select true before.length)⟩) ∧
        ∀ e, p.evaluate vars = .error e →
          choose vars .strict (guarded ++ [fallback]) = ⟨[], .error e⟩) ∧
    ((∀ q ∈ guarded, q.evaluate vars = .ok false) →
      choose vars .strict (guarded ++ [fallback]) =
        ⟨[], .ok (fallback.select false guarded.length)⟩) ∧
    ∃ p matched index index' downgrades,
      choose vars .lenient (guarded ++ [fallback]) =
        ⟨downgrades, .ok (p.select matched index)⟩ ∧
      choose vars .strict (evaluable vars guarded ++ [fallback]) =
        ⟨[], .ok (p.select matched index')⟩ ∧
      (guarded ++ [fallback])[index]? = some p ∧ (places vars guarded)[index']? = some index ∧
      List.Forall₂ (Downgrade.Notes vars)
        ((guarded.take index).filter fun q ↦ !(q.evaluate vars).isOk) downgrades := by
  refine ⟨?_, ?_, ?_⟩
  · rintro before p after rfl hbefore
    rw [choose_eq_tryPaths, tryPaths_append hbefore, Nat.zero_add]
    exact ⟨tryPaths_of_true, fun e ↦ tryPaths_strict_of_error⟩
  · intro hguarded
    rw [choose_eq_tryPaths]
    have hpassed : tryPaths vars .strict fallback 0 (guarded ++ []) =
        tryPaths vars .strict fallback (0 + guarded.length) [] := tryPaths_append hguarded []
    rwa [List.append_nil, Nat.zero_add] at hpassed
  · obtain ⟨p, matched, index, index', downgrades, hlenient, hstrict, hrest⟩ :=
      exists_tryPaths_lenient vars fallback guarded 0 0
    rw [Nat.zero_add] at hlenient hstrict
    refine ⟨p, matched, index, index', downgrades, ?_, ?_, hrest⟩
    · rw [choose_eq_tryPaths, hlenient]
    · rw [choose_eq_tryPaths, hstrict]

/-! ### A path that cannot be evaluated before one that holds

The variable `owner` is unknown. Two paths ask for it behind a variable that is known, and where one
of two clauses is enough the answer is certain before it is asked for. -/

def onlyUrgent : Variables :=
  Variables.ofDict [("urgent", .bool true)]

/-- A path with a clause for each of the variables with these names. -/
def pathAbout (id : String) (names : List String) (logicalOperator : LogicalOperator) : Path :=
  ⟨id, id, names.map fun name ↦ ⟨name, name, .isNotEmpty, none⟩, logicalOperator⟩

def quietPath : Path :=
  ⟨"quiet", "quiet", [⟨"quiet", "urgent", .isEmpty, none⟩], .and⟩

/-- A path that cannot be evaluated. -/
def bothPath : Path :=
  pathAbout "both" ["urgent", "owner"] .and

def eitherPath : Path :=
  pathAbout "either" ["urgent", "owner"] .or

/-- Strict mode fails at the second path. Lenient mode notes it and takes the third, which is the
second for strict mode where the path that cannot be evaluated is left out. -/
theorem choose_exact_bothPath :
    quietPath.evaluate onlyUrgent = .ok false ∧
      bothPath.evaluate onlyUrgent = .error (.unknownVariable "owner") ∧
      choose onlyUrgent .strict ([quietPath, bothPath, eitherPath] ++ [bothPath]) =
        ⟨[], .error (.unknownVariable "owner")⟩ ∧
      ∃ downgrades,
        choose onlyUrgent .lenient ([quietPath, bothPath, eitherPath] ++ [bothPath]) =
          ⟨downgrades, .ok (eitherPath.select true 2)⟩ ∧
        choose onlyUrgent .strict (evaluable onlyUrgent [quietPath, bothPath, eitherPath] ++
          [bothPath]) = ⟨[], .ok (eitherPath.select true 1)⟩ ∧
        List.Forall₂ (Downgrade.Notes onlyUrgent) [bothPath] downgrades := by
  have hquiet : quietPath.evaluate onlyUrgent = .ok false := rfl
  have hboth : bothPath.evaluate onlyUrgent = .error (.unknownVariable "owner") := rfl
  obtain ⟨hstrict, _, p, matched, index, index', downgrades, hlenient, hwithout, _, _, hnotes⟩ :=
    choose_exact onlyUrgent [quietPath, bothPath, eitherPath] bothPath
  have hselected : Except.ok (eitherPath.select true 2) = Except.ok (p.select matched index) :=
    congrArg Routing.outcome hlenient
  have hindex : 2 = index := congrArg Selection.index (Except.ok.inj hselected)
  have hselected' : Except.ok (eitherPath.select true 1) = Except.ok (p.select matched index') :=
    congrArg Routing.outcome hwithout
  subst hindex
  rw [← hselected] at hlenient
  rw [← hselected'] at hwithout
  refine ⟨hquiet, hboth, ?_, downgrades, hlenient, hwithout, hnotes⟩
  exact (hstrict [quietPath] bothPath [eitherPath] rfl
    (List.forall_mem_singleton.mpr hquiet)).2 _ hboth

end Routing

end FlowRouting
