import TokenIssuance.Proofs.Recursion
import TokenIssuance.Proofs.Run
import TokenIssuance.Resolution.Sources

set_option autoImplicit false

namespace TokenIssuance

open Json (Bag Value)
open Pattern (Piece)

structure Interpretation (n : Type → Type) [Monad n] where
  run {α : Type} : Demand Bag α → n α
  run_pure {α : Type} (a : α) : run (pure a) = pure a
  run_bind {α γ : Type} (d : Demand Bag α) (next : α → Demand Bag γ) :
    run (d >>= next) = run d >>= fun a => run (next a)

namespace Interpretation

variable {n : Type → Type} [Monad n]

def given (config : Bag) : Interpretation Id where
  run d := d.given config
  run_pure _ := rfl
  run_bind := Demand.given_bind config

def cell {σ : Type} (fetch : StateM σ Bag) : Interpretation (StateT (Option Bag) (StateM σ)) where
  run d := d.run fetch
  run_pure := Demand.run_pure fetch
  run_bind := Demand.run_bind fetch

theorem run_resolve (i : Interpretation n) (scope : Scope) (body : String) :
    i.run (scope.resolveVia Demand.datum body) = scope.resolveVia (i.run Demand.datum) body := by
  unfold Scope.resolveVia
  split
  · exact i.run_pure _
  · split
    · exact i.run_pure _
    · split
      · simp only [i.run_bind, i.run_pure]
      · exact i.run_pure _

theorem run_render_pieces (i : Interpretation n) (scope : Scope) (pieces : List Piece) :
    i.run (scope.renderPiecesVia Demand.datum pieces) =
      scope.renderPiecesVia (i.run Demand.datum) pieces := by
  induction pieces with
  | nil => exact i.run_pure _
  | cons piece more ih =>
      cases piece with
      | literal text =>
          simp only [Scope.renderPiecesVia, i.run_bind, i.run_pure, ih]
      | field body =>
          rw [Scope.renderPiecesVia, Scope.renderPiecesVia, i.run_bind, i.run_resolve]
          refine congrArg _ (funext fun resolved => ?_)
          cases resolved.bind Resolved.text? with
          | none => exact i.run_pure _
          | some text => simp only [i.run_bind, i.run_pure, ih]

theorem run_render (i : Interpretation n) (scope : Scope) (pattern : String) :
    i.run (scope.renderVia Demand.datum pattern) = scope.renderVia (i.run Demand.datum) pattern := by
  unfold Scope.renderVia
  cases Pattern.parse? pattern with
  | none => exact i.run_pure _
  | some pieces => exact i.run_render_pieces scope pieces

theorem run_first_list (i : Interpretation n) (scope : Scope) (bodies : List String) :
    i.run (scope.firstListVia Demand.datum bodies) =
      scope.firstListVia (i.run Demand.datum) bodies := by
  induction bodies with
  | nil => exact i.run_pure _
  | cons body more ih =>
      rw [Scope.firstListVia, Scope.firstListVia, i.run_bind, i.run_resolve]
      refine congrArg _ (funext fun resolved => ?_)
      cases resolved.bind Resolved.items? with
      | some items => exact i.run_pure _
      | none => simp only [i.run_bind, i.run_pure, ih]

variable [LawfulMonad n]

theorem run_map {α γ : Type} (i : Interpretation n) (f : α → γ) (d : Demand Bag α) :
    i.run (f <$> d) = f <$> i.run d := by
  rw [map_eq_pure_bind, map_eq_pure_bind, i.run_bind]
  simp only [i.run_pure]

theorem run_mapM {α δ : Type} (i : Interpretation n) (f : δ → Demand Bag α) (list : List δ) :
    i.run (list.mapM f) = list.mapM fun item => i.run (f item) := by
  induction list with
  | nil => exact i.run_pure _
  | cons item more ih => simp only [List.mapM_cons, i.run_bind, i.run_pure, ih]

theorem run_expand (i : Interpretation n) (scope : Scope) (pattern : String) :
    i.run (scope.expandVia Demand.datum pattern) = scope.expandVia (i.run Demand.datum) pattern := by
  rw [Scope.expandVia, Scope.expandVia]
  split
  · exact i.run_pure _
  · rename_i pieces parsed
    rw [i.run_bind, i.run_first_list]
    refine congrArg _ (funext fun found => ?_)
    cases found with
    | none => exact i.run_pure _
    | some list =>
        obtain ⟨⟨body, member⟩, items⟩ := list
        have ih : ∀ text,
            i.run (scope.expandVia Demand.datum (Pattern.write (Pattern.substitute body text pieces))) =
              scope.expandVia (i.run Demand.datum)
                (Pattern.write (Pattern.substitute body text pieces)) := by
          intro text
          have smaller := Pattern.fewer_bodies pattern body text pieces parsed member
          exact run_expand i scope _
        simp only [i.run_bind, i.run_pure, i.run_mapM, ih]
termination_by (Pattern.distinctBodies pattern).length

theorem run_answer (i : Interpretation n) (scope : Scope) (query : Scope.Query) :
    i.run (scope.answer query) = scope.answerVia (i.run Demand.datum) query := by
  rw [← Scope.answer_via_datum]
  cases query with
  | resolve body =>
      rw [Scope.answerVia, Scope.answerVia, i.run_map, i.run_resolve]
  | render pattern =>
      rw [Scope.answerVia, Scope.answerVia, i.run_map, i.run_render]
  | expand expander pattern =>
      cases expander with
      | list => rw [Scope.answerVia, Scope.answerVia, i.run_map, i.run_expand]
      | verbatim => exact i.run_pure _

end Interpretation

section

variable {σ : Type}

def throughCell (fetch : StateM σ Bag) : StateT (Option Bag) (StateM σ) Bag := do
  match ← get with
  | some config => return config
  | none => do
      let config ← fetch
      set (some config)
      return config

structure ScopeState (σ : Type) where
  cell : Option Bag
  source : σ
  calls : List SourceCall

def ScopeState.fresh (source : σ) : ScopeState σ := ⟨none, source, []⟩

def ScopeState.loaded (state : ScopeState σ) : Bool := state.cell.isSome

namespace Scope

def fetch (scope : Scope) (sources : Sources σ) (refresh : Bool) : StateM σ Bag := do
  return bagOrEmpty (← sources.config scope.identity refresh)

def answerWith (scope : Scope) (config : Bag) (query : Query) : Answer :=
  Id.run (scope.answerVia (pure config) query)

def use (scope : Scope) (sources : Sources σ) (refresh : Bool) (query : Query) :
    StateM (ScopeState σ) Answer := fun state =>
  let ((answer, cell), source, calls) :=
    (((scope.answer query).run (scope.fetch sources.recorded refresh)).run state.cell).run
      (state.source, state.calls)
  (answer, ⟨cell, source, calls⟩)

theorem given_answer (scope : Scope) (config : Bag) (query : Query) :
    (scope.answer query).given config = scope.answerWith config query :=
  (Interpretation.given config).run_answer scope query

theorem run_datum (fetch : StateM σ Bag) : Demand.datum.run fetch = throughCell fetch := by
  funext cell
  cases cell <;> rfl

theorem run_answer_cell (scope : Scope) (fetch : StateM σ Bag) (query : Query) :
    (scope.answer query).run fetch = scope.answerVia (throughCell fetch) query := by
  rw [← run_datum]
  exact (Interpretation.cell fetch).run_answer scope query

theorem run_expand_cell (scope : Scope) (fetch : StateM σ Bag) (pattern : String) :
    (scope.expand pattern).run fetch = scope.expandVia (throughCell fetch) pattern := by
  rw [← run_datum, ← expand_via_datum]
  exact (Interpretation.cell fetch).run_expand scope pattern

inductive Used (scope : Scope) (sources : Sources σ) (refresh : Bool) (before : σ) :
    ScopeState σ → Prop where
  | fresh : Used scope sources refresh before (.fresh before)
  | loaded : Used scope sources refresh before
      ⟨some ((scope.fetch sources refresh).run before).1,
        ((scope.fetch sources refresh).run before).2, [.config scope.identity refresh]⟩

def configAt (scope : Scope) (sources : Sources σ) (refresh : Bool) (state : ScopeState σ) : Bag :=
  state.cell.getD ((scope.fetch sources refresh).run state.source).1

theorem use_eq (scope : Scope) (sources : Sources σ) (refresh : Bool) (query : Query)
    (state : ScopeState σ) :
    (scope.use sources refresh query).run state =
      (scope.answerWith (scope.configAt sources refresh state) query,
        if state.cell.isNone && (scope.answer query).asks then
          let (config, later) := (scope.fetch sources refresh).run state.source
          ⟨some config, later, state.calls ++ [.config scope.identity refresh]⟩
        else state) := by
  obtain ⟨cell, source, calls⟩ := state
  let fetch := scope.fetch sources.recorded refresh
  have ran : (scope.use sources refresh query).run ⟨cell, source, calls⟩ =
      let ((answer, cell), source, calls) :=
        (((scope.answer query).run fetch).run cell).run (source, calls)
      (answer, ⟨cell, source, calls⟩) := rfl
  cases cell with
  | some config =>
      rw [ran, Demand.run_filled, given_answer]
      rfl
  | none =>
      rw [ran, Demand.run_empty]
      by_cases asks : (scope.answer query).asks = true
      · simp only [asks, if_true, given_answer]
        rfl
      · simp only [asks, given_answer]
        rfl

theorem use_fresh (scope : Scope) (sources : Sources σ) (refresh : Bool) (query : Query)
    (before : σ) :
    let (config, later) := (scope.fetch sources refresh).run before
    (scope.use sources refresh query).run (.fresh before) =
      (scope.answerWith config query,
        if (scope.answer query).asks then
          ⟨some config, later, [.config scope.identity refresh]⟩
        else .fresh before) :=
  use_eq scope sources refresh query (.fresh before)

theorem use_loaded (scope : Scope) (sources : Sources σ) (refresh : Bool) (query : Query)
    (config : Bag) (later : σ) (calls : List SourceCall) :
    (scope.use sources refresh query).run ⟨some config, later, calls⟩ =
      (scope.answerWith config query, ⟨some config, later, calls⟩) :=
  use_eq scope sources refresh query ⟨some config, later, calls⟩

theorem use_answer (scope : Scope) (sources : Sources σ) (refresh : Bool) (query : Query)
    (state : ScopeState σ) :
    ((scope.use sources refresh query).run state).1 =
      (scope.answer query).given (scope.configAt sources refresh state) := by
  rw [use_eq, given_answer]

theorem use_calls (scope : Scope) (sources : Sources σ) (refresh : Bool) (query : Query)
    (state : ScopeState σ) :
    ((scope.use sources refresh query).run state).2.calls = state.calls ++
      if state.cell.isNone && (scope.answer query).asks then [.config scope.identity refresh]
      else [] := by
  rw [use_eq]
  split
  · rfl
  · exact (List.append_nil _).symm

theorem use_resolve (scope : Scope) (sources : Sources σ) (refresh : Bool) (state : ScopeState σ)
    (body : String) :
    ((scope.use sources refresh (.resolve body)).run state).1 =
      .resolved (scope.reading (scope.configAt sources refresh state) body) := by
  rw [use_answer]
  exact Demand.given_map _ Answer.resolved (scope.resolve body)

theorem use_render (scope : Scope) (sources : Sources σ) (refresh : Bool) (state : ScopeState σ)
    (pattern : String) :
    ((scope.use sources refresh (.render pattern)).run state).1 =
      .rendered ((scope.render pattern).given (scope.configAt sources refresh state)) := by
  rw [use_answer]
  exact Demand.given_map _ Answer.rendered (scope.render pattern)

theorem use_expand (scope : Scope) (sources : Sources σ) (refresh : Bool) (state : ScopeState σ)
    (pattern : String) :
    ((scope.use sources refresh (.expand .list pattern)).run state).1 =
      .expanded ((scope.expand pattern).given (scope.configAt sources refresh state)) := by
  rw [use_answer]
  exact Demand.given_map _ Answer.expanded (scope.expand pattern)

theorem fresh_calls_iff (scope : Scope) (sources : Sources σ) (refresh : Bool) (query : Query)
    (before : σ) :
    ((scope.use sources refresh query).run (.fresh before)).2.calls ≠ [] ↔
      (scope.answer query).asks = true := by
  rw [use_calls]
  simp [ScopeState.fresh]

theorem config_at_use (scope : Scope) (sources : Sources σ) (refresh : Bool) (query : Query)
    (state : ScopeState σ) :
    scope.configAt sources refresh ((scope.use sources refresh query).run state).2 =
      scope.configAt sources refresh state := by
  rw [use_eq]
  split
  · rename_i fetched
    have empty : state.cell = none :=
      Option.isNone_iff_eq_none.mp (Bool.and_eq_true_iff.mp fetched).1
    rw [configAt, configAt, empty]
    rfl
  · rfl

theorem use_keeps (scope : Scope) (sources : Sources σ) (refresh : Bool) (before : σ) (query : Query)
    (state : ScopeState σ) (used : Used scope sources refresh before state) :
    let (answer, after) := (scope.use sources refresh query).run state
    answer = scope.answerWith ((scope.fetch sources refresh).run before).1 query ∧
      (state.loaded = true → after.loaded = true) ∧ Used scope sources refresh before after := by
  cases used with
  | fresh =>
      rw [use_fresh]
      refine ⟨rfl, Bool.false_ne_true.elim, ?_⟩
      split
      · exact .loaded
      · exact .fresh
  | loaded =>
      rw [use_loaded]
      exact ⟨rfl, fun _ => rfl, .loaded⟩

theorem used_calls (scope : Scope) (sources : Sources σ) (refresh : Bool) (before : σ)
    (state : ScopeState σ) (used : Used scope sources refresh before state) :
    (state.loaded = true ↔ state.calls ≠ []) ∧
      (state.calls = [] ∨ state.calls = [.config scope.identity refresh]) := by
  cases used with
  | fresh => exact ⟨iff_of_false Bool.false_ne_true (fun some => some rfl), .inl rfl⟩
  | loaded => exact ⟨iff_of_true rfl (List.cons_ne_nil _ _), .inr rfl⟩

-- A scope that fetches its config when it is first needed answers as one that has had the first reply
-- to hand from the start, whatever it was asked before, and fetches once at most.
theorem lazy_refines_eager (scope : Scope) (sources : Sources σ) (refresh : Bool)
    (queries : List Query) (before : σ) :
    let first := bagOrEmpty ((sources.config scope.identity refresh).run before).1
    let fetch := scope.fetch sources.recorded refresh
    let use := scope.use sources refresh
    let (answers, after) := (queries.mapM use).run (.fresh before)
    (∀ query, (scope.answer query).run fetch = scope.answerVia (throughCell fetch) query) ∧
      Along use (fun query state answer next =>
        answer = scope.answerWith first query ∧
          (next.loaded = true ↔ next.calls ≠ []) ∧
          (state.loaded = true → next.loaded = true)) queries (.fresh before) answers after ∧
      (after.calls = [] ∨ after.calls = [.config scope.identity refresh]) := by
  intro first fetch use
  have steps := use_keeps scope sources refresh before
  have kept : Used scope sources refresh before ((queries.mapM use).run (.fresh before)).2 :=
    run_keeps use _ (fun query state used => (steps query state used).2.2) queries _ .fresh
  refine ⟨run_answer_cell scope fetch, ?_, (used_calls scope sources refresh before _ kept).2⟩
  refine run_along use _ (Used scope sources refresh before) ?_ queries (.fresh before) .fresh
  intro query state used
  obtain ⟨answered, stays, still⟩ := steps query state used
  exact ⟨⟨answered, (used_calls scope sources refresh before _ still).1, stays⟩, still⟩

end Scope

end

end TokenIssuance
