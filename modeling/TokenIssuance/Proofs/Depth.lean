import TokenIssuance.Proofs.Cell

set_option autoImplicit false

namespace TokenIssuance

open Json (Bag Value)
open Pattern (Piece)

structure ExpansionCall where
  caller : String
  body : String
  pattern : String

abbrev Traced (m : Type → Type) := StateT (List ExpansionCall) (OptionT m)

namespace Scope

section

variable {m : Type → Type} [Monad m]

def expandOnce (scope : Scope) (config : m Bag) (recur : ExpansionCall → m (List String))
    (pattern : String) : m (List String) :=
  match Pattern.parse? pattern with
  | none => pure [pattern]
  | some pieces => do
      match ← scope.firstListVia config (Pattern.bodies pieces) with
      | none => return [pattern]
      | some (⟨body, _⟩, items) => do
          let expanded ← (items.filterMap Value.scalarText?).mapM fun text =>
            recur ⟨pattern, body, Pattern.write (Pattern.substitute body text pieces)⟩
          return expanded.flatten

theorem expand_via_once (scope : Scope) (config : m Bag) (pattern : String) :
    scope.expandVia config pattern =
      scope.expandOnce config (fun call => scope.expandVia config call.pattern) pattern := by
  rw [expandVia, expandOnce]
  split
  · rename_i unsplit
    rw [unsplit]
  · rename_i pieces parsed
    rewrite [parsed]
    exact bind_congr fun found => by cases found <;> rfl

def expandWithin (scope : Scope) (config : m Bag) : Nat → String → Traced m (List String)
  | 0 => scope.expandOnce (liftM config) fun _ => failure
  | depth + 1 => scope.expandOnce (liftM config) fun call => do
      modify (· ++ [call])
      scope.expandWithin config depth call.pattern

end

section

variable {τ α β : Type} {fetch : StateM τ Bag} {config : Bag}

-- Wherever the config comes to `config`, be it fetched or not, two computations have the same result and
-- leave the same state, and the second one makes these calls.
def Tracks (fetch : StateM τ Bag) (config : Bag) (full : StateT (Option Bag) (StateM τ) α)
    (traced : Traced (StateT (Option Bag) (StateM τ)) α) (calls : List ExpansionCall)
    (result : α) : Prop :=
  ∀ cell state, cell.getD (fetch.run state).1 = config →
    ∃ after later, after.getD (fetch.run later).1 = config ∧
      (full.run cell).run state = ((result, after), later) ∧
      ∀ log, ((traced.run log).run.run cell).run state = ((some (result, log ++ calls), after), later)

theorem tracks_pure (result : α) : Tracks fetch config (pure result) (pure result) [] result := by
  intro cell state known
  refine ⟨cell, state, known, rfl, fun log => ?_⟩
  rw [List.append_nil]
  rfl

theorem tracks_bind {full : StateT (Option Bag) (StateM τ) α}
    {traced : Traced (StateT (Option Bag) (StateM τ)) α}
    {next : α → StateT (Option Bag) (StateM τ) β}
    {tracedNext : α → Traced (StateT (Option Bag) (StateM τ)) β}
    {calls more : List ExpansionCall} {result : α} {last : β}
    (first : Tracks fetch config full traced calls result)
    (rest : Tracks fetch config (next result) (tracedNext result) more last) :
    Tracks fetch config (full >>= next) (traced >>= tracedNext) (calls ++ more) last := by
  intro cell state known
  obtain ⟨middle, between, still, ran, tracedRan⟩ := first cell state known
  obtain ⟨after, later, final, ranNext, tracedRanNext⟩ := rest middle between still
  refine ⟨after, later, final, ?_, fun log => ?_⟩
  · rw [StateT.run_bind, StateT.run_bind, ran]
    exact ranNext
  · rw [StateT.run_bind, OptionT.run_bind, Option.elimM, StateT.run_bind, StateT.run_bind, tracedRan,
      ← List.append_assoc]
    exact tracedRanNext (log ++ calls)

theorem tracks_config :
    Tracks fetch config (throughCell fetch) (liftM (throughCell fetch)) [] config := by
  intro cell state known
  cases cell with
  | none =>
      refine ⟨some config, (fetch.run state).2, rfl, ?_, fun log => ?_⟩
      · rw [← known]
        rfl
      · rw [← known, List.append_nil]
        rfl
  | some bag =>
      cases known
      refine ⟨some bag, state, rfl, rfl, fun log => ?_⟩
      rw [List.append_nil]
      rfl

theorem tracks_noted {full : StateT (Option Bag) (StateM τ) α}
    {traced : Traced (StateT (Option Bag) (StateM τ)) α} {calls : List ExpansionCall} {result : α}
    (call : ExpansionCall) (tracks : Tracks fetch config full traced calls result) :
    Tracks fetch config full (do modify (· ++ [call]); traced) (call :: calls) result := by
  intro cell state known
  obtain ⟨after, later, final, ran, tracedRan⟩ := tracks cell state known
  refine ⟨after, later, final, ran, fun log => ?_⟩
  rw [List.append_cons]
  exact tracedRan (log ++ [call])

theorem tracks_mapM {full : α → StateT (Option Bag) (StateM τ) β}
    {traced : α → Traced (StateT (Option Bag) (StateM τ)) β} (holds : ExpansionCall → Prop)
    (items : List α)
    (each : ∀ item, ∃ calls result, Tracks fetch config (full item) (traced item) calls result ∧
      ∀ call ∈ calls, holds call) :
    ∃ calls results, Tracks fetch config (items.mapM full) (items.mapM traced) calls results ∧
      ∀ call ∈ calls, holds call := by
  induction items with
  | nil => exact ⟨[], [], tracks_pure [], by simp⟩
  | cons item more ih =>
      obtain ⟨calls, result, first, held⟩ := each item
      obtain ⟨others, results, rest, heldToo⟩ := ih
      refine ⟨calls ++ (others ++ []), result :: results, ?_, ?_⟩
      · rw [List.mapM_cons, List.mapM_cons]
        exact tracks_bind first (tracks_bind rest (tracks_pure _))
      · rw [List.append_nil, List.forall_mem_append]
        exact ⟨held, heldToo⟩

theorem tracks_resolve (scope : Scope) (body : String) :
    Tracks fetch config (scope.resolveVia (throughCell fetch) body)
      (scope.resolveVia (liftM (throughCell fetch)) body) [] (scope.reading config body) := by
  unfold resolveVia
  rw [reading_eq]
  split
  · exact tracks_pure _
  · split
    · exact tracks_pure _
    · split
      · exact tracks_bind tracks_config (tracks_pure _)
      · exact tracks_pure _

theorem tracks_first_list (scope : Scope) (bodies : List String) :
    Tracks fetch config (scope.firstListVia (throughCell fetch) bodies)
      (scope.firstListVia (liftM (throughCell fetch)) bodies) []
      ((scope.firstListVia Demand.datum bodies).given config) := by
  induction bodies with
  | nil => exact tracks_pure none
  | cons body more ih =>
      have read : (scope.resolve body).given config = scope.reading config body := rfl
      rw [firstListVia, firstListVia, firstListVia, Demand.given_bind, resolve_via_datum, read]
      refine tracks_bind (tracks_resolve scope body) ?_
      cases (scope.reading config body).bind Resolved.items? with
      | some items => exact tracks_pure _
      | none =>
        rw [Demand.given_bind]
        exact tracks_bind ih (tracks_pure _)

def listBodies (scope : Scope) (config : Bag) (pattern : String) : List String :=
  (Pattern.distinctBodies pattern).filter fun body => (scope.items? config body).isSome

structure Unlists (scope : Scope) (config : Bag) (call : ExpansionCall) : Prop where
  list : ∃ items, scope.reading config call.body = some (.value (.array items))
  placed : call.body ∈ Pattern.distinctBodies call.caller
  parsed : ∃ pieces, Pattern.parse? call.pattern = some pieces
  bodies : Pattern.distinctBodies call.pattern =
    (Pattern.distinctBodies call.caller).filter fun body => !body == call.body

theorem unlists_listed (scope : Scope) (call : ExpansionCall) (unlists : scope.Unlists config call) :
    call.body ∈ scope.listBodies config call.caller := by
  obtain ⟨items, array⟩ := unlists.list
  refine List.mem_filter.mpr ⟨unlists.placed, ?_⟩
  rw [(items_some_iff scope config call.body items).mpr array]
  rfl

theorem unlists_fewer (scope : Scope) (call : ExpansionCall) (unlists : scope.Unlists config call) :
    (scope.listBodies config call.pattern).length < (scope.listBodies config call.caller).length := by
  have rest : scope.listBodies config call.pattern =
      (scope.listBodies config call.caller).filter fun body => !body == call.body := by
    simp only [listBodies, unlists.bodies, List.filter_filter, Bool.and_comm]
  rw [rest]
  exact List.length_filter_lt_length_iff_exists.mpr
    ⟨call.body, unlists_listed scope call unlists, by simp⟩

theorem substituted_unlists (scope : Scope) (pattern body text : String) (pieces : List Piece)
    (items : List Value) (parsed : Pattern.parse? pattern = some pieces)
    (member : body ∈ Pattern.bodies pieces)
    (list : scope.items? config body = some items) :
    scope.Unlists config ⟨pattern, body, Pattern.write (Pattern.substitute body text pieces)⟩ where
  list := ⟨items, (items_some_iff scope config body items).mp list⟩
  placed := by simpa [Pattern.distinctBodies, parsed] using member
  parsed := ⟨_, Pattern.parse_substituted pattern body text pieces parsed⟩
  bodies := Pattern.distinct_bodies_substituted pattern body text pieces parsed

theorem tracks_once (scope : Scope) (pattern : String)
    {recur : ExpansionCall → StateT (Option Bag) (StateM τ) (List String)}
    {traced : ExpansionCall → Traced (StateT (Option Bag) (StateM τ)) (List String)}
    (holds : ExpansionCall → Prop)
    (each : ∀ call, call.caller = pattern → scope.Unlists config call →
      ∃ calls result, Tracks fetch config (recur call) (traced call) calls result ∧
        ∀ inner ∈ calls, holds inner) :
    ∃ calls result, Tracks fetch config (scope.expandOnce (throughCell fetch) recur pattern)
      (scope.expandOnce (liftM (throughCell fetch)) traced pattern) calls result ∧
      ∀ call ∈ calls, holds call := by
  unfold expandOnce
  split
  · exact ⟨[], [pattern], tracks_pure _, by simp⟩
  · rename_i pieces parsed
    have first : Tracks fetch config _ _ _ _ := tracks_first_list scope (Pattern.bodies pieces)
    rcases first_list_cases scope config (Pattern.bodies pieces) with
      ⟨found, unlisted⟩ | ⟨body, member, items, found, list⟩
    · rw [found] at first
      exact ⟨[], [pattern], tracks_bind first (tracks_pure _), by simp⟩
    · rw [found] at first
      have array := items_of_first_list scope config _ body items list
      obtain ⟨calls, results, rest, held⟩ := tracks_mapM holds (items.filterMap Value.scalarText?)
        fun text => each ⟨pattern, body, Pattern.write (Pattern.substitute body text pieces)⟩ rfl
          (substituted_unlists scope pattern body text pieces items parsed member array)
      refine ⟨_, _, tracks_bind first (tracks_bind rest (tracks_pure _)), ?_⟩
      rw [List.nil_append, List.append_nil]
      exact held

-- The induction is on the depth: below a call there is one list less.
theorem tracks_within (scope : Scope) (depth : Nat) (pattern : String)
    (enough : (scope.listBodies config pattern).length ≤ depth) :
    ∃ calls expanded, Tracks fetch config (scope.expandVia (throughCell fetch) pattern)
      (scope.expandWithin (throughCell fetch) depth pattern) calls expanded ∧
      ∀ call ∈ calls, scope.Unlists config call := by
  rw [expand_via_once]
  induction depth generalizing pattern with
  | zero =>
      refine tracks_once scope pattern _ fun call made unlists => ?_
      have fewer := unlists_fewer scope call unlists
      rw [made] at fewer
      omega
  | succ depth ih =>
      refine tracks_once scope pattern _ fun call made unlists => ?_
      have fewer := unlists_fewer scope call unlists
      rw [made] at fewer
      obtain ⟨calls, expanded, tracks, held⟩ := ih call.pattern (by omega)
      rw [← expand_via_once] at tracks
      exact ⟨call :: calls, expanded, tracks_noted call tracks, by simpa using ⟨unlists, held⟩⟩

end

variable {σ : Type}

def settle {α : Type} (out : (α × Option Bag) × σ × List SourceCall) : α × ScopeState σ :=
  (out.1.1, ⟨out.1.2, out.2.1, out.2.2⟩)

def useWithin (scope : Scope) (sources : Sources σ) (refresh : Bool) (depth : Nat)
    (pattern : String) : StateM (ScopeState σ) (Option (List String × List ExpansionCall)) :=
  fun state =>
    let config := throughCell (scope.fetch sources.recorded refresh)
    settle ((((scope.expandWithin config depth pattern).run []).run.run state.cell).run
      (state.source, state.calls))

theorem expansion_nests_within_lists (scope : Scope) (sources : Sources σ) (refresh : Bool)
    (state : ScopeState σ) (pattern : String) :
    let config := scope.configAt sources refresh state
    let (answer, after) := (scope.use sources refresh (.expand .list pattern)).run state
    ∃ expanded calls, answer = .expanded expanded ∧
      (scope.useWithin sources refresh (scope.listBodies config pattern).length pattern).run state =
        (some (expanded, calls), after) ∧
      ∀ call ∈ calls, scope.Unlists config call := by
  intro config
  let fetch := scope.fetch sources.recorded refresh
  obtain ⟨calls, expanded, tracks, held⟩ :
      ∃ calls expanded, Tracks fetch config _ _ calls expanded ∧ _ :=
    tracks_within scope _ pattern (Nat.le_refl _)
  obtain ⟨cell, later, _, ran, traced⟩ := tracks state.cell (state.source, state.calls) rfl
  have answered : (((scope.answer (.expand .list pattern)).run fetch).run state.cell).run
      (state.source, state.calls) = ((.expanded expanded, cell), later) := by
    rw [run_answer_cell, answerVia, StateT.run_map, StateT.run_map, ran]
    rfl
  have used : (scope.use sources refresh (.expand .list pattern)).run state =
      settle ((.expanded expanded, cell), later) := congrArg settle answered
  rw [used]
  exact ⟨expanded, calls, rfl, congrArg settle (traced []), held⟩

example :
    let scope : Scope := ⟨⟨"host"⟩, [("roles", .array [.string "a\x7d"]),
      ("sites", .array [.string "x"])]⟩
    let within := fun depth => ((scope.useWithin (.constant (.ok []) (.ok [])) false depth
      "\x7battributes.roles\x7d/\x7battributes.sites\x7d").run (.fresh ())).1
    (within 1).map Prod.fst = none ∧ (within 2).map Prod.fst = some ["a\x7d\x7d/x"] := by
  decide +kernel

end Scope

end TokenIssuance
