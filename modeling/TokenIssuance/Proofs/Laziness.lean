import TokenIssuance.Proofs.Asking
import TokenIssuance.Proofs.Meaning
import TokenIssuance.Proofs.Run

set_option autoImplicit false

namespace TokenIssuance

open Json (Bag)

namespace Scope

def LetsPass (scope : Scope) (config : Bag) : Expander → String → Prop
  | .list, body => ∀ items, scope.reading config body = some (.value (.array items)) →
      ∃ item ∈ items, item.scalarText?.isSome
  | .verbatim, body => ∃ resolved, scope.reading config body = some resolved ∧ resolved.text?.isSome

def Consults (scope : Scope) (config : Bag) (expander : Expander) (pattern : String) : Prop :=
  ∃ pieces, Pattern.parse? pattern = some pieces ∧
    Reaches (scope.LetsPass config expander) (Pattern.bodies pieces)

theorem lets_pass_list_iff (scope : Scope) (config : Bag) (body : String) :
    scope.LetsPass config .list body ↔ scope.elementTexts? config body ≠ some [] := by
  have texts : ∀ items : List Json.Value, (∃ item ∈ items, item.scalarText?.isSome) ↔
      items.filterMap Json.Value.scalarText? ≠ [] := by
    intro items
    simp [List.filterMap_eq_nil_iff, Option.isSome_iff_ne_none]
  constructor
  · intro passes empty
    obtain ⟨items, found, none⟩ := (element_texts_some_iff scope config body []).mp empty
    exact (texts items).mp (passes items found) none.symm
  · intro full items found
    rw [texts]
    intro none
    exact full ((element_texts_some_iff scope config body []).mpr ⟨items, found, none.symm⟩)

theorem lets_pass_verbatim_iff (scope : Scope) (config : Bag) (body : String) :
    scope.LetsPass config .verbatim body ↔ (scope.scalarText? config body).isSome = true := by
  rw [LetsPass, scalarText?]
  cases scope.reading config body <;> simp

theorem consults_iff (scope : Scope) (config : Bag) (expander : Expander) (pattern : String) :
    scope.Consults config expander pattern ↔
      match expander with
      | .list => (scope.expand pattern).asks = true
      | .verbatim => (scope.render pattern).asks = true := by
  cases parsed : Pattern.parse? pattern with
  | none => cases expander <;> simp [Consults, expand, render, parsed]
  | some pieces =>
      cases expander with
      | list =>
          have passing : scope.LetsPass config .list =
              fun body => scope.elementTexts? config body ≠ some [] :=
            funext fun body => propext (lets_pass_list_iff scope config body)
          simp only [Consults, parsed, Option.some.injEq, exists_eq_left', passing,
            expand_asks_iff scope config pattern pieces parsed]
      | verbatim =>
          have passing : scope.LetsPass config .verbatim =
              fun body => (scope.scalarText? config body).isSome = true :=
            funext fun body => propext (lets_pass_verbatim_iff scope config body)
          simp only [Consults, parsed, Option.some.injEq, exists_eq_left', passing,
            render_asks_iff scope config pattern pieces parsed]

theorem render_all_asks_iff (scope : Scope) (config : Bag) (patterns : List String) :
    (scope.renderAll patterns).asks = true ↔
      ∃ pattern ∈ patterns, (scope.render pattern).asks = true := by
  induction patterns with
  | nil => simp [renderAll]
  | cons pattern more ih => simp [renderAll, Demand.asks_bind config, ih]

theorem pattern_asks_iff (scope : Scope) (config : Bag) (expander : Expander) (pattern : String) :
    ((expander.expand scope pattern).asks = true ∨
      (scope.renderAll ((expander.expand scope pattern).given config)).asks = true) ↔
      scope.Consults config expander pattern := by
  rw [consults_iff, render_all_asks_iff scope config]
  cases expander with
  | verbatim => simp [Expander.expand]
  | list =>
      refine or_iff_left_of_imp ?_
      rintro ⟨expanded, member, asks⟩
      cases parsed : Pattern.parse? pattern with
      | none =>
          have same : expanded = pattern := by
            simpa [Expander.expand, expand, parsed] using member
          simp [same, render, parsed] at asks
      | some pieces =>
          exact render_expanded_asks scope config pattern expanded pieces parsed member asks

theorem policies_asks_iff (scope : Scope) (config : Bag) (expander : Expander)
    (patterns : List String) :
    (scope.policies expander patterns).asks = true ↔
      ∃ pattern ∈ patterns, scope.Consults config expander pattern := by
  have texts : (scope.texts expander patterns).asks = true ↔
      ∃ pattern ∈ patterns, scope.Consults config expander pattern := by
    induction patterns with
    | nil => simp [Scope.texts]
    | cons pattern more ih =>
        simp only [List.mem_cons, exists_eq_or_imp]
        rw [Scope.texts, ← ih, ← pattern_asks_iff]
        simp [Demand.asks_bind config, or_assoc]
  rw [← texts, policies]
  simp

example :
    let scope : Scope := ⟨⟨"host"⟩, [("roles", .array []), ("team", .string "ops")]⟩
    (scope.policies .list ["\x7battributes.roles\x7d\x7bconfig.site\x7d"]).asks = false ∧
      (scope.policies .list ["\x7battributes.team\x7d\x7bconfig.site\x7d"]).asks = true := by
  decide

end Scope

inductive ResolverCall where
  | resolve (identity : Identity) (patterns : List String) (refresh : Bool)
  | configured (identity : Identity) (refresh : Bool)
  | policies (identity : Identity)

namespace ResolverCall

def identity : ResolverCall → Identity
  | resolve identity _ _ | configured identity _ | policies identity => identity

def patterns (settings : PolicySettings) : ResolverCall → List String
  | resolve _ patterns _ => patterns
  | configured _ _ | policies _ => settings.patterns

def refresh (settings : PolicySettings) : ResolverCall → Bool
  | resolve _ _ refresh | configured _ refresh => refresh
  | policies _ => settings.refreshConfig

end ResolverCall

structure ResolverStep where
  policies : PolicySet
  calls : List SourceCall

namespace Resolver

variable {σ : Type}

def recorded (resolver : Resolver σ) : Resolver (σ × List SourceCall) :=
  ⟨resolver.settings, resolver.sources.recorded, resolver.expander⟩

def perform (resolver : Resolver σ) : ResolverCall → StateM σ PolicySet
  | .resolve identity patterns refresh => resolver.resolve identity patterns refresh
  | .configured identity refresh => resolver.configured identity refresh
  | .policies identity => resolver.policies identity

def step (resolver : Resolver σ) (call : ResolverCall) : StateM σ ResolverStep := fun state =>
  let (policies, state, calls) := (resolver.recorded.perform call).run (state, [])
  (⟨policies, calls⟩, state)

-- Whether a call that starts in a state needs the config. Nothing that this looks at names the config,
-- so that any bag will do for it.
def Needs (resolver : Resolver σ) (config : Bag) (call : ResolverCall) (before : σ) : Prop :=
  let scope := resolver.scope call.identity (call.refresh resolver.settings) before
  ∃ pattern ∈ call.patterns resolver.settings, scope.Consults config resolver.expander pattern

inductive Fetches (resolver : Resolver σ) (config : Bag) (call : ResolverCall) (before : σ) :
    List SourceCall → Prop where
  | both (needed : resolver.Needs config call before) :
      Fetches resolver config call before [.attributes call.identity,
        .config call.identity (call.refresh resolver.settings)]
  | attributes (needless : ¬ resolver.Needs config call before) :
      Fetches resolver config call before [.attributes call.identity]

theorem perform_eq (resolver : Resolver σ) (call : ResolverCall) :
    resolver.perform call = resolver.resolve call.identity (call.patterns resolver.settings)
      (call.refresh resolver.settings) := by
  cases call <;> rfl

theorem resolve_recorded (resolver : Resolver σ) (identity : Identity) (patterns : List String)
    (refresh : Bool) (before : σ) (earlier : List SourceCall) :
    let demand := (resolver.scope identity refresh before).policies resolver.expander patterns
    let (policies, after) := (resolver.resolve identity patterns refresh).run before
    (resolver.recorded.resolve identity patterns refresh).run (before, earlier) =
      (policies, after, earlier ++ .attributes identity ::
        if demand.asks then [.config identity refresh] else []) := by
  intro demand
  let later := ((resolver.sources.attributes identity).run before).2
  let fetch := resolver.fetchConfig identity refresh
  let noted := resolver.recorded.fetchConfig identity refresh
  let noting := earlier ++ [.attributes identity]
  have plain : (resolver.resolve identity patterns refresh).run before =
      ((((demand.run fetch).run none).run later).1.1, (((demand.run fetch).run none).run later).2) :=
    rfl
  have recording : (resolver.recorded.resolve identity patterns refresh).run (before, earlier) =
      ((((demand.run noted).run none).run (later, noting)).1.1,
        (((demand.run noted).run none).run (later, noting)).2) := rfl
  have both : earlier ++ [.attributes identity, .config identity refresh] =
      noting ++ [.config identity refresh] := by simp [noting]
  rw [plain, recording, Demand.run_empty, Demand.run_empty]
  by_cases asks : demand.asks = true
  · simp only [asks, if_true, both]
    rfl
  · simp only [asks]
    rfl

theorem step_recorded (resolver : Resolver σ) (call : ResolverCall) (before : σ) :
    let refresh := call.refresh resolver.settings
    let demand := (resolver.scope call.identity refresh before).policies resolver.expander
      (call.patterns resolver.settings)
    let (policies, after) := (resolver.perform call).run before
    (resolver.step call).run before = (⟨policies, .attributes call.identity ::
      if demand.asks then [.config call.identity refresh] else []⟩, after) := by
  have noted : (resolver.step call).run before =
      (⟨((resolver.recorded.perform call).run (before, [])).1,
        ((resolver.recorded.perform call).run (before, [])).2.2⟩,
        ((resolver.recorded.perform call).run (before, [])).2.1) := rfl
  rw [noted, perform_eq, perform_eq]
  have recorded := resolve_recorded resolver call.identity (call.patterns resolver.settings)
    (call.refresh resolver.settings) before []
  exact congrArg (fun ran => (ResolverStep.mk ran.1 ran.2.2, ran.2.1)) recorded

theorem asked_fetches (resolver : Resolver σ) (config : Bag) (call : ResolverCall) (before : σ) :
    let refresh := call.refresh resolver.settings
    let demand := (resolver.scope call.identity refresh before).policies resolver.expander
      (call.patterns resolver.settings)
    resolver.Fetches config call before (.attributes call.identity ::
      if demand.asks then [.config call.identity refresh] else []) := by
  intro refresh demand
  have asks : demand.asks = true ↔ resolver.Needs config call before :=
    Scope.policies_asks_iff _ config resolver.expander _
  by_cases needed : resolver.Needs config call before
  · rw [if_pos (asks.mpr needed)]
    exact .both needed
  · rw [if_neg (mt asks.mp needed)]
    exact .attributes needed

theorem step_fetches (resolver : Resolver σ) (call : ResolverCall) (before : σ) :
    let (step, after) := (resolver.step call).run before
    (resolver.perform call).run before = (step.policies, after) ∧
      ∀ config, resolver.Fetches config call before step.calls := by
  rw [step_recorded]
  exact ⟨rfl, fun config => asked_fetches resolver config call before⟩

theorem config_fetched_as_needed (resolver : Resolver σ) (calls : List ResolverCall) (before : σ) :
    let (steps, after) := (calls.mapM resolver.step).run before
    Along resolver.step (fun call before step after =>
      (resolver.perform call).run before = (step.policies, after) ∧
        ∀ config, resolver.Fetches config call before step.calls) calls before steps after :=
  run_each _ _ (step_fetches resolver) calls before

end Resolver

end TokenIssuance
