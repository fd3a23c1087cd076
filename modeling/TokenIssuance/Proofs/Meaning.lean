import TokenIssuance.Proofs.Expansion
import TokenIssuance.Resolution.Resolver

set_option autoImplicit false

namespace TokenIssuance

open Json (Bag)
open Pattern (Piece)

inductive Scope.StandsFor (scope : Scope) (config : Bag) : Expander → String → String → Prop where
  | scalar {expander : Expander} {body text : String} {resolved : Resolved}
      (found : scope.reading config body = some resolved) (shown : resolved.text? = some text) :
      StandsFor scope config expander body text
  | element {body text : String} {items : List Json.Value} {item : Json.Value}
      (found : scope.reading config body = some (.value (.array items))) (member : item ∈ items)
      (shown : item.scalarText? = some text) : StandsFor scope config .list body text

def Scope.Means (scope : Scope) (config : Bag) (expander : Expander) (pattern text : String) : Prop :=
  ∃ pieces, Pattern.parse? pattern = some pieces ∧ ∃ choice : String → String,
    (∀ body ∈ Pattern.bodies pieces, scope.StandsFor config expander body (choice body)) ∧
      text = String.join (pieces.map (Pattern.fill choice))

namespace Scope

theorem scalar_text_some_iff (scope : Scope) (config : Bag) (body text : String) :
    scope.scalarText? config body = some text ↔ scope.StandsFor config .verbatim body text := by
  constructor
  · intro found
    obtain ⟨resolved, found, shown⟩ := Option.bind_eq_some_iff.mp found
    exact .scalar found shown
  · intro stands
    cases stands with
    | scalar found shown => simp [scalarText?, found, shown]

theorem element_texts_some_iff (scope : Scope) (config : Bag) (body : String) (texts : List String) :
    scope.elementTexts? config body = some texts ↔
      ∃ items, scope.reading config body = some (.value (.array items)) ∧
        texts = items.filterMap Json.Value.scalarText? := by
  rw [elementTexts?, Option.map_eq_some_iff]
  refine exists_congr fun items => and_congr ?_ eq_comm
  rw [Option.bind_eq_some_iff]
  simp only [Resolved.items_iff_array, exists_eq_right]

theorem stands_for_list (scope : Scope) (config : Bag) (body text : String) (texts : List String)
    (listed : scope.elementTexts? config body = some texts) :
    scope.StandsFor config .list body text ↔ text ∈ texts := by
  obtain ⟨items, found, rfl⟩ := (element_texts_some_iff scope config body texts).mp listed
  rw [List.mem_filterMap]
  constructor
  · intro stands
    cases stands with
    | scalar other shown =>
        cases Option.some.inj (found.symm.trans other)
        cases shown
    | element other member shown =>
        cases Option.some.inj (found.symm.trans other)
        exact ⟨_, member, shown⟩
  · rintro ⟨item, member, shown⟩
    exact .element found member shown

theorem stands_for_unlisted (scope : Scope) (config : Bag) (body text : String)
    (unlisted : scope.elementTexts? config body = none) :
    scope.StandsFor config .list body text ↔ scope.scalarText? config body = some text := by
  constructor
  · intro stands
    cases stands with
    | scalar found shown => exact (scalar_text_some_iff scope config body text).mpr (.scalar found shown)
    | element found member shown => simp [elementTexts?, found, Resolved.items?] at unlisted
  · intro shown
    cases (scalar_text_some_iff scope config body text).mp shown with
    | scalar found shown => exact .scalar found shown

theorem stands_for_identity (scope : Scope) (config : Bag) (text : String) :
    scope.StandsFor config .list "identity" text ↔ text = scope.identity.text := by
  have own : scope.reading config "identity" = some (.identity scope.identity.text) :=
    (reading_identity_iff scope config "identity" _).mpr ⟨rfl, rfl⟩
  constructor
  · intro stands
    cases stands with
    | scalar found shown =>
        cases found.symm.trans own
        exact (Option.some.inj shown).symm
    | element found _ _ => cases found.symm.trans own
  · rintro rfl
    exact .scalar own rfl

theorem stands_for_list_iff (scope : Scope) (config : Bag) (body text : String) :
    scope.StandsFor config .list body text ↔
      if body = "identity" then text = scope.identity.text
      else match scope.reading config body with
        | some (.value (.array items)) => ∃ item ∈ items, item.scalarText? = some text
        | some (.value value) => value.scalarText? = some text
        | _ => False := by
  by_cases same : body = "identity"
  · rw [if_pos same, same, stands_for_identity]
  · rw [if_neg same]
    constructor
    · intro stands
      cases stands with
      | @scalar _ _ _ resolved found shown =>
          rw [found]
          cases resolved with
          | identity own => exact same ((reading_identity_iff scope config body own).mp found).1
          | value datum =>
              cases datum with
              | array items => cases shown
              | _ => exact shown
      | element found member shown =>
          rw [found]
          exact ⟨_, member, shown⟩
    · intro allowed
      split at allowed
      · rename_i items found
        obtain ⟨item, member, shown⟩ := allowed
        exact .element found member shown
      · rename_i value _ found
        exact .scalar found allowed
      · exact allowed.elim

theorem mem_render_verbatim_iff (scope : Scope) (config : Bag) (pattern text : String) :
    (scope.render pattern).given config = some text ↔ scope.Means config .verbatim pattern text := by
  rw [given_render, Option.bind_eq_some_iff]
  refine exists_congr fun pieces => and_congr_right fun _ => ?_
  constructor
  · intro filled
    obtain ⟨choice, chosen, rfl⟩ := Pattern.choice_of_fill_all _ pieces text filled
    exact ⟨choice, fun body member =>
      (scalar_text_some_iff scope config body _).mp (chosen body member), rfl⟩
  · rintro ⟨choice, chosen, rfl⟩
    exact Pattern.fill_all_of_choice _ choice pieces fun body member =>
      (scalar_text_some_iff scope config body _).mpr (chosen body member)

theorem given_render_assigned (scope : Scope) (config : Bag) (pattern : String) (pieces : List Piece)
    (parsed : Pattern.parse? pattern = some pieces) (assignment : Pattern.Assignment) :
    (scope.render (Pattern.write (pieces.map (Pattern.assign assignment)))).given config =
      Pattern.fillAll (fun body => (assignment.lookup body).or (scope.scalarText? config body))
        pieces := by
  rw [given_render_write scope config _
    (Pattern.assigned_braceless pattern pieces parsed assignment), Pattern.fill_all_assign]

theorem assigned_stands_for (scope : Scope) (config : Bag) (listed : List String) (body text : String)
    (assignment : Pattern.Assignment)
    (made : assignment ∈ Pattern.assignments (scope.elementTexts? config) listed)
    (member : body ∈ listed)
    (shown : (assignment.lookup body).or (scope.scalarText? config body) = some text) :
    scope.StandsFor config .list body text := by
  obtain ⟨absent, present⟩ := Pattern.lookup_assigned _ listed assignment made body
  cases elements : scope.elementTexts? config body with
  | none =>
      rw [absent elements, Option.none_or] at shown
      exact (stands_for_unlisted scope config body text elements).mpr shown
  | some texts =>
      obtain ⟨element, among, given⟩ := present member texts elements
      rw [given, Option.some_or, Option.some.injEq] at shown
      rw [stands_for_list scope config body text texts elements, ← shown]
      exact among

-- The choice is split: the assignment takes its part for the list bodies, the rendering the rest.
theorem stands_for_assigned (scope : Scope) (config : Bag) (listed : List String)
    (choice : String → String)
    (chosen : ∀ body ∈ listed, scope.StandsFor config .list body (choice body)) :
    ∃ assignment ∈ Pattern.assignments (scope.elementTexts? config) listed, ∀ body ∈ listed,
      (assignment.lookup body).or (scope.scalarText? config body) = some (choice body) := by
  obtain ⟨assignment, made, agrees⟩ :=
    Pattern.chosen_assignment (scope.elementTexts? config) listed choice fun body member texts elements =>
      (stands_for_list scope config body _ texts elements).mp (chosen body member)
  refine ⟨assignment, made, fun body member => ?_⟩
  cases elements : scope.elementTexts? config body with
  | none =>
      have absent := (Pattern.lookup_assigned _ listed assignment made body).1 elements
      rw [absent, Option.none_or]
      exact (stands_for_unlisted scope config body _ elements).mp (chosen body member)
  | some texts => rw [agrees body member (by simp [elements]), Option.some_or]

theorem mem_render_expand_iff (scope : Scope) (config : Bag) (pattern text : String) :
    (∃ expanded ∈ (scope.expand pattern).given config,
      (scope.render expanded).given config = some text) ↔ scope.Means config .list pattern text := by
  cases parsed : Pattern.parse? pattern with
  | none => simp [expand, Means, parsed, given_render]
  | some pieces =>
      rw [given_expand scope config pattern pieces parsed]
      constructor
      · rintro ⟨expanded, member, shown⟩
        obtain ⟨assignment, made, rfl⟩ := List.mem_map.mp member
        rw [given_render_assigned scope config pattern pieces parsed] at shown
        obtain ⟨choice, chosen, joined⟩ := Pattern.choice_of_fill_all _ pieces text shown
        refine ⟨pieces, parsed, choice, fun body member => ?_, joined⟩
        exact assigned_stands_for scope config _ body _ assignment made
          (List.mem_eraseDups.mpr member) (chosen body member)
      · rintro ⟨other, otherParsed, choice, chosen, rfl⟩
        cases Option.some.inj (parsed.symm.trans otherParsed)
        obtain ⟨assignment, made, agrees⟩ :=
          stands_for_assigned scope config (Pattern.bodies pieces).eraseDups choice
            fun body member => chosen body (List.mem_eraseDups.mp member)
        refine ⟨_, List.mem_map.mpr ⟨assignment, made, rfl⟩, ?_⟩
        rw [given_render_assigned scope config pattern pieces parsed]
        exact Pattern.fill_all_of_choice _ choice pieces fun body member =>
          agrees body (List.mem_eraseDups.mpr member)

theorem given_render_all (scope : Scope) (config : Bag) (patterns : List String) :
    (scope.renderAll patterns).given config =
      patterns.flatMap fun pattern => ((scope.render pattern).given config).toList := by
  induction patterns with
  | nil => rfl
  | cons pattern more ih => simp [renderAll, ih]

theorem given_texts (scope : Scope) (config : Bag) (expander : Expander) (patterns : List String) :
    (scope.texts expander patterns).given config =
      patterns.flatMap fun pattern =>
        ((expander.expand scope pattern).given config).flatMap fun expanded =>
          ((scope.render expanded).given config).toList := by
  induction patterns with
  | nil => rfl
  | cons pattern more ih => simp [texts, ih, given_render_all]

theorem mem_texts_iff (scope : Scope) (config : Bag) (expander : Expander) (patterns : List String)
    (text : String) :
    text ∈ (scope.texts expander patterns).given config ↔
      ∃ pattern ∈ patterns, scope.Means config expander pattern text := by
  rw [given_texts, List.mem_flatMap]
  refine exists_congr fun pattern => and_congr_right fun _ => ?_
  simp only [List.mem_flatMap, Option.mem_toList]
  cases expander with
  | list => exact mem_render_expand_iff scope config pattern text
  | verbatim => simp [Expander.expand, mem_render_verbatim_iff]

theorem mem_policies_iff (scope : Scope) (config : Bag) (expander : Expander) (patterns : List String)
    (policy : String) :
    policy ∈ (scope.policies expander patterns).given config ↔
      ∃ pattern ∈ patterns, ∃ text, scope.Means config expander pattern text ∧
        policy = Text.lowercase text := by
  simp only [policies, Demand.given_bind, Demand.given_pure, PolicySet.mem_of_list, List.mem_map,
    mem_texts_iff]
  constructor
  · rintro ⟨text, ⟨pattern, member, means⟩, rfl⟩
    exact ⟨pattern, member, text, means, rfl⟩
  · rintro ⟨pattern, member, text, means, rfl⟩
    exact ⟨text, ⟨pattern, member, means⟩, rfl⟩

end Scope

namespace Resolver

variable {σ : Type}

def replies (resolver : Resolver σ) (identity : Identity) (refresh : Bool) (state : σ) :
    SourceReply × SourceReply :=
  let (attributes, later) := (resolver.sources.attributes identity).run state
  (attributes, ((resolver.sources.config identity refresh).run later).1)

def scope (resolver : Resolver σ) (identity : Identity) (refresh : Bool) (state : σ) : Scope where
  identity := identity
  attributes := bagOrEmpty (resolver.replies identity refresh state).1

theorem resolve_given (resolver : Resolver σ) (identity : Identity) (patterns : List String)
    (refresh : Bool) (state : σ) :
    ((resolver.resolve identity patterns refresh).run state).1 =
      ((resolver.scope identity refresh state).policies resolver.expander patterns).given
        (bagOrEmpty (resolver.replies identity refresh state).2) := by
  let demand := (resolver.scope identity refresh state).policies resolver.expander patterns
  let fetch := resolver.fetchConfig identity refresh
  let later := ((resolver.sources.attributes identity).run state).2
  change (((demand.run fetch).run none).run later).1.1 = _
  rw [Demand.run_empty]
  by_cases asks : demand.asks = true
  · simp only [asks, if_true]
    rfl
  · simp only [asks]
    rfl

theorem mem_resolve_iff (resolver : Resolver σ) (identity : Identity) (patterns : List String)
    (refresh : Bool) (state : σ) (policy : String) :
    policy ∈ ((resolver.resolve identity patterns refresh).run state).1 ↔
      ∃ pattern ∈ patterns, ∃ text,
        (resolver.scope identity refresh state).Means
          (bagOrEmpty (resolver.replies identity refresh state).2) resolver.expander pattern text ∧
        policy = Text.lowercase text := by
  rw [resolve_given, Scope.mem_policies_iff]

theorem resolve_list_exact (settings : PolicySettings) (sources : Sources σ) (identity : Identity)
    (patterns : List String) (refresh : Bool) (state : σ) (policy : String) :
    let resolver : Resolver σ := ⟨settings, sources, .list⟩
    let scope := resolver.scope identity refresh state
    let config := bagOrEmpty (resolver.replies identity refresh state).2
    policy ∈ ((resolver.resolve identity patterns refresh).run state).1 ↔
      ∃ pattern ∈ patterns, ∃ pieces, Pattern.parse? pattern = some pieces ∧
        ∃ choice : String → String,
          (∀ body ∈ Pattern.bodies pieces,
            if body = "identity" then choice body = identity.text
            else match scope.reading config body with
              | some (.value (.array items)) => ∃ item ∈ items, item.scalarText? = some (choice body)
              | some (.value value) => value.scalarText? = some (choice body)
              | _ => False) ∧
          policy = Text.lowercase (String.join (pieces.map (Pattern.fill choice))) := by
  intro resolver scope config
  rw [mem_resolve_iff]
  refine exists_congr fun pattern => and_congr_right fun _ => ?_
  have allowed := scope.stands_for_list_iff config
  constructor
  · rintro ⟨text, ⟨pieces, parsed, choice, chosen, rfl⟩, rfl⟩
    exact ⟨pieces, parsed, choice, fun body member => (allowed body _).mp (chosen body member), rfl⟩
  · rintro ⟨pieces, parsed, choice, chosen, rfl⟩
    exact ⟨_, ⟨pieces, parsed, choice, fun body member =>
      (allowed body _).mpr (chosen body member), rfl⟩, rfl⟩

end Resolver

end TokenIssuance
