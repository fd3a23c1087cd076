import TokenIssuance.Proofs.Cell

set_option autoImplicit false

namespace TokenIssuance

open Json (Bag)
open Pattern (Piece)

theorem Pattern.parse_append (first second : String) (pieces : List Piece)
    (parsed : parse? first = some pieces) :
    parse? (first ++ second) = (parse? second).map fun more => merge [] (pieces ++ more) := by
  obtain ⟨rfl, normal⟩ := parse_written first pieces parsed
  rw [parse?, String.toList_append]
  exact parse_text_write pieces normal.clean [] second.toList

namespace Scope

def joined (first second : Demand Bag (Option String)) : Demand Bag (Option String) := do
  match ← first with
  | none => pure none
  | some text => return (← second).map (text ++ ·)

theorem given_joined (config : Bag) (first second : Demand Bag (Option String)) :
    (joined first second).given config =
      (first.given config).bind fun text => (second.given config).map (text ++ ·) := by
  rw [joined, Demand.given_bind]
  cases first.given config <;> simp

theorem joined_asks (config : Bag) (first second : Demand Bag (Option String)) :
    (joined first second).asks = (first.asks || ((first.given config).isSome && second.asks)) := by
  rw [joined, Demand.asks_bind config]
  cases first.given config <;> simp

theorem joined_assoc (first second third : Demand Bag (Option String)) :
    joined (joined first second) third = joined first (joined second third) := by
  refine Demand.ext_given ?_ fun config => ?_
  · simp only [joined_asks default, given_joined]
    cases first.given default with
    | none => simp
    | some text => simp [Bool.or_assoc]
  · simp only [given_joined]
    cases first.given config with
    | none => rfl
    | some text => cases second.given config <;> simp [String.append_assoc, Function.comp_def]

theorem empty_joined (second : Demand Bag (Option String)) :
    joined (pure (some "")) second = second := by
  refine Demand.ext_given ?_ fun config => ?_
  · simp [joined_asks default]
  · simp [given_joined]

theorem render_pieces_literal (scope : Scope) (text : String) (more : List Piece) :
    scope.renderPieces (.literal text :: more) =
      joined (pure (some text)) (scope.renderPieces more) := rfl

theorem render_pieces_field (scope : Scope) (body : String) (more : List Piece) :
    scope.renderPieces (.field body :: more) =
      joined ((·.bind Resolved.text?) <$> scope.resolve body) (scope.renderPieces more) := by
  rw [renderPieces]
  cases scope.resolve body <;> rfl

theorem render_pieces_append (scope : Scope) (first second : List Piece) :
    scope.renderPieces (first ++ second) =
      joined (scope.renderPieces first) (scope.renderPieces second) := by
  induction first with
  | nil => exact (empty_joined _).symm
  | cons piece more ih =>
      rw [List.cons_append]
      cases piece with
      | literal text => rw [render_pieces_literal, render_pieces_literal, ih, joined_assoc]
      | field body => rw [render_pieces_field, render_pieces_field, ih, joined_assoc]

theorem render_pieces_merge (scope : Scope) (pieces : List Piece) :
    scope.renderPieces (Pattern.merge [] pieces) = scope.renderPieces pieces := by
  refine Demand.ext_given ?_ fun config => ?_
  · rw [Bool.eq_iff_iff, render_pieces_asks_iff scope default, render_pieces_asks_iff scope default,
      Pattern.bodies_merge]
  · rw [given_render_pieces, given_render_pieces, Pattern.fill_all_merge]
    simp

theorem render_append (scope : Scope) (first second : String) (pieces more : List Piece)
    (parsed : Pattern.parse? first = some pieces) (follows : Pattern.parse? second = some more) :
    scope.render (first ++ second) = joined (scope.render first) (scope.render second) := by
  have whole := Pattern.parse_append first second pieces parsed
  rw [follows, Option.map_some] at whole
  simp only [render, parsed, follows, whole, render_pieces_merge, render_pieces_append]

-- When the second pattern does not split, neither it nor the whole has a text. The first one may ask
-- then, where the whole does not: only the texts can be told from the parts in every case.
theorem given_render_append (scope : Scope) (config : Bag) (first second : String)
    (pieces : List Piece) (parsed : Pattern.parse? first = some pieces) :
    (scope.render (first ++ second)).given config =
      ((scope.render first).given config).bind fun text =>
        ((scope.render second).given config).map (text ++ ·) := by
  cases follows : Pattern.parse? second with
  | some more => rw [render_append scope first second pieces more parsed follows, given_joined]
  | none =>
      have whole := Pattern.parse_append first second pieces parsed
      rw [follows, Option.map_none] at whole
      simp [render, follows, whole]

section

variable {σ : Type}

theorem texts_append (scope : Scope) (sources : Sources σ) (refresh : Bool) (first second : String)
    (pieces : List Piece) (parsed : Pattern.parse? first = some pieces)
    (before later whole : ScopeState σ)
    (sameBefore : scope.configAt sources refresh before = scope.configAt sources refresh whole)
    (sameLater : scope.configAt sources refresh later = scope.configAt sources refresh whole) :
    let render := fun pattern state => (scope.use sources refresh (.render pattern)).run state
    (∀ a b, (render first before).1 = .rendered (some a) →
      (render second later).1 = .rendered (some b) →
      (render (first ++ second) whole).1 = .rendered (some (a ++ b))) ∧
    ((render first before).1 = .rendered none ∨ (render second later).1 = .rendered none →
      (render (first ++ second) whole).1 = .rendered none) := by
  intro render
  simp only [render, use_render, Answer.rendered.injEq]
  rw [given_render_append scope _ first second pieces parsed, sameBefore, sameLater]
  refine ⟨fun a b front back => ?_, ?_⟩
  · rw [front, back]
    rfl
  · rintro (missing | missing)
    · rw [missing]
      rfl
    · rw [missing]
      exact Option.bind_fun_none _

theorem consults_append (scope : Scope) (sources : Sources σ) (refresh : Bool) (first second : String)
    (pieces more : List Piece) (parsed : Pattern.parse? first = some pieces)
    (follows : Pattern.parse? second = some more) (before later whole : σ) :
    let render := fun pattern source =>
      (scope.use sources refresh (.render pattern)).run (.fresh source)
    (render (first ++ second) whole).2.calls ≠ [] ↔
      (render first before).2.calls ≠ [] ∨
        (∃ a, (render first before).1 = .rendered (some a)) ∧ (render second later).2.calls ≠ [] := by
  intro render
  simp only [render, fresh_calls_iff, use_render, answer, Demand.asks_map, Answer.rendered.injEq]
  rw [render_append scope first second pieces more parsed follows,
    joined_asks (scope.configAt sources refresh (.fresh before))]
  simp [Option.isSome_iff_exists]

theorem rendering_composes (scope : Scope) (sources : Sources σ) (refresh : Bool)
    (first second : String) (pieces : List Piece) (parsed : Pattern.parse? first = some pieces) :
    let config := scope.configAt sources refresh
    let render := fun pattern state => (scope.use sources refresh (.render pattern)).run state
    let consults := fun pattern source => (render pattern (.fresh source)).2.calls ≠ []
    ((Pattern.parse? (first ++ second)).isSome = true ↔ (Pattern.parse? second).isSome = true) ∧
    (∀ more, Pattern.parse? second = some more →
      Pattern.parse? (first ++ second) = some (Pattern.merge [] (pieces ++ more))) ∧
    (∀ before later whole, config before = config whole → config later = config whole →
      (∀ a b, (render first before).1 = .rendered (some a) →
        (render second later).1 = .rendered (some b) →
        (render (first ++ second) whole).1 = .rendered (some (a ++ b))) ∧
      ((render first before).1 = .rendered none ∨ (render second later).1 = .rendered none →
        (render (first ++ second) whole).1 = .rendered none)) ∧
    ((Pattern.parse? second).isSome = true → ∀ before later whole,
      (consults (first ++ second) whole ↔
        consults first before ∨
          (∃ a, (render first (.fresh before)).1 = .rendered (some a)) ∧ consults second later)) := by
  intro config render consults
  have split := Pattern.parse_append first second pieces parsed
  refine ⟨?_, fun more follows => ?_, ?_, fun splits before later whole => ?_⟩
  · rw [split, Option.isSome_map]
  · rw [split, follows, Option.map_some]
  · exact texts_append scope sources refresh first second pieces parsed
  · obtain ⟨more, follows⟩ := Option.isSome_iff_exists.mp splits
    exact consults_append scope sources refresh first second pieces more parsed follows before later
      whole

theorem brace_after_placeholder :
    let scope : Scope := ⟨⟨"host"⟩, []⟩
    let sources := Sources.constant (.ok []) (.ok [("site", .string "north")])
    let render := fun pattern state => (scope.use sources false (.render pattern)).run state
    let loaded := (render "\x7bconfig.site\x7d" (.fresh ())).2
    (Pattern.parse? ("\x7bidentity\x7d" ++ "\x7d\x7d\x7bconfig.site\x7d")).isSome = true ∧
      Pattern.parse? ("\x7bidentity\x7d" ++ "\x7d\x7d\x7bconfig.site\x7d") =
        some [.field "identity", .literal "\x7d", .field "config.site"] ∧
      (render ("\x7bidentity\x7d" ++ "\x7d\x7d\x7bconfig.site\x7d") (.fresh ())).1 =
        .rendered (some ("host" ++ "\x7dnorth")) ∧
      (render ("\x7bidentity\x7d" ++ "\x7d\x7d\x7bconfig.site\x7d") (.fresh ())).2.calls ≠ [] ∧
      (render ("\x7bidentity\x7d" ++ "\x7d\x7d\x7bconfig.rack\x7d") loaded).1 = .rendered none := by
  intro scope sources render loaded
  have parsed : Pattern.parse? "\x7bidentity\x7d" = some [.field "identity"] := by decide
  have follows : Pattern.parse? "\x7d\x7d\x7bconfig.site\x7d" =
      some [.literal "\x7d", .field "config.site"] := by decide
  have splits : (Pattern.parse? "\x7d\x7d\x7bconfig.site\x7d").isSome = true := by decide
  have front : (render "\x7bidentity\x7d" (.fresh ())).1 = .rendered (some "host") := rfl
  have back : (render "\x7d\x7d\x7bconfig.site\x7d" loaded).1 = .rendered (some "\x7dnorth") := rfl
  have unset : (render "\x7d\x7d\x7bconfig.rack\x7d" loaded).1 = .rendered none := rfl
  have called : (render "\x7d\x7d\x7bconfig.site\x7d" (.fresh ())).2.calls ≠ [] :=
    List.cons_ne_nil _ _
  obtain ⟨accepts, found, texts, calls⟩ := rendering_composes scope sources false _ _ _ parsed
  obtain ⟨_, _, absent, _⟩ := rendering_composes scope sources false _ _ _ parsed
  refine ⟨accepts.mpr splits, found _ follows, ?_, ?_, ?_⟩
  · exact (texts (.fresh ()) loaded (.fresh ()) rfl rfl).1 _ _ front back
  · exact (calls splits () () ()).mpr (.inr ⟨⟨_, front⟩, called⟩)
  · exact (absent (.fresh ()) loaded loaded rfl rfl).2 (.inr unset)

end

end Scope

end TokenIssuance
