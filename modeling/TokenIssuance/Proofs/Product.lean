import Mathlib.Algebra.BigOperators.Group.List.Basic
import TokenIssuance.Proofs.Cell

set_option autoImplicit false

namespace TokenIssuance

open Json (Bag Value)
open Pattern (Piece)

namespace Pattern

-- Every way to take one text from each list; the first list varies slowest.
def tuples : List (List String) → List (List String)
  | [] => [[]]
  | texts :: more => texts.flatMap fun text => (tuples more).map (text :: ·)

theorem tuples_length (lists : List (List String)) :
    (tuples lists).length = (lists.map List.length).prod := by
  induction lists with
  | nil => rfl
  | cons texts more ih => simp [tuples, List.length_flatMap, ih]

def listed (elements : String → Option (List String)) (bodies : List String) :
    List (String × List String) :=
  bodies.filterMap fun body => (elements body).map (body, ·)

theorem assignments_product (elements : String → Option (List String)) (bodies : List String) :
    assignments elements bodies = (tuples ((listed elements bodies).map Prod.snd)).map
      ((listed elements bodies).map Prod.fst).zip := by
  induction bodies with
  | nil => rfl
  | cons body more ih =>
      cases list : elements body with
      | none =>
          have skipped : listed elements (body :: more) = listed elements more := by
            simp [listed, list]
          rw [assignments, list, ih, skipped]
      | some texts =>
          have kept : listed elements (body :: more) = (body, texts) :: listed elements more := by
            simp [listed, list]
          rw [assignments, list, ih, kept]
          simp [tuples, List.map_flatMap, Function.comp_def]

end Pattern

namespace Scope

variable {σ : Type}

def lists (scope : Scope) (config : Bag) (pieces : List Piece) : List (String × List String) :=
  Pattern.listed (scope.elementTexts? config) (Pattern.bodies pieces).eraseDups

theorem given_expand_product (scope : Scope) (config : Bag) (pattern : String) (pieces : List Piece)
    (parsed : Pattern.parse? pattern = some pieces) :
    let lists := scope.lists config pieces
    (scope.expand pattern).given config =
      (Pattern.tuples (lists.map Prod.snd)).map fun tuple =>
        Pattern.write (pieces.map (Pattern.assign ((lists.map Prod.fst).zip tuple))) := by
  rw [given_expand scope config pattern pieces parsed, Pattern.assignments_product, List.map_map]
  rfl

theorem given_expand_unsplit (scope : Scope) (config : Bag) (pattern : String)
    (unsplit : Pattern.parse? pattern = none) : (scope.expand pattern).given config = [pattern] := by
  rw [expand, unsplit]
  rfl

theorem expansion_is_product (scope : Scope) (sources : Sources σ) (refresh : Bool)
    (state : ScopeState σ) (pattern : String) :
    let config := scope.configAt sources refresh state
    let fetch := scope.fetch sources.recorded refresh
    (scope.expand pattern).run fetch = scope.expandVia (throughCell fetch) pattern ∧
    ∃ expanded,
      ((scope.use sources refresh (.expand .list pattern)).run state).1 = .expanded expanded ∧
      match Pattern.parse? pattern with
      | none => expanded = [pattern]
      | some pieces =>
          let lists := scope.lists config pieces
          expanded = (Pattern.tuples (lists.map Prod.snd)).map (fun tuple =>
            Pattern.write (pieces.map (Pattern.assign ((lists.map Prod.fst).zip tuple)))) ∧
          expanded.length = (lists.map fun list => list.2.length).prod ∧
          (lists = [] → expanded = [pattern]) := by
  intro config fetch
  refine ⟨run_expand_cell scope fetch pattern, _, use_expand scope sources refresh state pattern, ?_⟩
  split
  · rename_i unsplit
    exact given_expand_unsplit scope config pattern unsplit
  · rename_i pieces parsed
    have product := given_expand_product scope config pattern pieces parsed
    refine ⟨product, ?_, fun none => ?_⟩
    · rw [product, List.length_map, Pattern.tuples_length, List.map_map]
      rfl
    · rw [product, none]
      simp [Pattern.tuples, Pattern.assign_nil, (Pattern.parse_written pattern pieces parsed).1]

theorem two_lists_combined :
    let scope : Scope := ⟨⟨"host"⟩, [("roles", .array [.string "a\x7d", .null, .boolean true]),
      ("sites", .array [.string "x", .string "y"])]⟩
    let ask := fun pattern => ((scope.use (Sources.constant (.ok []) (.ok [])) false
      (.expand .list pattern)).run (.fresh ())).1
    let twice := "\x7battributes.roles\x7d/\x7battributes.sites\x7d/\x7battributes.roles\x7d"
    let quoted := "\x7b\x7battributes.roles\x7d\x7d-\x7bconfig.sites\x7d"
    ask twice =
        .expanded ["a\x7d\x7d/x/a\x7d\x7d", "a\x7d\x7d/y/a\x7d\x7d", "true/x/true", "true/y/true"] ∧
      ask quoted = .expanded [quoted] := by
  intro scope ask twice quoted
  have product := expansion_is_product scope (.constant (.ok []) (.ok [])) false (.fresh ())
  constructor
  · obtain ⟨_, expanded, used, combined⟩ := product twice
    have parsed : Pattern.parse? twice = some [.field "attributes.roles", .literal "/",
        .field "attributes.sites", .literal "/", .field "attributes.roles"] := by decide
    rw [parsed] at combined
    refine used.trans (congrArg Answer.expanded (combined.1.trans ?_))
    decide
  · obtain ⟨_, expanded, used, kept⟩ := product quoted
    have parsed : Pattern.parse? quoted =
        some [.literal "\x7battributes.roles\x7d-", .field "config.sites"] := by decide
    rw [parsed] at kept
    exact used.trans (congrArg Answer.expanded (kept.2.2 (by decide)))

theorem expanded_bodies (scope : Scope) (config : Bag) (pattern expanded : String)
    (pieces : List Piece) (parsed : Pattern.parse? pattern = some pieces)
    (member : expanded ∈ (scope.expand pattern).given config) :
    ∃ written, Pattern.parse? expanded = some written ∧
      Pattern.bodies written =
        (Pattern.bodies pieces).filter fun body => (scope.items? config body).isNone := by
  rw [given_expand scope config pattern pieces parsed] at member
  obtain ⟨assignment, made, rfl⟩ := List.mem_map.mp member
  have bodies : Pattern.bodies (pieces.map (Pattern.assign assignment)) =
      (Pattern.bodies pieces).filter fun body => (scope.items? config body).isNone := by
    rw [Pattern.bodies_assign]
    refine List.filter_congr fun body inside => ?_
    obtain ⟨absent, present⟩ := Pattern.lookup_assigned _ _ assignment made body
    cases list : scope.items? config body with
    | none =>
        have unlisted : scope.elementTexts? config body = none := by
          rw [element_texts_eq, list, Option.map_none]
        rw [absent unlisted]
        rfl
    | some items =>
        have listed : scope.elementTexts? config body = some (items.filterMap Value.scalarText?) := by
          rw [element_texts_eq, list, Option.map_some]
        obtain ⟨text, _, given⟩ := present (List.mem_eraseDups.mpr inside) _ listed
        rw [given]
        rfl
  have again := Pattern.parse_write _ (Pattern.assigned_braceless pattern pieces parsed assignment)
  exact ⟨_, again, by rw [Pattern.bodies_merge, bodies]⟩

theorem expand_again (scope : Scope) (config : Bag) (pattern expanded : String)
    (member : expanded ∈ (scope.expand pattern).given config) :
    (scope.expand expanded).given config = [expanded] := by
  cases parsed : Pattern.parse? pattern with
  | none =>
      rw [given_expand_unsplit scope config pattern parsed, List.mem_singleton] at member
      rw [member]
      exact given_expand_unsplit scope config pattern parsed
  | some pieces =>
      obtain ⟨written, parsedAgain, bodies⟩ :=
        expanded_bodies scope config pattern expanded pieces parsed member
      refine given_expand_unlisted scope config expanded written parsedAgain fun body inside => ?_
      rw [bodies, List.mem_filter] at inside
      exact Option.isNone_iff_eq_none.mp inside.2

theorem expansion_leaves_no_list (scope : Scope) (sources : Sources σ) (refresh : Bool)
    (state : ScopeState σ) (pattern : String) :
    let config := scope.configAt sources refresh state
    let used := (scope.use sources refresh (.expand .list pattern)).run state
    ∃ patterns, used.1 = .expanded patterns ∧ ∀ expanded ∈ patterns,
      (∀ pieces, Pattern.parse? pattern = some pieces →
        ∃ written, Pattern.parse? expanded = some written ∧
          Pattern.bodies written =
            (Pattern.bodies pieces).filter (fun body => (scope.items? config body).isNone) ∧
          ∀ body ∈ Pattern.bodies written, ∀ items,
            ((scope.use sources refresh (.resolve body)).run used.2).1 ≠
              .resolved (some (.value (.array items)))) ∧
      ((scope.use sources refresh (.expand .list expanded)).run used.2).1 =
        .expanded [expanded] := by
  intro config used
  have kept : scope.configAt sources refresh used.2 = config :=
    config_at_use scope sources refresh (.expand .list pattern) state
  refine ⟨_, use_expand scope sources refresh state pattern, fun expanded member => ⟨?_, ?_⟩⟩
  · intro pieces parsed
    obtain ⟨written, parsedAgain, bodies⟩ :=
      expanded_bodies scope config pattern expanded pieces parsed member
    refine ⟨written, parsedAgain, bodies, fun body inside items => ?_⟩
    rw [bodies, List.mem_filter, items?] at inside
    rw [use_resolve, kept]
    intro list
    rw [Answer.resolved.inj list] at inside
    cases inside.2
  · rw [use_expand, kept, expand_again scope config pattern expanded member]

theorem quoted_elements_kept :
    let scope : Scope := ⟨⟨"host"⟩, [("roles", .array [.string "\x7bconfig.key\x7d", .string "\x7d"])]⟩
    let sources := Sources.constant (.ok []) (.ok [("key", .string "secret")])
    let ask := fun pattern => scope.use sources false (.expand .list pattern)
    let (answer, after) := (ask "\x7battributes.roles\x7d:\x7bconfig.site\x7d").run (.fresh ())
    let written := "\x7b\x7bconfig.key\x7d\x7d:\x7bconfig.site\x7d"
    answer = .expanded [written, "\x7d\x7d:\x7bconfig.site\x7d"] ∧
      ((ask written).run after).1 = .expanded [written] := by
  intro scope sources ask
  have expanded : ((ask "\x7battributes.roles\x7d:\x7bconfig.site\x7d").run (.fresh ())).1 =
      .expanded ["\x7b\x7bconfig.key\x7d\x7d:\x7bconfig.site\x7d",
        "\x7d\x7d:\x7bconfig.site\x7d"] := by
    rfl
  obtain ⟨patterns, used, each⟩ := expansion_leaves_no_list scope sources false (.fresh ())
    "\x7battributes.roles\x7d:\x7bconfig.site\x7d"
  cases expanded.symm.trans used
  exact ⟨expanded, (each _ List.mem_cons_self).2⟩

end Scope

end TokenIssuance
