import TokenIssuance.Proofs.Expansion

set_option autoImplicit false

namespace TokenIssuance

open Json (Bag)
open Pattern (Piece)

structure Reaches (passes : String → Prop) (bodies : List String) : Prop where
  named : ∃ body ∈ bodies, Placeholder.name body = "config"
  before : ∀ earlier ∈ bodies.takeWhile (Placeholder.name · ≠ "config"), passes earlier

variable {passes : String → Prop} {body : String} {bodies : List String}

theorem reaches_nil : ¬ Reaches passes [] := by
  rintro ⟨⟨_, member, _⟩, _⟩
  cases member

theorem reaches_config (names : Placeholder.name body = "config") :
    Reaches passes (body :: bodies) where
  named := ⟨body, List.mem_cons_self, names⟩
  before := by simp [names]

theorem reaches_cons_iff (other : Placeholder.name body ≠ "config") :
    Reaches passes (body :: bodies) ↔ passes body ∧ Reaches passes bodies := by
  have first : (body :: bodies).takeWhile (Placeholder.name · ≠ "config") =
      body :: bodies.takeWhile (Placeholder.name · ≠ "config") := by
    simp [other]
  constructor
  · rintro ⟨named, before⟩
    rw [first, List.forall_mem_cons] at before
    exact ⟨before.1, by simpa [other] using named, before.2⟩
  · rintro ⟨passed, named, before⟩
    refine ⟨by simpa [other] using named, ?_⟩
    rw [first, List.forall_mem_cons]
    exact ⟨passed, before⟩

theorem reaches_weaken {others : String → Prop} (weaker : ∀ body ∈ bodies, passes body → others body)
    (reaches : Reaches passes bodies) : Reaches others bodies where
  named := reaches.named
  before earlier member :=
    weaker earlier (List.takeWhile_subset _ member) (reaches.before earlier member)

theorem reaches_filter_iff (other : Placeholder.name body ≠ "config") (passed : passes body) :
    Reaches passes (bodies.filter fun next => !next == body) ↔ Reaches passes bodies := by
  induction bodies with
  | nil => rfl
  | cons next more ih =>
      by_cases same : next = body
      · subst same
        rw [List.filter_cons_of_neg (by simp), ih, reaches_cons_iff other]
        exact (and_iff_right passed).symm
      · rw [List.filter_cons_of_pos (by simpa using same)]
        by_cases names : Placeholder.name next = "config"
        · exact iff_of_true (reaches_config names) (reaches_config names)
        · rw [reaches_cons_iff names, reaches_cons_iff names, ih]

theorem others_shorter (first : String) (more : List String) :
    (more.filter fun next => !next == first).length < (first :: more).length := by
  have bound := List.length_filter_le (fun next => !next == first) more
  rw [List.length_cons]
  omega

theorem reaches_erase_dups_iff (bodies : List String) :
    Reaches passes bodies.eraseDups ↔ Reaches passes bodies := by
  match bodies with
  | [] => rfl
  | body :: more =>
      rw [List.eraseDups_cons]
      by_cases names : Placeholder.name body = "config"
      · exact iff_of_true (reaches_config names) (reaches_config names)
      · rw [reaches_cons_iff names, reaches_cons_iff names, reaches_erase_dups_iff]
        exact and_congr_right fun passed => reaches_filter_iff names passed
termination_by bodies.length
decreasing_by exact others_shorter body more

namespace Scope

theorem resolve_asks_iff (scope : Scope) (body : String) :
    (scope.resolve body).asks = true ↔ Placeholder.name body = "config" := by
  unfold resolve
  split
  · rename_i bare
    rw [bare]
    exact iff_of_false Bool.false_ne_true (by decide)
  · split
    · rename_i named
      simp [named]
    · split
      · rename_i named
        exact iff_of_true rfl named
      · rename_i unnamed
        simp [unnamed]

theorem render_pieces_asks_iff (scope : Scope) (config : Bag) (pieces : List Piece) :
    (scope.renderPieces pieces).asks = true ↔
      Reaches (fun body => (scope.scalarText? config body).isSome) (Pattern.bodies pieces) := by
  induction pieces with
  | nil => exact iff_of_false Bool.false_ne_true reaches_nil
  | cons piece more ih =>
      cases piece with
      | literal text =>
          rw [Pattern.bodies_cons_literal, ← ih]
          simp [renderPieces]
      | field body =>
          rw [Pattern.bodies_cons_field, renderPieces, Demand.asks_bind config, Bool.or_eq_true,
            resolve_asks_iff]
          by_cases names : Placeholder.name body = "config"
          · exact iff_of_true (.inl names) (reaches_config names)
          · rw [reaches_cons_iff names, ← ih, or_iff_right names, scalarText?, reading]
            cases Option.bind ((scope.resolve body).given config) Resolved.text? with
            | none => simp
            | some text => simp

theorem choices_asks_iff (scope : Scope) (config : Bag) (listed : List String) (pieces : List Piece) :
    (scope.choices listed pieces).asks = true ↔
      Reaches (fun body => scope.elementTexts? config body ≠ some []) listed := by
  induction listed generalizing pieces with
  | nil => exact iff_of_false Bool.false_ne_true reaches_nil
  | cons body more ih =>
      rw [choices, Demand.asks_bind config, Bool.or_eq_true, resolve_asks_iff]
      by_cases names : Placeholder.name body = "config"
      · exact iff_of_true (.inl names) (reaches_config names)
      · rw [reaches_cons_iff names, or_iff_right names, elementTexts?, reading]
        cases Option.bind ((scope.resolve body).given config) Resolved.items? with
        | none => simp [ih]
        | some items =>
            simp only [Option.map_some, Demand.asks_bind config, Demand.asks_mapM config,
              Demand.asks_pure, Bool.or_false]
            generalize items.filterMap Json.Value.scalarText? = texts
            cases texts with
            | nil => simp
            | cons text rest =>
                have same := fun text => ih (Pattern.substitute body text pieces)
                simp [same]

theorem render_asks_iff (scope : Scope) (config : Bag) (pattern : String) (pieces : List Piece)
    (parsed : Pattern.parse? pattern = some pieces) :
    (scope.render pattern).asks = true ↔
      Reaches (fun body => (scope.scalarText? config body).isSome) (Pattern.bodies pieces) := by
  unfold render
  rw [parsed]
  exact render_pieces_asks_iff scope config pieces

theorem expand_asks_iff (scope : Scope) (config : Bag) (pattern : String) (pieces : List Piece)
    (parsed : Pattern.parse? pattern = some pieces) :
    (scope.expand pattern).asks = true ↔
      Reaches (fun body => scope.elementTexts? config body ≠ some []) (Pattern.bodies pieces) := by
  have choices := choices_asks_iff scope config (Pattern.bodies pieces).eraseDups pieces
  rw [reaches_erase_dups_iff] at choices
  rw [← choices, expand, parsed]
  simp

-- A pattern that is written out has an element for every list, so that rendering it asks only where
-- expanding has asked before.
theorem render_expanded_asks (scope : Scope) (config : Bag) (pattern expanded : String)
    (pieces : List Piece) (parsed : Pattern.parse? pattern = some pieces)
    (member : expanded ∈ (scope.expand pattern).given config)
    (asks : (scope.render expanded).asks = true) : (scope.expand pattern).asks = true := by
  rw [given_expand scope config pattern pieces parsed] at member
  obtain ⟨assignment, made, rfl⟩ := List.mem_map.mp member
  have again := Pattern.parse_write _ (Pattern.assigned_braceless pattern pieces parsed assignment)
  rw [render_asks_iff scope config _ _ again, Pattern.bodies_merge, Pattern.bodies_assign] at asks
  rw [expand_asks_iff scope config pattern pieces parsed]
  obtain ⟨body, inside, names⟩ := asks.named
  refine ⟨⟨body, (List.mem_filter.mp inside).1, names⟩, fun earlier before empty => ?_⟩
  have among : earlier ∈ (Pattern.bodies pieces).eraseDups :=
    List.mem_eraseDups.mpr (List.takeWhile_subset _ before)
  obtain ⟨text, none, _⟩ := (Pattern.lookup_assigned _ _ assignment made earlier).2 among [] empty
  cases none

end Scope

end TokenIssuance
