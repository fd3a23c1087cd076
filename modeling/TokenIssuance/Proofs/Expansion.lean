import TokenIssuance.Pattern.Expansion
import TokenIssuance.Proofs.Splitting

set_option autoImplicit false

namespace TokenIssuance

open Json (Bag)
open Pattern (Piece)

namespace Pattern

def fill (choice : String → String) : Piece → String
  | .literal text => text
  | .field body => choice body

def fillAll (text? : String → Option String) : List Piece → Option String
  | [] => some ""
  | .literal text :: more => (fillAll text? more).map (text ++ ·)
  | .field body :: more => do
      let text ← text? body
      (fillAll text? more).map (text ++ ·)

theorem fill_all_flush (text? : String → Option String) (read : List Char) (pieces : List Piece) :
    fillAll text? (flush read pieces) = (fillAll text? pieces).map (String.ofList read.reverse ++ ·) := by
  unfold flush
  split
  · rename_i empty
    rw [List.isEmpty_iff.mp empty]
    simp
  · rfl

theorem fill_all_merge (text? : String → Option String) (pieces : List Piece) (read : List Char) :
    fillAll text? (merge read pieces) =
      (fillAll text? pieces).map (String.ofList read.reverse ++ ·) := by
  induction pieces generalizing read with
  | nil => exact fill_all_flush text? read []
  | cons piece more ih =>
      cases piece with
      | literal text =>
          rw [merge, ih, fillAll, Option.map_map]
          congr 1
          funext rest
          simp [String.ofList_append, String.append_assoc]
      | field body =>
          rw [merge, fill_all_flush]
          simp [fillAll, ih]

theorem fill_all_of_choice (text? : String → Option String) (choice : String → String)
    (pieces : List Piece) (chosen : ∀ body ∈ bodies pieces, text? body = some (choice body)) :
    fillAll text? pieces = some (String.join (pieces.map (fill choice))) := by
  induction pieces with
  | nil => rfl
  | cons piece more ih =>
      rw [List.map_cons, String.join_cons]
      cases piece with
      | literal text => simp [fillAll, fill, ih chosen]
      | field body =>
          rw [bodies_cons_field, List.forall_mem_cons] at chosen
          simp [fillAll, fill, chosen.1, ih chosen.2]

theorem choice_of_fill_all (text? : String → Option String) (pieces : List Piece) (result : String)
    (filled : fillAll text? pieces = some result) :
    ∃ choice : String → String, (∀ body ∈ bodies pieces, text? body = some (choice body)) ∧
      result = String.join (pieces.map (fill choice)) := by
  have present : ∀ body ∈ bodies pieces, ∃ text, text? body = some text := by
    induction pieces generalizing result with
    | nil => simp [bodies]
    | cons piece more ih =>
        cases piece with
        | literal text =>
            obtain ⟨rest, filled, _⟩ := Option.map_eq_some_iff.mp filled
            exact ih rest filled
        | field body =>
            obtain ⟨text, found, filled⟩ := Option.bind_eq_some_iff.mp filled
            obtain ⟨rest, filled, _⟩ := Option.map_eq_some_iff.mp filled
            rw [bodies_cons_field, List.forall_mem_cons]
            exact ⟨⟨text, found⟩, ih rest filled⟩
  have chosen : ∀ body ∈ bodies pieces, text? body = some ((text? body).getD "") := by
    intro body member
    obtain ⟨text, found⟩ := present body member
    simp [found]
  have whole := fill_all_of_choice text? (fun body => (text? body).getD "") pieces chosen
  exact ⟨_, chosen, Option.some.inj (filled.symm.trans whole)⟩

abbrev Assignment := List (String × String)

def assignments (elements : String → Option (List String)) : List String → List Assignment
  | [] => [[]]
  | body :: more =>
      match elements body with
      | none => assignments elements more
      | some texts => texts.flatMap fun text => (assignments elements more).map ((body, text) :: ·)

def assign (assignment : Assignment) : Piece → Piece
  | .literal text => .literal text
  | .field body =>
      match assignment.lookup body with
      | some text => .literal text
      | none => .field body

theorem assign_nil (pieces : List Piece) : pieces.map (assign []) = pieces := by
  have same : assign [] = id := funext fun piece => by cases piece <;> rfl
  rw [same, List.map_id]

theorem substitute_assign (body text : String) (assignment : Assignment) (pieces : List Piece) :
    (substitute body text pieces).map (assign assignment) =
      pieces.map (assign ((body, text) :: assignment)) := by
  rw [substitute, List.map_map]
  refine List.map_congr_left fun piece _ => ?_
  cases piece with
  | literal other => rfl
  | field other =>
      by_cases same : other = body
      · subst same
        simp [assign]
      · have skipped : (other == body) = false := by simpa using same
        simp [assign, same, List.lookup_cons, skipped]

theorem bodies_assign (assignment : Assignment) (pieces : List Piece) :
    bodies (pieces.map (assign assignment)) =
      (bodies pieces).filter fun body => (assignment.lookup body).isNone := by
  induction pieces with
  | nil => rfl
  | cons piece more ih =>
      cases piece with
      | literal text => exact ih
      | field body =>
          rw [List.map_cons, bodies_cons_field, assign]
          cases found : assignment.lookup body with
          | none => simp [bodies_cons_field, found, ih]
          | some text => simp [bodies_cons_literal, found, ih]

theorem assigned_braceless (pattern : String) (pieces : List Piece)
    (parsed : parse? pattern = some pieces) (assignment : Assignment) :
    ∀ body ∈ bodies (pieces.map (assign assignment)), Braceless body := by
  intro body member
  rw [bodies_assign] at member
  exact parse_bodies_braceless pattern pieces parsed body (List.mem_filter.mp member).1

theorem fill_all_assign (text? : String → Option String) (assignment : Assignment)
    (pieces : List Piece) :
    fillAll text? (pieces.map (assign assignment)) =
      fillAll (fun body => (assignment.lookup body).or (text? body)) pieces := by
  induction pieces with
  | nil => rfl
  | cons piece more ih =>
      cases piece with
      | literal text => simp [assign, fillAll, ih]
      | field body => cases found : assignment.lookup body <;> simp [assign, fillAll, ih, found]

theorem lookup_assigned (elements : String → Option (List String)) (listed : List String)
    (assignment : Assignment) (made : assignment ∈ assignments elements listed) (body : String) :
    (elements body = none → assignment.lookup body = none) ∧
      (body ∈ listed → ∀ texts, elements body = some texts →
        ∃ text ∈ texts, assignment.lookup body = some text) := by
  induction listed generalizing assignment with
  | nil =>
      rw [assignments, List.mem_singleton] at made
      subst made
      simp
  | cons first more ih =>
      rw [assignments] at made
      split at made
      · rename_i scalar
        obtain ⟨absent, present⟩ := ih assignment made
        refine ⟨absent, fun member texts list => ?_⟩
        rcases List.mem_cons.mp member with same | later
        · rw [same, scalar] at list
          cases list
        · exact present later texts list
      · rename_i texts list
        obtain ⟨text, member, inner⟩ := List.mem_flatMap.mp made
        obtain ⟨rest, later, rfl⟩ := List.mem_map.mp inner
        obtain ⟨absent, present⟩ := ih rest later
        by_cases same : body = first
        · subst same
          simp [list, member]
        · have skipped : (body == first) = false := by simpa using same
          simpa [List.lookup_cons, skipped, same] using And.intro absent present

theorem chosen_assignment (elements : String → Option (List String)) (listed : List String)
    (choice : String → String)
    (allowed : ∀ body ∈ listed, ∀ texts, elements body = some texts → choice body ∈ texts) :
    ∃ assignment ∈ assignments elements listed, ∀ body ∈ listed,
      (elements body).isSome → assignment.lookup body = some (choice body) := by
  induction listed with
  | nil => exact ⟨[], by simp [assignments], by simp⟩
  | cons first more ih =>
      rw [List.forall_mem_cons] at allowed
      obtain ⟨rest, made, agrees⟩ := ih allowed.2
      cases list : elements first with
      | none =>
          refine ⟨rest, by simpa [assignments, list] using made, ?_⟩
          rw [List.forall_mem_cons]
          exact ⟨by simp [list], agrees⟩
      | some texts =>
          refine ⟨(first, choice first) :: rest, ?_, ?_⟩
          · rw [assignments, list]
            exact List.mem_flatMap.mpr ⟨_, allowed.1 texts list, List.mem_map.mpr ⟨rest, made, rfl⟩⟩
          · intro body member standsForList
            by_cases same : body = first
            · subst same
              simp
            · have skipped : (body == first) = false := by simpa using same
              rw [List.lookup_cons, skipped]
              exact agrees body ((List.mem_cons.mp member).resolve_left same) standsForList

end Pattern

namespace Scope

def reading (scope : Scope) (config : Bag) (body : String) : Option Resolved :=
  (scope.resolve body).given config

theorem reading_eq (scope : Scope) (config : Bag) (body : String) :
    scope.reading config body =
      if body = "identity" then some (.identity scope.identity.text)
      else if Placeholder.name body = "attributes" then
        (scope.attributes.lookup? (Placeholder.path body)).map .value
      else if Placeholder.name body = "config" then
        (config.lookup? (Placeholder.path body)).map .value
      else none := by
  rw [reading, resolve]
  split
  · rfl
  · split
    · rfl
    · split <;> rfl

theorem reading_identity_iff (scope : Scope) (config : Bag) (body text : String) :
    scope.reading config body = some (.identity text) ↔
      body = "identity" ∧ text = scope.identity.text := by
  have value : ∀ found : Option Json.Value, found.map Resolved.value ≠ some (.identity text) := by
    intro found
    cases found <;> simp
  rw [reading_eq]
  split
  · rename_i same
    simp [same, eq_comm]
  · rename_i other
    split
    · exact iff_of_false (value _) fun both => other both.1
    · split
      · exact iff_of_false (value _) fun both => other both.1
      · exact iff_of_false (by simp) fun both => other both.1

def scalarText? (scope : Scope) (config : Bag) (body : String) : Option String :=
  (scope.reading config body).bind Resolved.text?

def elementTexts? (scope : Scope) (config : Bag) (body : String) : Option (List String) :=
  ((scope.reading config body).bind Resolved.items?).map (List.filterMap Json.Value.scalarText?)

theorem given_render_pieces (scope : Scope) (config : Bag) (pieces : List Piece) :
    (scope.renderPieces pieces).given config = Pattern.fillAll (scope.scalarText? config) pieces := by
  induction pieces with
  | nil => rfl
  | cons piece more ih =>
      cases piece with
      | literal text => simp [renderPieces, Pattern.fillAll, ih]
      | field body =>
          rw [renderPieces, Pattern.fillAll, ← ih, scalarText?, reading, Demand.given_bind]
          cases (Option.bind ((scope.resolve body).given config) Resolved.text?) <;> simp

theorem given_choices (scope : Scope) (config : Bag) (listed : List String) (pieces : List Piece) :
    (scope.choices listed pieces).given config =
      (Pattern.assignments (scope.elementTexts? config) listed).map fun assignment =>
        pieces.map (Pattern.assign assignment) := by
  induction listed generalizing pieces with
  | nil => simp [choices, Pattern.assignments, Pattern.assign_nil]
  | cons body more ih =>
      rw [choices, Pattern.assignments, Demand.given_bind, elementTexts?, reading]
      cases Option.bind ((scope.resolve body).given config) Resolved.items? with
      | none => exact ih pieces
      | some items =>
          simp [ih, Pattern.substitute_assign, List.flatMap_def, List.map_flatten, Function.comp_def]

theorem given_expand (scope : Scope) (config : Bag) (pattern : String) (pieces : List Piece)
    (parsed : Pattern.parse? pattern = some pieces) :
    (scope.expand pattern).given config =
      (Pattern.assignments (scope.elementTexts? config) (Pattern.bodies pieces).eraseDups).map
        fun assignment => Pattern.write (pieces.map (Pattern.assign assignment)) := by
  simp [expand, parsed, given_choices]

theorem given_render (scope : Scope) (config : Bag) (pattern : String) :
    (scope.render pattern).given config =
      (Pattern.parse? pattern).bind (Pattern.fillAll (scope.scalarText? config)) := by
  cases parsed : Pattern.parse? pattern with
  | none => simp [render, parsed]
  | some pieces => simp [render, parsed, given_render_pieces]

theorem given_render_write (scope : Scope) (config : Bag) (pieces : List Piece)
    (clean : ∀ body ∈ Pattern.bodies pieces, Pattern.Braceless body) :
    (scope.render (Pattern.write pieces)).given config =
      Pattern.fillAll (scope.scalarText? config) pieces := by
  rw [given_render, Pattern.parse_write pieces clean, Option.bind_some, Pattern.fill_all_merge]
  simp

end Scope

end TokenIssuance
