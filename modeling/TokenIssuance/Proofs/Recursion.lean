import TokenIssuance.Proofs.Asking

set_option autoImplicit false

namespace TokenIssuance

open Json (Bag Value)
open Pattern (Piece)

theorem erase_dups_filter (keeps : String → Bool) (list : List String) :
    (list.filter keeps).eraseDups = list.eraseDups.filter keeps := by
  match list with
  | [] => rfl
  | first :: more =>
      have rest := erase_dups_filter keeps (more.filter fun next => !next == first)
      rw [List.filter_filter] at rest
      by_cases kept : keeps first = true
      · rw [List.filter_cons_of_pos kept, List.eraseDups_cons, List.eraseDups_cons,
          List.filter_cons_of_pos kept, ← rest, List.filter_filter]
        simp only [Bool.and_comm]
      · have absent : more.filter keeps =
            more.filter fun next => keeps next && !next == first := by
          refine List.filter_congr fun next _ => ?_
          by_cases same : next = first <;> simp [same, kept]
        rw [List.filter_cons_of_neg kept, List.eraseDups_cons, List.filter_cons_of_neg kept, ← rest,
          absent]
termination_by list.length
decreasing_by exact others_shorter first more

namespace Pattern

def distinctBodies (pattern : String) : List String :=
  ((parse? pattern).map fun pieces => (bodies pieces).eraseDups).getD []

theorem bodies_substitute (body text : String) (pieces : List Piece) :
    bodies (substitute body text pieces) = (bodies pieces).filter fun next => !next == body := by
  induction pieces with
  | nil => rfl
  | cons piece more ih =>
      cases piece with
      | literal other => exact ih
      | field other =>
          by_cases same : other = body
          · subst same
            simpa [substitute, bodies_cons_field, bodies_cons_literal] using ih
          · simpa [substitute, same, bodies_cons_field] using ih

theorem parse_substituted (pattern body text : String) (pieces : List Piece)
    (parsed : parse? pattern = some pieces) :
    parse? (write (substitute body text pieces)) = some (merge [] (substitute body text pieces)) := by
  refine parse_write _ fun other member => ?_
  rw [bodies_substitute] at member
  exact parse_bodies_braceless pattern pieces parsed other (List.mem_filter.mp member).1

theorem distinct_bodies_substituted (pattern body text : String) (pieces : List Piece)
    (parsed : parse? pattern = some pieces) :
    distinctBodies (write (substitute body text pieces)) =
      (distinctBodies pattern).filter fun next => !next == body := by
  unfold distinctBodies
  rw [parse_substituted pattern body text pieces parsed, parsed]
  simp only [Option.map_some, Option.getD_some, bodies_merge, bodies_substitute, erase_dups_filter]

theorem fewer_bodies (pattern body text : String) (pieces : List Piece)
    (parsed : parse? pattern = some pieces) (member : body ∈ bodies pieces) :
    (distinctBodies (write (substitute body text pieces))).length <
      (distinctBodies pattern).length := by
  rw [distinct_bodies_substituted pattern body text pieces parsed]
  have distinct : body ∈ distinctBodies pattern := by
    simpa [distinctBodies, parsed] using member
  exact List.length_filter_lt_length_iff_exists.mpr ⟨body, distinct, by simp⟩

theorem map_assign_flush (assignment : Assignment) (read : List Char) (pieces : List Piece) :
    (flush read pieces).map (assign assignment) = flush read (pieces.map (assign assignment)) := by
  unfold flush
  split <;> rfl

theorem write_merge_assign (assignment : Assignment) (pieces : List Piece) (read : List Char) :
    (write ((merge read pieces).map (assign assignment))).toList =
      read.reverse.flatMap escapeChar ++ (write (pieces.map (assign assignment))).toList := by
  induction pieces generalizing read with
  | nil =>
      rw [merge, map_assign_flush, write_flush]
  | cons piece more ih =>
      cases piece with
      | literal text =>
          rw [merge, ih, List.map_cons, assign, write_cons]
          simp [Piece.write, escape]
      | field body =>
          rw [merge, map_assign_flush, write_flush, List.map_cons, List.map_cons, write_cons,
            write_cons, ih]
          rfl

theorem assignments_filter (elements : String → Option (List String)) (listed : List String) :
    assignments elements (listed.filter fun body => (elements body).isSome) =
      assignments elements listed := by
  induction listed with
  | nil => rfl
  | cons body more ih =>
      cases list : elements body with
      | none =>
          rw [List.filter_cons_of_neg (by simp [list]), ih, assignments, list]
      | some texts =>
          rw [List.filter_cons_of_pos (by simp [list]), assignments, list, assignments, list, ih]

theorem assignments_distinct (elements : String → Option (List String)) (bodies : List String) :
    assignments elements bodies.eraseDups =
      assignments elements (bodies.filter fun body => (elements body).isSome).eraseDups := by
  rw [erase_dups_filter, assignments_filter]

end Pattern

namespace Scope

section

variable {m : Type → Type} [Monad m]

def resolveVia (scope : Scope) (config : m Bag) (body : String) : m (Option Resolved) :=
  if body = "identity" then pure (some (.identity scope.identity.text))
  else if Placeholder.name body = "attributes" then
    pure ((scope.attributes.lookup? (Placeholder.path body)).map .value)
  else if Placeholder.name body = "config" then do
    let bag ← config
    return (bag.lookup? (Placeholder.path body)).map .value
  else pure none

def renderPiecesVia (scope : Scope) (config : m Bag) : List Piece → m (Option String)
  | [] => pure (some "")
  | .literal text :: more => do
      return (← scope.renderPiecesVia config more).map (text ++ ·)
  | .field body :: more => do
      match (← scope.resolveVia config body).bind Resolved.text? with
      | none => pure none
      | some text => return (← scope.renderPiecesVia config more).map (text ++ ·)

def renderVia (scope : Scope) (config : m Bag) (pattern : String) : m (Option String) :=
  match Pattern.parse? pattern with
  | none => pure none
  | some pieces => scope.renderPiecesVia config pieces

def firstListVia (scope : Scope) (config : m Bag) :
    (bodies : List String) → m (Option ({ body // body ∈ bodies } × List Value))
  | [] => pure none
  | body :: more => do
      match (← scope.resolveVia config body).bind Resolved.items? with
      | some items => return some (⟨body, List.mem_cons_self⟩, items)
      | none => do
          let found ← scope.firstListVia config more
          return found.map fun list => (⟨list.1.1, List.mem_cons_of_mem body list.1.2⟩, list.2)

def expandVia (scope : Scope) (config : m Bag) (pattern : String) : m (List String) :=
  match _parsed : Pattern.parse? pattern with
  | none => pure [pattern]
  | some pieces => do
      match ← scope.firstListVia config (Pattern.bodies pieces) with
      | none => return [pattern]
      | some (⟨body, _member⟩, items) => do
          let expanded ← (items.filterMap Value.scalarText?).mapM fun text =>
            scope.expandVia config (Pattern.write (Pattern.substitute body text pieces))
          return expanded.flatten
termination_by (Pattern.distinctBodies pattern).length
decreasing_by exact Pattern.fewer_bodies pattern body text pieces _parsed _member

def answerVia (scope : Scope) (config : m Bag) : Query → m Answer
  | .resolve body => .resolved <$> scope.resolveVia config body
  | .render pattern => .rendered <$> scope.renderVia config pattern
  | .expand .list pattern => .expanded <$> scope.expandVia config pattern
  | .expand .verbatim pattern => pure (.expanded [pattern])

end

theorem resolve_via_datum (scope : Scope) (body : String) :
    scope.resolveVia Demand.datum body = scope.resolve body := rfl

theorem render_pieces_via_datum (scope : Scope) (pieces : List Piece) :
    scope.renderPiecesVia Demand.datum pieces = scope.renderPieces pieces := by
  induction pieces with
  | nil => rfl
  | cons piece more ih =>
      cases piece with
      | literal text => rw [renderPiecesVia, renderPieces, ih]
      | field body =>
          rw [renderPiecesVia, ih]
          rfl

theorem render_via_datum (scope : Scope) (pattern : String) :
    scope.renderVia Demand.datum pattern = scope.render pattern := by
  unfold renderVia render
  cases Pattern.parse? pattern with
  | none => rfl
  | some pieces => exact render_pieces_via_datum scope pieces

def items? (scope : Scope) (config : Bag) (body : String) : Option (List Value) :=
  (scope.reading config body).bind Resolved.items?

theorem items_some_iff (scope : Scope) (config : Bag) (body : String) (items : List Value) :
    scope.items? config body = some items ↔
      scope.reading config body = some (.value (.array items)) := by
  rw [items?, Option.bind_eq_some_iff]
  simp only [Resolved.items_iff_array, exists_eq_right]

theorem element_texts_eq (scope : Scope) (config : Bag) (body : String) :
    scope.elementTexts? config body =
      (scope.items? config body).map (List.filterMap Value.scalarText?) := rfl

theorem first_list_asks_iff (scope : Scope) (config : Bag) (bodies : List String) :
    (scope.firstListVia Demand.datum bodies).asks = true ↔
      Reaches (fun body => scope.items? config body = none) bodies := by
  induction bodies with
  | nil => exact iff_of_false Bool.false_ne_true reaches_nil
  | cons body more ih =>
      rw [firstListVia, resolve_via_datum, Demand.asks_bind config, Bool.or_eq_true,
        resolve_asks_iff]
      by_cases names : Placeholder.name body = "config"
      · exact iff_of_true (.inl names) (reaches_config names)
      · rw [reaches_cons_iff names, ← ih, or_iff_right names, items?, reading]
        cases Option.bind ((scope.resolve body).given config) Resolved.items? with
        | none => simp
        | some items => simp

theorem first_list_given (scope : Scope) (config : Bag) (bodies : List String) :
    ((scope.firstListVia Demand.datum bodies).given config).map
        (fun list => (list.1.1, list.2)) =
      bodies.findSome? fun body => (scope.items? config body).map (body, ·) := by
  induction bodies with
  | nil => rfl
  | cons body more ih =>
      rw [firstListVia, resolve_via_datum, Demand.given_bind, List.findSome?_cons, items?, reading]
      cases Option.bind ((scope.resolve body).given config) Resolved.items? with
      | none => simpa [Function.comp_def] using ih
      | some items => rfl

theorem items_of_first_list (scope : Scope) (config : Bag) (bodies : List String) (body : String)
    (items : List Value)
    (first : bodies.findSome? (fun other => (scope.items? config other).map (other, ·)) =
      some (body, items)) : scope.items? config body = some items := by
  obtain ⟨other, _, found⟩ := List.exists_of_findSome?_eq_some first
  obtain ⟨list, elements, same⟩ := Option.map_eq_some_iff.mp found
  cases same
  exact elements

theorem given_expand_unlisted (scope : Scope) (config : Bag) (pattern : String)
    (pieces : List Piece) (parsed : Pattern.parse? pattern = some pieces)
    (unlisted : ∀ body ∈ Pattern.bodies pieces, scope.items? config body = none) :
    (scope.expand pattern).given config = [pattern] := by
  have none : (Pattern.bodies pieces).filter
      (fun body => (scope.elementTexts? config body).isSome) = [] := by
    rw [List.filter_eq_nil_iff]
    intro body member
    simp [element_texts_eq, unlisted body member]
  rw [given_expand scope config pattern pieces parsed, Pattern.assignments_distinct, none]
  simp [Pattern.assignments, Pattern.assign_nil, (Pattern.parse_written pattern pieces parsed).1]

theorem given_expand_listed (scope : Scope) (config : Bag) (pattern body : String)
    (pieces : List Piece) (items : List Value) (parsed : Pattern.parse? pattern = some pieces)
    (first : (Pattern.bodies pieces).findSome?
      (fun other => (scope.items? config other).map (other, ·)) = some (body, items)) :
    (scope.expand pattern).given config =
      (items.filterMap Value.scalarText?).flatMap fun text =>
        (scope.expand (Pattern.write (Pattern.substitute body text pieces))).given config := by
  let listed := fun other => (scope.elementTexts? config other).isSome
  obtain ⟨skipped, other, more, split, found, before⟩ := List.findSome?_eq_some_iff.mp first
  obtain ⟨list, elements, same⟩ := Option.map_eq_some_iff.mp found
  cases same
  have here : scope.elementTexts? config body = some (items.filterMap Value.scalarText?) := by
    rw [element_texts_eq, elements]
    rfl
  have lists : (Pattern.bodies pieces).filter listed = body :: more.filter listed := by
    have none : skipped.filter listed = [] := by
      rw [List.filter_eq_nil_iff]
      intro earlier member
      simpa [listed, element_texts_eq] using before earlier member
    rw [split, List.filter_append, none, List.nil_append, List.filter_cons_of_pos]
    simp [listed, here]
  have rest : ((Pattern.bodies pieces).filter fun next => !next == body).filter listed =
      (more.filter listed).filter fun next => !next == body := by
    have swapped : ((Pattern.bodies pieces).filter fun next => !next == body).filter listed =
        ((Pattern.bodies pieces).filter listed).filter fun next => !next == body := by
      simp only [List.filter_filter, Bool.and_comm]
    rw [swapped, lists, List.filter_cons_of_neg (by simp)]
  rw [given_expand scope config pattern pieces parsed, Pattern.assignments_distinct, lists,
    List.eraseDups_cons, Pattern.assignments, here, List.map_flatMap]
  refine congrArg (List.flatMap · _) (funext fun text => ?_)
  have parsedAgain := Pattern.parse_substituted pattern body text pieces parsed
  rw [given_expand scope config _ _ parsedAgain, Pattern.bodies_merge, Pattern.bodies_substitute,
    Pattern.assignments_distinct _ (List.filter _ (Pattern.bodies pieces)), rest, List.map_map]
  refine List.map_congr_left fun assignment _ => ?_
  refine String.toList_inj.mp ?_
  rw [Pattern.write_merge_assign, Pattern.substitute_assign]
  rfl

theorem unlisted_passes (scope : Scope) (config : Bag) (body : String)
    (unlisted : scope.items? config body = none) : scope.elementTexts? config body ≠ some [] := by
  simp [element_texts_eq, unlisted]

-- Either the config is asked for before the first list is passed, or that list does not name it and
-- has to have a text if anything after it asks.
theorem reaches_first_list (scope : Scope) (config : Bag) (bodies : List String) (body : String)
    (items : List Value)
    (first : bodies.findSome? (fun other => (scope.items? config other).map (other, ·)) =
      some (body, items)) :
    Reaches (fun other => scope.items? config other = none) bodies ∨
      (Placeholder.name body ≠ "config" ∧
        (Reaches (fun other => scope.elementTexts? config other ≠ some []) bodies →
          items.filterMap Value.scalarText? ≠ [])) := by
  induction bodies with
  | nil => cases first
  | cons other more ih =>
      by_cases names : Placeholder.name other = "config"
      · exact .inl (reaches_config names)
      · cases list : scope.items? config other with
        | none =>
            rw [List.findSome?_cons, list] at first
            rcases ih first with early | ⟨unnamed, full⟩
            · exact .inl ((reaches_cons_iff names).mpr ⟨list, early⟩)
            · exact .inr ⟨unnamed, fun reaches => full ((reaches_cons_iff names).mp reaches).2⟩
        | some elements =>
            rw [List.findSome?_cons, list] at first
            cases first
            refine .inr ⟨names, fun reaches empty => ?_⟩
            refine ((reaches_cons_iff names).mp reaches).1 ?_
            rw [element_texts_eq, list, Option.map_some, empty]

theorem expand_asks_unlisted (scope : Scope) (config : Bag) (pattern : String)
    (pieces : List Piece) (parsed : Pattern.parse? pattern = some pieces)
    (unlisted : ∀ body ∈ Pattern.bodies pieces, scope.items? config body = none) :
    (scope.expand pattern).asks = true ↔
      (scope.firstListVia Demand.datum (Pattern.bodies pieces)).asks = true := by
  rw [expand_asks_iff scope config pattern pieces parsed, first_list_asks_iff scope config]
  constructor
  · exact reaches_weaken fun body member _ => unlisted body member
  · exact reaches_weaken fun body _ => unlisted_passes scope config body

theorem expand_asks_listed (scope : Scope) (config : Bag) (pattern body : String)
    (pieces : List Piece) (items : List Value) (parsed : Pattern.parse? pattern = some pieces)
    (first : (Pattern.bodies pieces).findSome?
      (fun other => (scope.items? config other).map (other, ·)) = some (body, items)) :
    (scope.expand pattern).asks = true ↔
      (scope.firstListVia Demand.datum (Pattern.bodies pieces)).asks = true ∨
        ∃ text ∈ items.filterMap Value.scalarText?,
          (scope.expand (Pattern.write (Pattern.substitute body text pieces))).asks = true := by
  let full := fun other => scope.elementTexts? config other ≠ some []
  have early : Reaches (fun other => scope.items? config other = none) (Pattern.bodies pieces) →
      Reaches full (Pattern.bodies pieces) :=
    reaches_weaken fun other _ => unlisted_passes scope config other
  have again : ∀ text,
      (scope.expand (Pattern.write (Pattern.substitute body text pieces))).asks = true ↔
        Reaches full ((Pattern.bodies pieces).filter fun next => !next == body) := by
    intro text
    rw [expand_asks_iff scope config _ _ (Pattern.parse_substituted pattern body text pieces parsed),
      Pattern.bodies_merge, Pattern.bodies_substitute]
  have here : scope.elementTexts? config body = some (items.filterMap Value.scalarText?) := by
    rw [element_texts_eq, items_of_first_list scope config _ body items first, Option.map_some]
  rw [expand_asks_iff scope config pattern pieces parsed, first_list_asks_iff scope config]
  simp only [again]
  rcases reaches_first_list scope config _ body items first with reached | ⟨unnamed, filled⟩
  · exact iff_of_true (early reached) (.inl reached)
  · constructor
    · intro reaches
      obtain ⟨text, member⟩ := List.exists_mem_of_ne_nil _ (filled reaches)
      have passed : full body := by simpa [full, here] using filled reaches
      exact .inr ⟨text, member, (reaches_filter_iff unnamed passed).mpr reaches⟩
    · rintro (reached | ⟨text, member, reaches⟩)
      · exact early reached
      · have passed : full body := by simpa [full, here] using List.ne_nil_of_mem member
        exact (reaches_filter_iff unnamed passed).mp reaches

theorem first_list_cases (scope : Scope) (config : Bag) (bodies : List String) :
    ((scope.firstListVia Demand.datum bodies).given config = none ∧
        ∀ body ∈ bodies, scope.items? config body = none) ∨
      ∃ body member items,
        (scope.firstListVia Demand.datum bodies).given config = some (⟨body, member⟩, items) ∧
        bodies.findSome? (fun other => (scope.items? config other).map (other, ·)) =
          some (body, items) := by
  have first := first_list_given scope config bodies
  cases found : (scope.firstListVia Demand.datum bodies).given config with
  | none =>
      rw [found] at first
      refine .inl ⟨rfl, fun body member => ?_⟩
      simpa using List.findSome?_eq_none_iff.mp first.symm body member
  | some list =>
      rw [found] at first
      exact .inr ⟨list.1.1, list.1.2, list.2, rfl, first.symm⟩

theorem expand_via_datum (scope : Scope) (pattern : String) :
    scope.expandVia Demand.datum pattern = scope.expand pattern := by
  rw [expandVia]
  split
  · rename_i unsplit
    simp [expand, unsplit]
  · rename_i pieces parsed
    have ih : ∀ body ∈ Pattern.bodies pieces, ∀ text,
        scope.expandVia Demand.datum (Pattern.write (Pattern.substitute body text pieces)) =
          scope.expand (Pattern.write (Pattern.substitute body text pieces)) := by
      intro body member text
      -- The element takes the place of one distinct body.
      have smaller := Pattern.fewer_bodies pattern body text pieces parsed member
      exact expand_via_datum scope _
    refine Demand.ext_given (Bool.eq_iff_iff.mpr ?_) fun config => ?_
    · rw [Demand.asks_bind []]
      rcases first_list_cases scope [] (Pattern.bodies pieces) with
        ⟨found, unlisted⟩ | ⟨body, member, items, found, first⟩
      · rw [found, expand_asks_unlisted scope [] pattern pieces parsed unlisted]
        simp
      · rw [found, expand_asks_listed scope [] pattern body pieces items parsed first]
        simp only [Demand.asks_bind [], Demand.asks_mapM [], Demand.asks_pure, ih body member,
          Bool.or_false, Bool.or_eq_true, List.any_eq_true]
    · rw [Demand.given_bind]
      rcases first_list_cases scope config (Pattern.bodies pieces) with
        ⟨found, unlisted⟩ | ⟨body, member, items, found, first⟩
      · rw [found, given_expand_unlisted scope config pattern pieces parsed unlisted]
        rfl
      · rw [found, given_expand_listed scope config pattern body pieces items parsed first]
        simp [ih body member, List.flatMap_def]
termination_by (Pattern.distinctBodies pattern).length

theorem answer_via_datum (scope : Scope) (query : Query) :
    scope.answerVia Demand.datum query = scope.answer query := by
  cases query with
  | resolve body => rfl
  | render pattern => rw [answerVia, render_via_datum, answer]
  | expand expander pattern =>
      cases expander with
      | list =>
          rw [answerVia, expand_via_datum]
          rfl
      | verbatim => rfl

end Scope

end TokenIssuance
