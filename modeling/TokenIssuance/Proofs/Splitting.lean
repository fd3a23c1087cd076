import Mathlib.Logic.ExistsUnique
import TokenIssuance.Pattern.Piece

set_option autoImplicit false

namespace TokenIssuance.Pattern

def Braceless (body : String) : Prop := ∀ c ∈ body.toList, c ≠ '{' ∧ c ≠ '}'

def merge (read : List Char) : List Piece → List Piece
  | [] => flush read []
  | .literal text :: more => merge (text.toList.reverse ++ read) more
  | .field body :: more => flush read (.field body :: merge [] more)

theorem merge_flush (read text : List Char) (pieces : List Piece) :
    merge read (flush text pieces) = merge (text ++ read) pieces := by
  unfold flush
  split
  · rename_i empty
    rw [List.isEmpty_iff.mp empty, List.nil_append]
  · rw [merge, String.toList_ofList, List.reverse_reverse]

theorem merge_merge (read text : List Char) (pieces : List Piece) :
    merge read (merge text pieces) = merge (text ++ read) pieces := by
  induction pieces generalizing read text with
  | nil => exact merge_flush read text []
  | cons piece more ih =>
      cases piece with
      | literal other => rw [merge, ih, merge, List.append_assoc]
      | field body => rw [merge, merge_flush, merge, merge, ih, List.append_nil]

theorem parse_text_plain (read rest : List Char) (c : Char) (opens : c ≠ '{') (closes : c ≠ '}') :
    parseText read (c :: rest) = parseText (c :: read) rest := by
  rw [parseText]
  · exact fun _ same => absurd same opens
  · exact fun _ same => absurd same closes
  · exact opens
  · exact closes

-- What is read before stands in front of the pieces found after it, and does not count for whether
-- these braces match. The induction is on the scanner, for all that it may have read.
theorem parse_text_read (read chars : List Char) :
    parseText read chars = (parseText [] chars).map (merge read) := by
  refine parseText.induct
    (fun _ chars => ∀ read, parseText read chars = (parseText [] chars).map (merge read))
    (fun _ body chars => ∀ read,
      parseBody read body chars = (parseBody [] body chars).map (merge read))
    ?_ ?_ ?_ ?_ ?_ ?_ ?_ ?_ ?_ ?_ [] chars read
  case refine_1 =>
    intro _ read
    rw [parseText, parseText]
    rfl
  case refine_2 | refine_3 =>
    intro _ rest ih read
    rw [parseText, parseText, ih, ih [_], Option.map_map]
    simp [Function.comp_def, merge_merge]
  case refine_4 =>
    intro _ rest single ih read
    rw [parseText, parseText]
    · exact ih read
    · exact single
    · exact single
  case refine_5 =>
    intro _ rest single read
    rw [parseText, parseText]
    · rfl
    · exact single
    · exact single
  case refine_6 =>
    intro _ c rest _ _ opens closes ih read
    rw [parse_text_plain _ rest c opens closes, parse_text_plain _ rest c opens closes, ih, ih [c],
      Option.map_map]
    simp [Function.comp_def, merge_merge]
  case refine_7 =>
    intro _ body read
    rw [parseBody, parseBody]
    rfl
  case refine_8 =>
    intro _ body rest ih read
    rw [parseBody, parseBody, ih []]
    cases parseText [] rest with
    | none => rfl
    | some pieces => simp [merge_flush, merge, merge_merge]
  case refine_9 =>
    intro _ body rest read
    rw [parseBody, parseBody]
    rfl
  case refine_10 =>
    intro _ body c rest closes opens ih read
    rw [parseBody, parseBody]
    · exact ih read
    · exact closes
    · exact opens
    · exact closes
    · exact opens

theorem parse_text_escape (read text rest : List Char) :
    parseText read (text.flatMap escapeChar ++ rest) = parseText (text.reverse ++ read) rest := by
  induction text generalizing read with
  | nil => rfl
  | cons c text ih =>
      have step : parseText read (escapeChar c ++ (text.flatMap escapeChar ++ rest)) =
          parseText (c :: read) (text.flatMap escapeChar ++ rest) := by
        by_cases opens : c = '{'
        · subst opens
          rfl
        · by_cases closes : c = '}'
          · subst closes
            rfl
          · simpa [escapeChar, opens, closes] using parse_text_plain read _ c opens closes
      rw [List.flatMap_cons, List.append_assoc, step, ih]
      simp

theorem parse_body_closed (read body more rest : List Char) (clean : ∀ c ∈ more, c ≠ '{' ∧ c ≠ '}') :
    parseBody read body (more ++ '}' :: rest) =
      (parseText [] rest).map fun pieces =>
        flush read (.field (String.ofList (body.reverse ++ more)) :: pieces) := by
  induction more generalizing body with
  | nil =>
      rw [List.nil_append, parseBody, List.append_nil]
      cases parseText [] rest <;> rfl
  | cons c more ih =>
      have first := clean c List.mem_cons_self
      rw [List.cons_append, parseBody, ih]
      · simp
      · exact fun d member => clean d (List.mem_cons_of_mem c member)
      · exact first.2
      · exact first.1

theorem parse_text_field (read rest : List Char) (body : String) (clean : Braceless body) :
    parseText read ('{' :: (body.toList ++ '}' :: rest)) =
      (parseText [] rest).map fun pieces => flush read (.field body :: pieces) := by
  have single : ∀ more, body.toList ++ '}' :: rest ≠ '{' :: more := by
    intro more same
    cases bodyEq : body.toList with
    | nil => simp [bodyEq] at same
    | cons c chars =>
        rw [bodyEq, List.cons_append, List.cons.injEq] at same
        exact (clean c (by simp [bodyEq])).1 same.1
  rw [parseText, parse_body_closed read [] body.toList rest clean]
  · simp
  · exact single

theorem write_cons (piece : Piece) (more : List Piece) :
    (write (piece :: more)).toList = piece.write.toList ++ (write more).toList := by
  simp [write, String.join_cons]

theorem bodies_cons_field (body : String) (more : List Piece) :
    bodies (.field body :: more) = body :: bodies more := rfl

theorem bodies_cons_literal (text : String) (more : List Piece) :
    bodies (.literal text :: more) = bodies more := rfl

theorem parse_text_write (pieces : List Piece) (clean : ∀ body ∈ bodies pieces, Braceless body)
    (read rest : List Char) :
    parseText read ((write pieces).toList ++ rest) =
      (parseText [] rest).map fun more => merge read (pieces ++ more) := by
  induction pieces generalizing read with
  | nil => exact parse_text_read read rest
  | cons piece more ih =>
      rw [write_cons, List.append_assoc]
      cases piece with
      | literal text =>
          have chars : (Piece.write (.literal text)).toList = text.toList.flatMap escapeChar := by
            simp [Piece.write, escape]
          rw [chars, parse_text_escape]
          exact ih clean _
      | field body =>
          have chars : (Piece.write (.field body)).toList ++ ((write more).toList ++ rest) =
              '{' :: (body.toList ++ '}' :: ((write more).toList ++ rest)) := by
            simp [Piece.write]
          rw [bodies_cons_field] at clean
          rw [chars, parse_text_field _ _ _ (clean body List.mem_cons_self),
            ih fun other member => clean other (List.mem_cons_of_mem body member), Option.map_map]
          rfl

theorem parse_write (pieces : List Piece) (clean : ∀ body ∈ bodies pieces, Braceless body) :
    parse? (write pieces) = some (merge [] pieces) := by
  have written := parse_text_write pieces clean [] []
  rw [List.append_nil] at written
  rw [parse?, written, parseText]
  simp [flush]

theorem bodies_flush (read : List Char) (pieces : List Piece) : bodies (flush read pieces) = bodies pieces := by
  unfold flush
  split <;> rfl

theorem bodies_merge (read : List Char) (pieces : List Piece) :
    bodies (merge read pieces) = bodies pieces := by
  induction pieces generalizing read with
  | nil => exact bodies_flush read []
  | cons piece more ih =>
      cases piece with
      | literal text => exact ih _
      | field body => rw [merge, bodies_flush, bodies_cons_field, bodies_cons_field, ih]

structure Normal (pieces : List Piece) : Prop where
  shown : .literal "" ∉ pieces
  apart : ∀ first second, ¬ [.literal first, .literal second] <:+: pieces
  clean : ∀ body ∈ bodies pieces, Braceless body

def StartsWithText (pieces : List Piece) : Prop := ∃ text more, pieces = .literal text :: more

theorem normal_nil : Normal [] where
  shown := List.not_mem_nil
  apart := by simp
  clean := by simp [bodies]

theorem normal_field (body : String) (more : List Piece) (clean : Braceless body)
    (normal : Normal more) : Normal (.field body :: more) where
  shown := by simpa using normal.shown
  apart first second found := by
    rcases List.infix_cons_iff.mp found with here | later
    · simp at here
    · exact normal.apart first second later
  clean := by
    rw [bodies_cons_field, List.forall_mem_cons]
    exact ⟨clean, normal.clean⟩

theorem normal_flush (read : List Char) (pieces : List Piece) (normal : Normal pieces)
    (next : ¬ StartsWithText pieces) : Normal (flush read pieces) := by
  unfold flush
  split
  · exact normal
  · rename_i full
    refine ⟨?_, fun first second found => ?_, normal.clean⟩
    · have shown : "" ≠ String.ofList read.reverse := by
        intro empty
        have chars : read.reverse = [] := by
          rw [← String.toList_ofList (l := read.reverse), ← empty]
          rfl
        exact full (List.isEmpty_iff.mpr (List.reverse_eq_nil_iff.mp chars))
      simpa [shown] using normal.shown
    · rcases List.infix_cons_iff.mp found with here | later
      · obtain ⟨rest, same⟩ := here
        simp only [List.cons_append, List.nil_append, List.cons.injEq] at same
        exact next ⟨second, rest, same.2.symm⟩
      · exact normal.apart first second later

theorem normal_tail (piece : Piece) (more : List Piece) (normal : Normal (piece :: more)) :
    Normal more where
  shown := fun found => normal.shown (List.mem_cons_of_mem piece found)
  apart first second found := normal.apart first second (List.infix_cons found)
  clean body member := by
    refine normal.clean body ?_
    cases piece with
    | literal text => exact member
    | field other => exact List.mem_cons_of_mem other member

theorem normal_after_text (text : String) (more : List Piece) (normal : Normal (.literal text :: more)) :
    ¬ StartsWithText more := by
  rintro ⟨second, rest, rfl⟩
  exact normal.apart text second ⟨[], rest, rfl⟩

theorem merge_normal (pieces : List Piece) (normal : Normal pieces) (read : List Char)
    (free : read = [] ∨ ¬ StartsWithText pieces) : merge read pieces = flush read pieces := by
  induction pieces generalizing read with
  | nil => rfl
  | cons piece more ih =>
      have rest := normal_tail piece more normal
      cases piece with
      | literal text =>
          have alone : read = [] := free.resolve_right fun other => other ⟨text, more, rfl⟩
          have shown : text.toList ≠ [] := by
            intro empty
            refine normal.shown ?_
            rw [show text = "" from String.toList_inj.mp empty]
            exact List.mem_cons_self
          rw [alone, merge, List.append_nil,
            ih rest _ (.inr (normal_after_text text more normal))]
          simp [flush, shown]
      | field body =>
          rw [merge, ih rest [] (.inl rfl)]
          rfl

theorem parse_write_normal (pieces : List Piece) (normal : Normal pieces) :
    parse? (write pieces) = some pieces := by
  rw [parse_write pieces normal.clean, merge_normal pieces normal [] (.inl rfl)]
  rfl

theorem write_flush (read : List Char) (pieces : List Piece) :
    (write (flush read pieces)).toList =
      read.reverse.flatMap escapeChar ++ (write pieces).toList := by
  unfold flush
  split
  · rename_i empty
    rw [List.isEmpty_iff.mp empty]
    rfl
  · rw [write_cons]
    simp [Piece.write, escape]

-- The induction follows the scanner, which has read some text, and maybe part of a body after it. What
-- is written then starts with both, and the body is braceless as far as it is read.
theorem parse_text_written (read chars : List Char) :
    ∀ pieces, parseText read chars = some pieces →
      (write pieces).toList = read.reverse.flatMap escapeChar ++ chars ∧ Normal pieces := by
  refine parseText.induct
    (fun read chars => ∀ pieces, parseText read chars = some pieces →
      (write pieces).toList = read.reverse.flatMap escapeChar ++ chars ∧ Normal pieces)
    (fun read body chars => (∀ c ∈ body, c ≠ '{' ∧ c ≠ '}') → ∀ pieces,
      parseBody read body chars = some pieces →
      (write pieces).toList =
        read.reverse.flatMap escapeChar ++ '{' :: (body.reverse ++ chars) ∧ Normal pieces)
    ?_ ?_ ?_ ?_ ?_ ?_ ?_ ?_ ?_ ?_ read chars
  case refine_1 =>
    intro read pieces parsed
    rw [parseText, Option.some.injEq] at parsed
    rw [← parsed, write_flush]
    exact ⟨rfl, normal_flush read [] normal_nil (by simp [StartsWithText])⟩
  case refine_2 | refine_3 =>
    intro read rest ih pieces parsed
    obtain ⟨written, normal⟩ := ih pieces (by rwa [parseText] at parsed)
    refine ⟨written.trans ?_, normal⟩
    simp [escapeChar]
  case refine_4 =>
    intro read rest single ih pieces parsed
    rw [parseText] at parsed
    · exact ih (by simp) pieces parsed
    · exact single
  case refine_5 =>
    intro read rest single pieces parsed
    rw [parseText] at parsed
    · cases parsed
    · exact single
  case refine_6 =>
    intro read c rest _ _ opens closes ih pieces parsed
    rw [parse_text_plain read rest c opens closes] at parsed
    obtain ⟨written, normal⟩ := ih pieces parsed
    have plain : escapeChar c = [c] := if_neg (not_or.mpr ⟨opens, closes⟩)
    refine ⟨written.trans ?_, normal⟩
    simp [plain]
  case refine_7 =>
    intro read body clean pieces parsed
    rw [parseBody] at parsed
    cases parsed
  case refine_8 =>
    intro read body rest ih clean pieces parsed
    rw [parseBody] at parsed
    obtain ⟨more, found, same⟩ := Option.bind_eq_some_iff.mp parsed
    cases same
    obtain ⟨written, normal⟩ := ih more found
    have braceless : Braceless (String.ofList body.reverse) := by
      intro c inside
      exact clean c (by simpa using inside)
    refine ⟨?_, normal_flush read _ (normal_field _ more braceless normal) (by simp [StartsWithText])⟩
    rw [write_flush, write_cons, written]
    simp [Piece.write]
  case refine_9 =>
    intro read body rest clean pieces parsed
    rw [parseBody] at parsed
    cases parsed
  case refine_10 =>
    intro read body c rest closes opens ih clean pieces parsed
    rw [parseBody] at parsed
    · have longer : ∀ d ∈ c :: body, d ≠ '{' ∧ d ≠ '}' :=
        List.forall_mem_cons.mpr ⟨⟨opens, closes⟩, clean⟩
      obtain ⟨written, normal⟩ := ih longer pieces parsed
      exact ⟨by simpa using written, normal⟩
    · exact closes
    · exact opens

theorem parse_written (pattern : String) (pieces : List Piece) (parsed : parse? pattern = some pieces) :
    write pieces = pattern ∧ Normal pieces := by
  obtain ⟨written, normal⟩ := parse_text_written [] pattern.toList pieces parsed
  exact ⟨String.toList_inj.mp written, normal⟩

theorem parse_bodies_braceless (pattern : String) (pieces : List Piece)
    (parsed : parse? pattern = some pieces) : ∀ body ∈ bodies pieces, Braceless body :=
  (parse_written pattern pieces parsed).2.clean

theorem parse_some_iff (pattern : String) (pieces : List Piece) :
    parse? pattern = some pieces ↔ Normal pieces ∧ write pieces = pattern := by
  constructor
  · intro parsed
    exact (parse_written pattern pieces parsed).symm
  · rintro ⟨normal, rfl⟩
    exact parse_write_normal pieces normal

theorem parse_inverts_write :
    (∀ pattern pieces, parse? pattern = some pieces ↔ Normal pieces ∧ write pieces = pattern) ∧
    (∀ pieces, Normal pieces ↔ ∃! pattern, parse? pattern = some pieces) ∧
    (∀ pattern, parse? pattern = none ↔ ¬ ∃ pieces, Normal pieces ∧ write pieces = pattern) := by
  refine ⟨parse_some_iff, fun pieces => ⟨fun normal => ?_, ?_⟩, fun pattern => ?_⟩
  · refine ⟨write pieces, parse_write_normal pieces normal, fun other parsed => ?_⟩
    exact (parse_written other pieces parsed).1.symm
  · rintro ⟨pattern, parsed, _⟩
    exact (parse_written pattern pieces parsed).2
  · simp only [Option.eq_none_iff_forall_ne_some, ne_eq, parse_some_iff, not_exists]

example : parse? "\x7b\x7b\x7ba\x7d\x7d\x7d" =
    some [.literal "\x7b", .field "a", .literal "\x7d"] := by decide

end TokenIssuance.Pattern
