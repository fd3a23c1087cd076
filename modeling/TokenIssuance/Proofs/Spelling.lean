import TokenIssuance.Pattern.Path

set_option autoImplicit false

namespace TokenIssuance.Path

def Clear (chars : List Char) : Prop := ∀ c ∈ chars, c ≠ '.' ∧ c ≠ '[' ∧ c ≠ ']'

structure Plain (segment : String) : Prop where
  full : segment ≠ ""
  clear : Clear segment.toList

structure Segment where
  text : String
  plain : Plain text

inductive Part where
  | bare (segment : Segment)
  | group (first : Segment) (more : List Segment)

def dotted (first : Segment) (more : List Segment) : String :=
  ".".intercalate ((first :: more).map Segment.text)

namespace Part

def segments : Part → List String
  | bare segment => [segment.text]
  | group first more => (first :: more).map Segment.text

def head : Part → String
  | bare segment => segment.text
  | group first more => "[" ++ dotted first more ++ "]"

def tail : Part → String
  | bare segment => "." ++ segment.text
  | group first more => (group first more).head

end Part

inductive Spelling where
  | empty
  | parts (first : Part) (later : List Part)

namespace Spelling

def write : Spelling → String
  | empty => ""
  | parts first later => first.head ++ String.join (later.map Part.tail)

def segments : Spelling → List String
  | empty => []
  | parts first later => (first :: later).flatMap Part.segments

end Spelling

def EndsSegment (rest : List Char) : Prop :=
  rest = [] ∨ ∃ c more, rest = c :: more ∧ (c = '.' ∨ c = '[')

theorem parse_plain_clear (read chars rest : List Char) (clear : Clear chars) :
    parsePlain read (chars ++ rest) = parsePlain (chars.reverse ++ read) rest := by
  induction chars generalizing read with
  | nil => rfl
  | cons c chars ih =>
      obtain ⟨⟨dot, opens, closes⟩, later⟩ := List.forall_mem_cons.mp clear
      have step : parsePlain read (c :: (chars ++ rest)) = parsePlain (c :: read) (chars ++ rest) := by
        rw [parsePlain, if_neg dot, if_neg opens, if_neg closes]
      rw [List.cons_append, step, ih (c :: read) later]
      simp

theorem parse_group_clear (read chars rest : List Char) (clear : Clear chars) :
    parseGroup read (chars ++ rest) = parseGroup (chars.reverse ++ read) rest := by
  induction chars generalizing read with
  | nil => rfl
  | cons c chars ih =>
      obtain ⟨⟨dot, opens, closes⟩, later⟩ := List.forall_mem_cons.mp clear
      have step : parseGroup read (c :: (chars ++ rest)) = parseGroup (c :: read) (chars ++ rest) := by
        rw [parseGroup, if_neg closes, if_neg dot, if_neg opens]
      rw [List.cons_append, step, ih (c :: read) later]
      simp

theorem segment_read (segment : Segment) :
    segment? segment.text.toList.reverse = some segment.text := by
  have full : segment.text.toList.reverse.isEmpty = false := by
    simpa using segment.plain.full
  simp [segment?, full]

theorem segment_of_read (read : List Char) (text : String) (clear : Clear read)
    (found : segment? read = some text) :
    ∃ segment : Segment, segment.text = text ∧ segment.text.toList = read.reverse := by
  by_cases empty : read.isEmpty = true
  · simp [segment?, empty] at found
  · simp only [segment?, if_neg empty, Option.some.injEq] at found
    have chars : text.toList = read.reverse := by simp [← found]
    have plain : Plain text := by
      refine ⟨?_, ?_⟩
      · intro none
        have reversed : read.reverse = [] := by simp [← chars, none]
        exact empty (by simpa using reversed)
      · intro c member
        rw [chars, List.mem_reverse] at member
        exact clear c member
    exact ⟨⟨text, plain⟩, rfl, chars⟩

theorem read_segment (read : List Char) (next : Option (List String)) (segments : List String)
    (clear : Clear read)
    (found : (do return (← segment? read) :: (← next) : Option (List String)) = some segments) :
    ∃ segment : Segment, ∃ more, segment.text.toList = read.reverse ∧ next = some more ∧
      segments = segment.text :: more := by
  obtain ⟨text, present, rest⟩ := Option.bind_eq_some_iff.mp found
  obtain ⟨more, parsed, same⟩ := Option.bind_eq_some_iff.mp rest
  obtain ⟨segment, rfl, chars⟩ := segment_of_read read text clear present
  exact ⟨segment, more, chars, parsed, (Option.some.inj same).symm⟩

theorem parse_plain_ended (read rest : List Char) (ended : EndsSegment rest) :
    parsePlain read rest = (segment? read).bind fun text => (parseTail rest).map (text :: ·) := by
  obtain rfl | ⟨c, more, rfl, rfl | rfl⟩ := ended
  · rw [parsePlain, parseTail]
    cases segment? read <;> rfl
  · rw [parsePlain, if_pos rfl, parseTail, if_pos rfl]
    cases segment? read <;> cases parsePlain [] more <;> rfl
  · rw [parsePlain, if_neg (by decide), if_pos rfl, parseTail, if_neg (by decide), if_pos rfl]
    cases segment? read <;> cases parseGroup [] more <;> rfl

theorem parse_plain_segment (segment : Segment) (rest : List Char) (ended : EndsSegment rest) :
    parsePlain [] (segment.text.toList ++ rest) = (parseTail rest).map (segment.text :: ·) := by
  rw [parse_plain_clear [] _ rest segment.plain.clear, List.append_nil, parse_plain_ended _ rest ended,
    segment_read]
  rfl

theorem dotted_one (segment : Segment) : dotted segment [] = segment.text := by
  simp [dotted]

theorem dotted_cons (first second : Segment) (more : List Segment) :
    dotted first (second :: more) = first.text ++ "." ++ dotted second more := by
  simp [dotted]

theorem parse_group_dotted (first : Segment) (more : List Segment) (rest : List Char) :
    parseGroup [] ((dotted first more).toList ++ ']' :: rest) =
      (parseTail rest).map ((first :: more).map Segment.text ++ ·) := by
  induction more generalizing first with
  | nil =>
      rw [dotted_one, parse_group_clear [] _ _ first.plain.clear, List.append_nil, parseGroup,
        if_pos rfl, segment_read]
      cases parseTail rest <;> rfl
  | cons second more ih =>
      have chars : (dotted first (second :: more)).toList ++ ']' :: rest =
          first.text.toList ++ '.' :: ((dotted second more).toList ++ ']' :: rest) := by
        simp [dotted_cons]
      rw [chars, parse_group_clear [] _ _ first.plain.clear, List.append_nil, parseGroup,
        if_neg (by decide), if_pos rfl, segment_read, ih second]
      cases parseTail rest <;> rfl

def tailChars (parts : List Part) : List Char := (String.join (parts.map Part.tail)).toList

theorem tail_chars_bare (segment : Segment) (parts : List Part) :
    tailChars (.bare segment :: parts) = '.' :: (segment.text.toList ++ tailChars parts) := by
  simp [tailChars, Part.tail, String.join_cons]

theorem tail_chars_group (first : Segment) (more : List Segment) (parts : List Part) :
    tailChars (.group first more :: parts) =
      '[' :: ((dotted first more).toList ++ ']' :: tailChars parts) := by
  simp [tailChars, Part.tail, Part.head, String.join_cons]

theorem tail_ends_segment (parts : List Part) : EndsSegment (tailChars parts) := by
  cases parts with
  | nil => exact .inl rfl
  | cons part parts =>
      cases part with
      | bare segment => exact .inr ⟨'.', _, tail_chars_bare segment parts, .inl rfl⟩
      | group first more => exact .inr ⟨'[', _, tail_chars_group first more parts, .inr rfl⟩

theorem parse_tail_chars (parts : List Part) :
    parseTail (tailChars parts) = some (parts.flatMap Part.segments) := by
  induction parts with
  | nil => rfl
  | cons part parts ih =>
      cases part with
      | bare segment =>
          rw [tail_chars_bare, parseTail, if_pos rfl,
            parse_plain_segment segment _ (tail_ends_segment parts), ih]
          rfl
      | group first more =>
          rw [tail_chars_group, parseTail, if_neg (by decide), if_pos rfl, parse_group_dotted, ih]
          rfl

theorem head_chars_group (first : Segment) (more : List Segment) (rest : List Char) :
    (Part.group first more).head.toList ++ rest =
      '[' :: ((dotted first more).toList ++ ']' :: rest) := by
  simp [Part.head]

theorem parse_chars_plain (segment : Segment) (rest : List Char) :
    parseChars (segment.text.toList ++ rest) = parsePlain [] (segment.text.toList ++ rest) := by
  cases chars : segment.text.toList with
  | nil => exact absurd (String.toList_eq_nil_iff.mp chars) segment.plain.full
  | cons c more =>
      have opens : c ≠ '[' := (segment.plain.clear c (by simp [chars])).2.1
      rw [List.cons_append, parseChars, if_neg opens]

theorem parse_write (spelling : Spelling) : parse? spelling.write = some spelling.segments := by
  cases spelling with
  | empty => rfl
  | parts first later =>
      have chars : (Spelling.parts first later).write.toList = first.head.toList ++ tailChars later := by
        simp [Spelling.write, tailChars]
      rw [parse?, chars]
      cases first with
      | bare segment =>
          rw [Part.head, parse_chars_plain, parse_plain_segment segment _ (tail_ends_segment later),
            parse_tail_chars]
          rfl
      | group first more =>
          rw [head_chars_group, parseChars, if_pos rfl, parse_group_dotted, parse_tail_chars]
          rfl

def SpelledTail (chars : List Char) (segments : List String) : Prop :=
  ∃ parts, tailChars parts = chars ∧ parts.flatMap Part.segments = segments

def SpelledPlain (chars : List Char) (segments : List String) : Prop :=
  ∃ segment parts, segment.text.toList ++ tailChars parts = chars ∧
    (Part.bare segment :: parts).flatMap Part.segments = segments

def SpelledGroup (chars : List Char) (segments : List String) : Prop :=
  ∃ first more parts, (dotted first more).toList ++ ']' :: tailChars parts = chars ∧
    (Part.group first more :: parts).flatMap Part.segments = segments

theorem spelled_tail_dot (chars : List Char) (segments : List String)
    (spelled : SpelledPlain chars segments) : SpelledTail ('.' :: chars) segments := by
  obtain ⟨segment, parts, rfl, rfl⟩ := spelled
  exact ⟨.bare segment :: parts, tail_chars_bare segment parts, rfl⟩

theorem spelled_tail_group (chars : List Char) (segments : List String)
    (spelled : SpelledGroup chars segments) : SpelledTail ('[' :: chars) segments := by
  obtain ⟨first, more, parts, rfl, rfl⟩ := spelled
  exact ⟨.group first more :: parts, tail_chars_group first more parts, rfl⟩

theorem spelled_plain_ended (segment : Segment) (rest : List Char) (segments : List String)
    (spelled : SpelledTail rest segments) :
    SpelledPlain (segment.text.toList ++ rest) (segment.text :: segments) := by
  obtain ⟨parts, rfl, rfl⟩ := spelled
  exact ⟨segment, parts, rfl, rfl⟩

theorem spelled_group_closed (segment : Segment) (rest : List Char) (segments : List String)
    (spelled : SpelledTail rest segments) :
    SpelledGroup (segment.text.toList ++ ']' :: rest) (segment.text :: segments) := by
  obtain ⟨parts, rfl, rfl⟩ := spelled
  exact ⟨segment, [], parts, by rw [dotted_one], rfl⟩

theorem spelled_group_dot (segment : Segment) (rest : List Char) (segments : List String)
    (spelled : SpelledGroup rest segments) :
    SpelledGroup (segment.text.toList ++ '.' :: rest) (segment.text :: segments) := by
  obtain ⟨first, more, parts, rfl, rfl⟩ := spelled
  exact ⟨segment, first :: more, parts, by simp [dotted_cons], rfl⟩

-- Some characters of a segment are read. They hold nothing that ends it, and go in front of what is
-- spelled after them.
mutual
theorem parse_tail_spelled (chars : List Char) (segments : List String)
    (parsed : parseTail chars = some segments) : SpelledTail chars segments := by
  cases chars with
  | nil =>
      rw [parseTail] at parsed
      exact ⟨[], rfl, Option.some.inj parsed⟩
  | cons c rest =>
      rw [parseTail] at parsed
      by_cases dot : c = '.'
      · rw [if_pos dot] at parsed
        rw [dot]
        exact spelled_tail_dot rest segments
          (parse_plain_spelled [] rest segments (by simp [Clear]) parsed)
      · by_cases opens : c = '['
        · rw [if_neg dot, if_pos opens] at parsed
          rw [opens]
          exact spelled_tail_group rest segments
            (parse_group_spelled [] rest segments (by simp [Clear]) parsed)
        · rw [if_neg dot, if_neg opens] at parsed
          cases parsed
theorem parse_plain_spelled (read chars : List Char) (segments : List String) (clear : Clear read)
    (parsed : parsePlain read chars = some segments) :
    SpelledPlain (read.reverse ++ chars) segments := by
  cases chars with
  | nil =>
      rw [parsePlain] at parsed
      obtain ⟨segment, more, front, none, rfl⟩ := read_segment read (some []) segments clear parsed
      rw [← front]
      exact spelled_plain_ended segment [] more ⟨[], rfl, Option.some.inj none⟩
  | cons c rest =>
      rw [parsePlain] at parsed
      by_cases dot : c = '.'
      · rw [if_pos dot] at parsed
        obtain ⟨segment, more, front, later, rfl⟩ := read_segment read _ segments clear parsed
        rw [← front, dot]
        exact spelled_plain_ended segment ('.' :: rest) more (spelled_tail_dot rest more
          (parse_plain_spelled [] rest more (by simp [Clear]) later))
      · rw [if_neg dot] at parsed
        by_cases opens : c = '['
        · rw [if_pos opens] at parsed
          obtain ⟨segment, more, front, later, rfl⟩ := read_segment read _ segments clear parsed
          rw [← front, opens]
          exact spelled_plain_ended segment ('[' :: rest) more (spelled_tail_group rest more
            (parse_group_spelled [] rest more (by simp [Clear]) later))
        · rw [if_neg opens] at parsed
          by_cases closes : c = ']'
          · rw [if_pos closes] at parsed
            cases parsed
          · rw [if_neg closes] at parsed
            have longer : Clear (c :: read) := List.forall_mem_cons.mpr ⟨⟨dot, opens, closes⟩, clear⟩
            simpa using parse_plain_spelled (c :: read) rest segments longer parsed
theorem parse_group_spelled (read chars : List Char) (segments : List String) (clear : Clear read)
    (parsed : parseGroup read chars = some segments) :
    SpelledGroup (read.reverse ++ chars) segments := by
  cases chars with
  | nil =>
      rw [parseGroup] at parsed
      cases parsed
  | cons c rest =>
      rw [parseGroup] at parsed
      by_cases closes : c = ']'
      · rw [if_pos closes] at parsed
        obtain ⟨segment, more, front, later, rfl⟩ := read_segment read _ segments clear parsed
        rw [← front, closes]
        exact spelled_group_closed segment rest more (parse_tail_spelled rest more later)
      · rw [if_neg closes] at parsed
        by_cases dot : c = '.'
        · rw [if_pos dot] at parsed
          obtain ⟨segment, more, front, later, rfl⟩ := read_segment read _ segments clear parsed
          rw [← front, dot]
          exact spelled_group_dot segment rest more
            (parse_group_spelled [] rest more (by simp [Clear]) later)
        · rw [if_neg dot] at parsed
          by_cases opens : c = '['
          · rw [if_pos opens] at parsed
            cases parsed
          · rw [if_neg opens] at parsed
            have longer : Clear (c :: read) := List.forall_mem_cons.mpr ⟨⟨dot, opens, closes⟩, clear⟩
            simpa using parse_group_spelled (c :: read) rest segments longer parsed
end

theorem parse_spelled (path : String) (segments : List String) (parsed : parse? path = some segments) :
    ∃ spelling : Spelling, spelling.write = path ∧ spelling.segments = segments := by
  have found : parseChars path.toList = some segments := parsed
  cases chars : path.toList with
  | nil =>
      rw [chars, parseChars] at found
      refine ⟨.empty, ?_, Option.some.inj found⟩
      exact (String.toList_eq_nil_iff.mp chars).symm
  | cons c rest =>
      rw [chars, parseChars] at found
      by_cases opens : c = '['
      · rw [if_pos opens] at found
        obtain ⟨first, more, later, front, spelled⟩ :=
          parse_group_spelled [] rest segments (by simp [Clear]) found
        refine ⟨.parts (.group first more) later, ?_, spelled⟩
        rw [← String.toList_inj, Spelling.write, String.toList_append, head_chars_group, chars, opens]
        exact congrArg _ front
      · rw [if_neg opens] at found
        obtain ⟨segment, later, front, spelled⟩ :=
          parse_plain_spelled [] (c :: rest) segments (by simp [Clear]) found
        refine ⟨.parts (.bare segment) later, ?_, spelled⟩
        rw [← String.toList_inj, Spelling.write, String.toList_append, chars]
        exact front

theorem parse_some_iff (path : String) (segments : List String) :
    parse? path = some segments ↔
      ∃ spelling : Spelling, spelling.write = path ∧ spelling.segments = segments := by
  constructor
  · exact parse_spelled path segments
  · rintro ⟨spelling, rfl, rfl⟩
    exact parse_write spelling

theorem spelling_plain (spelling : Spelling) : ∀ segment ∈ spelling.segments, Plain segment := by
  have part : ∀ part : Part, ∀ segment ∈ part.segments, Plain segment := by
    intro part
    cases part with
    | bare named => simpa [Part.segments] using named.plain
    | group first more =>
        rw [Part.segments, List.forall_mem_map]
        exact fun named _ => named.plain
  cases spelling with
  | empty => simp [Spelling.segments]
  | parts first later =>
      intro segment member
      obtain ⟨here, _, inside⟩ := List.mem_flatMap.mp member
      exact part here segment inside

theorem parse_inverts_spelling :
    (∀ path segments, parse? path = some segments ↔
      ∃ spelling : Spelling, spelling.write = path ∧ spelling.segments = segments) ∧
    (∀ path, parse? path = none ↔ ¬ ∃ spelling : Spelling, spelling.write = path) ∧
    (∀ spelling : Spelling, parse? spelling.write = some spelling.segments) ∧
    (∀ path segments, parse? path = some segments → ∀ segment ∈ segments, Plain segment) := by
  refine ⟨parse_some_iff, fun path => ?_, parse_write, fun path segments parsed => ?_⟩
  · constructor
    · rintro unread ⟨spelling, rfl⟩
      rw [parse_write] at unread
      cases unread
    · intro unspelled
      rw [Option.eq_none_iff_forall_ne_some]
      intro segments parsed
      obtain ⟨spelling, written, _⟩ := parse_spelled path segments parsed
      exact unspelled ⟨spelling, written⟩
  · obtain ⟨spelling, _, rfl⟩ := parse_spelled path segments parsed
    exact spelling_plain spelling

theorem grouped_path_read :
    parse? "deep[foo.bar][0].id" = some ["deep", "foo", "bar", "0", "id"] ∧
      ∀ segment ∈ ["deep", "foo", "bar", "0", "id"], Plain segment := by
  have read : parse? "deep[foo.bar][0].id" = some ["deep", "foo", "bar", "0", "id"] := by cbv
  exact ⟨read, parse_inverts_spelling.2.2.2 _ _ read⟩

end TokenIssuance.Path
