import TokenIssuance.Proofs.Spelling

set_option autoImplicit false

namespace TokenIssuance

open Json (Bag Value)

inductive Json.Value.Indexable : Value → Prop where
  | null : Indexable .null
  | boolean (value : Bool) : Indexable (.boolean value)
  | number (value : Json.Number) : Indexable (.number value)
  | string (text : String) : Indexable (.string text)
  | array {items : List Value} (short : items.length < UInt64.size)
      (each : ∀ item ∈ items, Indexable item) : Indexable (.array items)
  | object {members : List (String × Value)} (each : ∀ member ∈ members, Indexable member.2) :
      Indexable (.object members)

namespace Path

inductive Step where
  | key (name : String)
  | index (number : Nat)

def Step.segment : Step → String
  | key name => name
  | index number => toString number

inductive Holds : Value → List Step → Value → Prop where
  | here (value : Value) : Holds value [] value
  | member {members : List (String × Value)} {name : String} {next found : Value} {more : List Step}
      (present : members.lookup name = some next) (inside : Holds next more found) :
      Holds (.object members) (.key name :: more) found
  | item {items : List Value} {number : Nat} {next found : Value} {more : List Step}
      (present : items[number]? = some next) (inside : Holds next more found) :
      Holds (.array items) (.index number :: more) found

def Denotes (segment : String) (number : Nat) : Prop :=
  ∃ digits : List Char, (segment.toList = digits ∨ segment.toList = '+' :: digits) ∧
    digits ≠ [] ∧ (∀ c ∈ digits, c.isDigit) ∧ Nat.ofDigitChars 10 digits 0 = number

-- Segments lead from a value to one inside it: a segment is the key itself in an object, and the number
-- of an element in an array.
inductive Leads : List String → Value → Value → Prop where
  | here (value : Value) : Leads [] value value
  | member {segment : String} {more : List String} {members : List (String × Value)}
      {next found : Value} (present : members.lookup segment = some next)
      (later : Leads more next found) : Leads (segment :: more) (.object members) found
  | item {segment : String} {more : List String} {items : List Value} {number : Nat} {found : Value}
      (denotes : Denotes segment number) (fits : number < UInt64.size)
      (inside : number < items.length) (later : Leads more items[number] found) :
      Leads (segment :: more) (.array items) found

theorem number_in_digits (digits : List Char) (decimal : ∀ c ∈ digits, c.isDigit) :
    Text.numberIn 10 digits = Nat.ofDigitChars 10 digits 0 := by
  rw [Text.numberIn, Nat.ofDigitChars_eq_foldl]
  refine List.foldl_rel rfl fun c member value other same => ?_
  rw [same, Text.digitValue, if_pos (decimal c member), Nat.mul_comm]

theorem index_of_digits (segment : String) (digits : List Char)
    (signed : segment.toList = digits ∨ segment.toList = '+' :: digits) (full : digits ≠ [])
    (decimal : ∀ c ∈ digits, c.isDigit) :
    index? segment = (some (Nat.ofDigitChars 10 digits 0)).filter (· < UInt64.size) := by
  have allowed : ¬ (digits.isEmpty || !digits.all Char.isDigit) = true := by
    simpa [full] using decimal
  unfold index?
  split
  · rename_i rest plus
    have same : rest = digits := by
      rcases signed with bare | sign
      · have digit := decimal '+' (by simp [← bare, plus])
        cases digit
      · exact (List.cons.inj (plus.symm.trans sign)).2
    rw [same, if_neg allowed, number_in_digits digits decimal]
  · rename_i unsigned
    have same : segment.toList = digits := signed.resolve_right (unsigned digits)
    rw [same, if_neg allowed, number_in_digits digits decimal]

theorem denotes_of_found (segment : String) (digits : List Char) (number : Nat)
    (signed : segment.toList = digits ∨ segment.toList = '+' :: digits)
    (found : (if digits.isEmpty || !digits.all Char.isDigit then none
      else (some (Text.numberIn 10 digits)).filter (· < UInt64.size)) = some number) :
    Denotes segment number ∧ number < UInt64.size := by
  split at found
  · cases found
  · rename_i allowed
    obtain ⟨same, fits⟩ := Option.filter_eq_some_iff.mp found
    have full : digits ≠ [] := by
      rintro rfl
      exact allowed rfl
    have decimal : ∀ c ∈ digits, c.isDigit := by
      simpa [full] using allowed
    rw [Option.some.injEq, number_in_digits digits decimal] at same
    exact ⟨⟨digits, signed, full, decimal, same⟩, by simpa using fits⟩

theorem index_some_iff (segment : String) (number : Nat) :
    index? segment = some number ↔ Denotes segment number ∧ number < UInt64.size := by
  constructor
  · intro found
    unfold index? at found
    split at found
    · rename_i rest plus
      exact denotes_of_found segment rest number (.inr plus) found
    · exact denotes_of_found segment segment.toList number (.inl rfl) found
  · rintro ⟨⟨digits, signed, full, decimal, rfl⟩, fits⟩
    rw [index_of_digits segment digits signed full decimal, Option.filter_eq_some_iff]
    exact ⟨rfl, by simpa using fits⟩

theorem leads_of_descend (segments : List String) (value found : Value)
    (reached : descend? segments value = some found) : Leads segments value found := by
  induction segments generalizing value with
  | nil =>
      cases Option.some.inj reached
      exact .here found
  | cons segment more ih =>
      cases value with
      | object members =>
          obtain ⟨next, present, later⟩ := Option.bind_eq_some_iff.mp reached
          exact .member present (ih next later)
      | array items =>
          obtain ⟨next, present, later⟩ := Option.bind_eq_some_iff.mp reached
          obtain ⟨number, named, present⟩ := Option.bind_eq_some_iff.mp present
          obtain ⟨denotes, fits⟩ := (index_some_iff segment number).mp named
          obtain ⟨inside, rfl⟩ := List.getElem?_eq_some_iff.mp present
          exact .item denotes fits inside (ih _ later)
      | _ => cases reached

theorem descend_of_leads (segments : List String) (value found : Value)
    (leads : Leads segments value found) : descend? segments value = some found := by
  induction leads with
  | here value => rfl
  | member present later ih => rw [descend?, present, Option.bind_some, ih]
  | item denotes fits inside later ih =>
      have named := (index_some_iff _ _).mpr ⟨denotes, fits⟩
      rw [descend?, named, Option.bind_some, List.getElem?_eq_getElem inside, Option.bind_some, ih]

theorem lookup_leads_iff (bag : Bag) (path : String) (found : Value) :
    bag.lookup? path = some found ↔
      ∃ segments, parse? path = some segments ∧ segments ≠ [] ∧
        Leads segments (.object bag) found := by
  rw [Json.Bag.lookup_some_iff]
  constructor
  · rintro ⟨first, more, parsed, reached⟩
    exact ⟨_, parsed, List.cons_ne_nil first more, leads_of_descend _ _ found reached⟩
  · rintro ⟨segments, parsed, full, leads⟩
    obtain ⟨first, more, rfl⟩ := List.exists_cons_of_ne_nil full
    exact ⟨first, more, parsed, descend_of_leads _ _ found leads⟩

theorem decimal_denotes (number : Nat) : Denotes (toString number) number := by
  refine ⟨Nat.toDigits 10 number, .inl ?_, Nat.toDigits_ne_nil, fun c member => ?_,
    Nat.ofDigitChars_ten_toDigits⟩
  · rw [Nat.toString_eq_ofList_toDigits, String.toList_ofList]
  · exact Nat.isDigit_of_mem_toDigits (by decide) (by decide) member

theorem decimal_plain (number : Nat) : Plain (toString number) where
  full := by
    rw [Nat.toString_eq_ofList_toDigits, ne_eq, ← String.toList_inj, String.toList_ofList]
    exact Nat.toDigits_ne_nil
  clear c member := by
    rw [Nat.toString_eq_ofList_toDigits, String.toList_ofList] at member
    have digit := Nat.isDigit_of_mem_toDigits (by decide) (by decide) member
    refine ⟨?_, ?_, ?_⟩ <;> rintro rfl <;> cases digit

theorem leads_of_holds (value found : Value) (steps : List Step) (indexable : value.Indexable)
    (holds : Holds value steps found) : Leads (steps.map Step.segment) value found := by
  induction holds with
  | here value => exact .here value
  | @member members name next found more present inside ih =>
      cases indexable with
      | object each =>
          have member : (name, next) ∈ members := by
            obtain ⟨before, after, split, _⟩ := List.lookup_eq_some_iff.mp present
            simp [split]
          exact .member present (ih (each _ member))
  | @item items number next found more present inside ih =>
      cases indexable with
      | array short each =>
          obtain ⟨bound, rfl⟩ := List.getElem?_eq_some_iff.mp present
          have fits : number < UInt64.size := by omega
          exact .item (decimal_denotes number) fits bound (ih (each _ (List.getElem_mem bound)))

theorem steps_plain (steps : List Step) (plain : ∀ name, .key name ∈ steps → Plain name) :
    ∀ text ∈ steps.map Step.segment, Plain text := by
  rw [List.forall_mem_map]
  intro step member
  cases step with
  | key name => exact plain name member
  | index number => exact decimal_plain number

theorem segments_exist (texts : List String) (plain : ∀ text ∈ texts, Plain text) :
    ∃ segments : List Segment, segments.map Segment.text = texts := by
  induction texts with
  | nil => exact ⟨[], rfl⟩
  | cons text more ih =>
      rw [List.forall_mem_cons] at plain
      obtain ⟨segments, rfl⟩ := ih plain.2
      exact ⟨⟨text, plain.1⟩ :: segments, rfl⟩

theorem spelling_exists (texts : List String) (plain : ∀ text ∈ texts, Plain text) :
    ∃ spelling : Spelling, spelling.segments = texts := by
  obtain ⟨segments, rfl⟩ := segments_exist texts plain
  cases segments with
  | nil => exact ⟨.empty, rfl⟩
  | cons first more =>
      refine ⟨.parts (.bare first) (more.map .bare), ?_⟩
      simp [Spelling.segments, Part.segments, List.flatMap_map, ← List.map_eq_flatMap]

theorem lookup_finds_exactly (bag : Bag) :
    (∀ steps found, Json.Value.Indexable (.object bag) → steps ≠ [] →
      Holds (.object bag) steps found → (∀ name, .key name ∈ steps → Plain name) →
        (∃ spelling : Spelling, spelling.segments = steps.map Step.segment) ∧
        ∀ spelling : Spelling, spelling.segments = steps.map Step.segment →
          bag.lookup? spelling.write = some found) ∧
    (∀ path found, bag.lookup? path = some found ↔
      ∃ segments, parse? path = some segments ∧ segments ≠ [] ∧
        Leads segments (.object bag) found) ∧
    (∀ path, bag.lookup? path = none ↔
      ¬ ∃ segments found, parse? path = some segments ∧ segments ≠ [] ∧
        Leads segments (.object bag) found) := by
  refine ⟨fun steps found indexable full holds plain => ⟨?_, fun spelling spelled => ?_⟩,
    lookup_leads_iff bag, fun path => ?_⟩
  · exact spelling_exists _ (steps_plain steps plain)
  · have leads := leads_of_holds _ found steps indexable holds
    rw [lookup_leads_iff, parse_write, spelled]
    exact ⟨_, rfl, by simpa using full, leads⟩
  · rw [Option.eq_none_iff_forall_ne_some, exists_comm, not_exists]
    exact forall_congr' fun found => not_congr (lookup_leads_iff bag path found)

theorem grouped_null_found :
    let bag : Bag := [("deep", .object [("list", .array [.string "a", .null])])]
    let steps : List Step := [.key "deep", .key "list", .index 1]
    Holds (.object bag) steps .null ∧ bag.lookup? "deep[list.1]" = some .null := by
  intro bag steps
  have holds : Holds (.object bag) steps .null :=
    .member rfl (.member rfl (.item rfl (.here .null)))
  have deep : Plain "deep" := ⟨by decide, by simp [Clear]⟩
  have list : Plain "list" := ⟨by decide, by simp [Clear]⟩
  have keys : ∀ name, .key name ∈ steps → Plain name := by
    simp [steps, deep, list]
  have items : Json.Value.Indexable (.array [.string "a", .null]) :=
    .array (by decide) (by simpa using ⟨.string "a", .null⟩)
  have indexable : Json.Value.Indexable (.object bag) :=
    .object (by simpa [bag] using .object (by simpa using items))
  let spelling : Spelling :=
    .parts (.bare ⟨"deep", deep⟩) [.group ⟨"list", list⟩ [⟨"1", decimal_plain 1⟩]]
  obtain ⟨_, found⟩ := (lookup_finds_exactly bag).1 steps .null indexable (by simp [steps]) holds keys
  exact ⟨holds, found spelling rfl⟩

end Path

end TokenIssuance
