import Mathlib.Data.List.Perm.Basic
import TokenIssuance.Json.Record

set_option autoImplicit false

namespace TokenIssuance.Json

abbrev Members := List (String × Document)

namespace Members

def object (members : Members) : Document :=
  .object (members.map fun member => (some member.1, member.2))

def under (members : Members) (name : String) : List Document :=
  (members.filter fun member => member.1 == name).map (·.2)

def SameUnder (names : List String) (members twin : Members) : Prop :=
  ∀ name ∈ names, (members.under name).Perm (twin.under name)

def Extends (names : List String) (members known : Members) : Prop :=
  ∃ others, members.Perm (known ++ others) ∧ ∀ member ∈ others, member.1 ∉ names

-- The members that a document gives a record with these fields: its own, or the values of an array
-- under the names at their places.
inductive GivenIn (names : List String) : Members → Document → Prop where
  | object (members : Members) : GivenIn names members members.object
  | array {items : List Document} (short : items.length ≤ names.length) :
      GivenIn names (names.zip items) (.array items)

theorem under_nil (name : String) : under [] name = [] := rfl

theorem under_cons (member : String × Document) (members : Members) (name : String) :
    under (member :: members) name =
      if member.1 = name then member.2 :: members.under name else members.under name := by
  by_cases same : member.1 = name <;> simp [under, same]

theorem under_named (values : List Document) (key name : String) :
    under (values.map (key, ·)) name = if key = name then values else [] := by
  by_cases same : key = name <;> simp [under, List.filter_map, Function.comp_def, same]

theorem under_append (members more : Members) (name : String) :
    under (members ++ more) name = members.under name ++ more.under name := by
  simp [under]

theorem under_absent (members : Members) (name : String) (absent : ∀ member ∈ members, member.1 ≠ name) :
    members.under name = [] := by
  simpa [under, List.filter_eq_nil_iff] using absent

theorem under_perm (members twin : Members) (same : members.Perm twin) (name : String) :
    (members.under name).Perm (twin.under name) :=
  (same.filter _).map _

theorem under_length (members : Members) (name : String) :
    (members.under name).length = Document.occurrences name members := by
  rw [under, List.length_map, Document.occurrences]

theorem lookup_under (members : Members) (name : String) :
    members.lookup name = (members.under name).head? := by
  induction members with
  | nil => rfl
  | cons member members ih =>
      obtain ⟨key, value⟩ := member
      by_cases same : key = name
      · simp [under_cons, same]
      · have other : (name == key) = false := by simpa using Ne.symm same
        simp [under_cons, same, List.lookup_cons, other, ih]

theorem named_members (members : Members) :
    Document.namedMembers? (members.map fun member => (some member.1, member.2)) = some members := by
  induction members with
  | nil => rfl
  | cons member members ih => simp [Document.namedMembers?, ih]

theorem named_members_some (raw : List (Option String × Document)) (members : Members)
    (named : Document.namedMembers? raw = some members) :
    raw = members.map fun member => (some member.1, member.2) := by
  induction raw generalizing members with
  | nil =>
      cases named
      rfl
  | cons first raw ih =>
      simp only [Document.namedMembers?, Option.bind_eq_bind, Option.pure_def,
        Option.bind_eq_some_iff, Option.some.injEq] at named
      obtain ⟨key, keyed, rest, later, same⟩ := named
      rw [← same, ih rest later, List.map_cons, ← keyed]

theorem fields_object (names : List String) (members : Members)
    (once : ∀ name ∈ names, (members.under name).length ≤ 1) :
    members.object.fields? names = some fun name => (members.under name).head? := by
  have taken : (names.all fun name => Document.occurrences name members ≤ 1) = true := by
    simpa [under_length] using once
  have lookups : (fun name => members.lookup name) = fun name => (members.under name).head? :=
    funext (lookup_under members)
  simp only [object, Document.fields?, named_members, Option.bind_eq_bind, Option.bind_some,
    if_pos taken, lookups, Option.pure_def]

theorem fields_repeated (names : List String) (members : Members)
    (repeated : ¬ ∀ name ∈ names, (members.under name).length ≤ 1) :
    members.object.fields? names = none := by
  have refused : ¬ (names.all fun name => Document.occurrences name members ≤ 1) = true := by
    simpa [under_length] using repeated
  simp only [object, Document.fields?, named_members, Option.bind_eq_bind, Option.bind_some,
    if_neg refused]

theorem fields_cases (names : List String) (document : Document) (field : String → Option Document)
    (found : document.fields? names = some field) :
    (∃ members : Members, document = members.object ∧
      (∀ name ∈ names, (members.under name).length ≤ 1) ∧
      field = fun name => (members.under name).head?) ∨
    ∃ items, document = .array items ∧ items.length ≤ names.length ∧
      field = fun name => items[names.idxOf name]? := by
  cases document with
  | object raw =>
      obtain ⟨members, named, _⟩ : ∃ members : Members, Document.namedMembers? raw = some members ∧ _ :=
        Option.bind_eq_some_iff.mp found
      have shape : Document.object raw = members.object :=
        congrArg Document.object (named_members_some raw members named)
      rw [shape] at found
      by_cases once : ∀ name ∈ names, (members.under name).length ≤ 1
      · rw [fields_object names members once] at found
        exact .inl ⟨members, shape, once, (Option.some.inj found).symm⟩
      · rw [fields_repeated names members once] at found
        cases found
  | array items =>
      simp only [Document.fields?, Option.ite_none_right_eq_some, Option.some.injEq] at found
      exact .inr ⟨items, rfl, found.1, found.2.symm⟩
  | null => cases found
  | boolean => cases found
  | number => cases found
  | string => cases found

theorem under_zip (names : List String) (items : List Document) (distinct : names.Nodup)
    (short : items.length ≤ names.length) (name : String) :
    under (names.zip items) name = items[names.idxOf name]?.toList := by
  induction names generalizing items with
  | nil =>
      cases List.eq_nil_of_length_eq_zero (Nat.le_zero.mp short)
      rfl
  | cons first names ih =>
      obtain ⟨fresh, distinct⟩ := List.nodup_cons.mp distinct
      cases items with
      | nil => rfl
      | cons item items =>
          rw [List.zip_cons_cons, under_cons]
          by_cases same : first = name
          · have absent : under (names.zip items) name = [] := by
              apply under_absent
              intro member present other
              rw [same, ← other] at fresh
              exact fresh (List.of_mem_zip present).1
            simp [same, absent]
          · rw [if_neg same, List.idxOf_cons_ne names same, ih items distinct (Nat.le_of_succ_le_succ short)]
            rfl

theorem fields_array (names : List String) (items : List Document) (distinct : names.Nodup)
    (short : items.length ≤ names.length) :
    (Document.array items).fields? names = (object (names.zip items)).fields? names := by
  have places := under_zip names items distinct short
  have once : ∀ name ∈ names, (under (names.zip items) name).length ≤ 1 := by
    intro name _
    rw [places]
    exact Option.length_toList_le
  rw [fields_object names _ once, Document.fields?, if_pos short]
  simp only [places, Option.head?_toList]

theorem record_iff {α : Type} (names : List String) (distinct : names.Nodup)
    (build : (String → Option Document) → Option α) (document : Document) (value : α) :
    (document.fields? names).bind build = some value ↔
      ∃ members : Members, GivenIn names members document ∧
        (members.object.fields? names).bind build = some value := by
  constructor
  · intro read
    obtain ⟨field, found, built⟩ := Option.bind_eq_some_iff.mp read
    rcases fields_cases names document field found with
      ⟨members, shape, _⟩ | ⟨items, shape, short, _⟩
    · rw [shape] at read ⊢
      exact ⟨members, .object members, read⟩
    · rw [shape] at read ⊢
      rw [fields_array names items distinct short] at read
      exact ⟨_, .array short, read⟩
  · rintro ⟨members, given, read⟩
    cases given with
    | object => exact read
    | array short =>
        rw [fields_array names _ distinct short]
        exact read

theorem required_iff {α : Type} (read : Document → Option α) (values : List Document) (value : α)
    (once : values.length ≤ 1) :
    Document.required read values.head? = some value ↔
      ∃ document, values = [document] ∧ read document = some value := by
  match values, once with
  | [], _ => simp [Document.required]
  | [document], _ => simp [Document.required]

theorem default_iff {α : Type} (default : α) (read : Document → Option α) (values : List Document)
    (value : α) (once : values.length ≤ 1) :
    Document.withDefault default read values.head? = some value ↔
      (values = [] ∧ value = default) ∨
        ∃ document, values = [document] ∧ read document = some value := by
  match values, once with
  | [], _ => simp [Document.withDefault, eq_comm]
  | [document], _ => simp [Document.withDefault]

theorem only_field_iff {α : Type} (name : String) (read : Document → Option α) (members : Members)
    (value : α) :
    ((members.object.fields? [name]).bind fun field => Document.required read (field name)) =
        some value ↔
      ∃ document, members.under name = [document] ∧ read document = some value := by
  by_cases once : ∀ other ∈ [name], (members.under other).length ≤ 1
  · rw [fields_object _ _ once]
    exact required_iff read _ value (once name (by simp))
  · rw [fields_repeated _ _ once]
    simp only [Option.bind_none, reduceCtorEq, false_iff, not_exists, not_and]
    intro document only
    simp [only] at once

theorem same_under_symm (names : List String) (members twin : Members)
    (same : SameUnder names members twin) : SameUnder names twin members :=
  fun name member => (same name member).symm

theorem same_under_once (names : List String) (members twin : Members)
    (same : SameUnder names members twin) (name : String) (member : name ∈ names)
    (values : List Document) (once : values.length ≤ 1) (given : members.under name = values) :
    twin.under name = values := by
  have perm := same name member
  rw [given] at perm
  match values, once with
  | [], _ => exact List.nil_perm.mp perm
  | [value], _ => exact (List.singleton_perm.mp perm).symm

theorem extends_refl (names : List String) (members : Members) : Extends names members members :=
  ⟨[], by simp, by simp⟩

theorem extends_same_under (names : List String) (members known : Members)
    (extension : Extends names members known) : SameUnder names known members := by
  obtain ⟨others, perm, foreign⟩ := extension
  intro name member
  have absent : under others name = [] := by
    apply under_absent
    intro other present same
    rw [← same] at member
    exact foreign other present member
  have same := under_perm members (known ++ others) perm name
  rw [under_append, absent, List.append_nil] at same
  exact same.symm

theorem fields_extended (names : List String) (members known : Members)
    (extension : Extends names members known) (once : ∀ name ∈ names, (known.under name).length ≤ 1) :
    ∃ field, members.object.fields? names = some field ∧
      ∀ name ∈ names, field name = (known.under name).head? := by
  have same : ∀ name ∈ names, members.under name = known.under name := by
    intro name member
    exact same_under_once names known members (extends_same_under names members known extension) name
      member _ (once name member) rfl
  refine ⟨_, fields_object names members ?_, ?_⟩
  · intro name member
    rw [same name member]
    exact once name member
  · intro name member
    rw [same name member]

theorem under_count [DecidableEq Document] (members : Members) (member : String × Document) :
    List.count member members = (members.under member.1).count member.2 := by
  obtain ⟨name, value⟩ := member
  induction members with
  | nil => rfl
  | cons first members ih =>
      obtain ⟨key, other⟩ := first
      by_cases same : key = name
      · simp [under_cons, same, List.count_cons, ih]
      · simp [under_cons, same, ih]

theorem extends_of_same_under (names : List String) (members known : Members)
    (same : SameUnder names known members) (only : ∀ member ∈ known, member.1 ∈ names) :
    Extends names members known := by
  classical
  refine ⟨List.filter (fun member => member.1 ∉ names) members, ?_, ?_⟩
  · rw [List.perm_iff_count]
    intro member
    rw [List.count_append]
    by_cases own : member.1 ∈ names
    · have none : List.count member (List.filter (fun member => member.1 ∉ names) members) = 0 := by
        simp [List.count_eq_zero, own]
      rw [none, under_count, under_count, (same member.1 own).count_eq]
      rfl
    · have none : List.count member known = 0 := by
        rw [List.count_eq_zero]
        exact fun present => own (only member present)
      rw [none, List.count_filter (by simpa using own), Nat.zero_add]
  · intro member present
    simpa using (List.mem_filter.mp present).2

end Members

namespace Document

theorem string_iff (document : Document) (text : String) :
    document.string? = some text ↔ document = .string (some text) := by
  cases document <;> simp [string?]

theorem boolean_iff (document : Document) (value : Bool) :
    document.boolean? = some value ↔ document = .boolean value := by
  cases document <;> simp [boolean?]

theorem natural_iff (limit : Nat) (document : Document) (number : Nat) :
    document.natural? limit = some number ↔
      number < limit ∧ document = .number (some (.integer number)) := by
  constructor
  · intro found
    unfold natural? at found
    split at found
    · split at found
      · rename_i n inside
        have same : n.toNat = number := Option.some.inj found
        have whole : n = (number : Int) := by omega
        exact ⟨by omega, by rw [whole]⟩
      · cases found
    · cases found
  · intro ⟨below, shape⟩
    simp [shape, natural?, below]

theorem uint32_iff (document : Document) (value : UInt32) :
    document.uint32? = some value ↔ document = .number (some (.integer value.toNat)) := by
  simp only [uint32?, Option.map_eq_some_iff, natural_iff]
  constructor
  · intro ⟨n, ⟨below, shape⟩, same⟩
    rw [shape, ← same, UInt32.toNat_ofNat_of_lt' below]
  · intro shape
    exact ⟨value.toNat, ⟨value.toNat_lt, shape⟩, UInt32.ofNat_toNat⟩

theorem uint64_iff (document : Document) (value : UInt64) :
    document.uint64? = some value ↔ document = .number (some (.integer value.toNat)) := by
  simp only [uint64?, Option.map_eq_some_iff, natural_iff]
  constructor
  · intro ⟨n, ⟨below, shape⟩, same⟩
    rw [shape, ← same, UInt64.toNat_ofNat_of_lt' below]
  · intro shape
    exact ⟨value.toNat, ⟨value.toNat_lt, shape⟩, UInt64.ofNat_toNat⟩

end Document

end TokenIssuance.Json
