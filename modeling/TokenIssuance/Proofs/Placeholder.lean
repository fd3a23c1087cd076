import TokenIssuance.Proofs.Cell
import TokenIssuance.Proofs.Spelling

set_option autoImplicit false

namespace TokenIssuance

open Json (Bag Value)

namespace Placeholder

def NamesBag (name : String) : Prop := name = "attributes" ∨ name = "config"

-- A dot between the name of a bag and a bracket, which no path has.
def Loose (body : String) : Prop := ∃ name rest, NamesBag name ∧ body = name ++ ".[" ++ rest

def Bracketed (body : String) : Prop := ∃ rest, body = "[" ++ rest

def after (body : String) : List Char := body.toList.dropWhile fun c => !endsName c

def Unending (chars : List Char) : Prop := ∀ c ∈ chars, endsName c = false

theorem name_then_after (body : String) : body.toList = (name body).toList ++ after body := by
  rw [name, after, String.toList_ofList, List.takeWhile_append_dropWhile]

theorem after_ends (body : String) : Path.EndsSegment (after body) := by
  cases rest : after body with
  | nil => exact .inl rfl
  | cons c more =>
      have ends := List.head?_dropWhile_not (fun c => !endsName c) body.toList
      rw [← after, rest] at ends
      have one : c = '.' ∨ c = '[' := by simpa [endsName, or_comm, imp_iff_not_or] using ends
      exact .inr ⟨c, more, rfl, one⟩

theorem split_unique (body name : String) (rest : List Char) (chars : body.toList = name.toList ++ rest)
    (unending : Unending name.toList) (ended : Path.EndsSegment rest) :
    Placeholder.name body = name ∧ after body = rest := by
  have all : ∀ c ∈ name.toList, (!endsName c) = true := by
    simpa [Unending] using unending
  have none : rest.takeWhile (fun c => !endsName c) = [] := by
    obtain rfl | ⟨c, more, rfl, rfl | rfl⟩ := ended <;> rfl
  have whole : rest.dropWhile (fun c => !endsName c) = rest := by
    obtain rfl | ⟨c, more, rfl, rfl | rfl⟩ := ended <;> rfl
  rw [Placeholder.name, after, chars, List.takeWhile_append_of_pos all,
    List.dropWhile_append_of_pos all, none, whole, List.append_nil, String.ofList_toList]
  exact ⟨rfl, rfl⟩

theorem path_dot (body : String) (rest : List Char) (dot : after body = '.' :: rest) :
    path body = String.ofList rest := by
  rw [path, ← after, dot]
  rfl

theorem path_open (body : String) (rest : List Char) (opens : after body = '[' :: rest) :
    path body = String.ofList ('[' :: rest) := by
  rw [path, ← after, opens]
  rfl

theorem path_empty (body : String) (empty : after body = []) : path body = "" := by
  rw [path, ← after, empty]

theorem path_segments (body : String) (tight : ∀ more, after body ≠ '.' :: '[' :: more)
    (first : String) (more : List String) :
    Path.parse? (path body) = some (first :: more) ↔
      Path.parseTail (after body) = some (first :: more) := by
  obtain empty | ⟨c, rest, same, rfl | rfl⟩ := after_ends body
  · rw [path_empty body empty, empty]
    rfl
  · rw [path_dot body rest same, same, Path.parse?, String.toList_ofList]
    cases rest with
    | nil => simp [Path.parseChars, Path.parseTail, Path.parsePlain, Path.segment?]
    | cons d rest =>
        have opens : d ≠ '[' := by
          rintro rfl
          exact tight rest same
        rw [Path.parseChars, if_neg opens, Path.parseTail, if_pos rfl]
  · rw [path_open body rest same, same, Path.parse?, String.toList_ofList]
    rfl

theorem first_segment (body : String) (bare : ¬ Bracketed body) (first : String) (more : List String)
    (parsed : Path.parse? body = some (first :: more)) : first = name body := by
  obtain ⟨spelling, written, segments⟩ := Path.parse_spelled body _ parsed
  cases spelling with
  | empty => cases segments
  | parts head later =>
      cases head with
      | group one others =>
          let rest := Path.dotted one others ++ "]" ++ String.join (later.map Path.Part.tail)
          refine absurd ⟨rest, ?_⟩ bare
          rw [← written]
          simp [rest, Path.Spelling.write, Path.Part.head, String.append_assoc]
      | bare segment =>
          have chars : body.toList = segment.text.toList ++ Path.tailChars later := by
            simp [← written, Path.Spelling.write, Path.Part.head, Path.tailChars]
          have unending : Unending segment.text.toList := by
            intro c member
            obtain ⟨dot, opens, _⟩ := segment.plain.clear c member
            simp [endsName, dot, opens]
          obtain ⟨named, _⟩ :=
            split_unique body segment.text _ chars unending (Path.tail_ends_segment later)
          rw [named]
          exact (List.cons.inj segments).1.symm

def Addresses (bags : Bag) (body : String) (value : Value) : Prop :=
  (∃ segments, Path.parse? body = some segments ∧ 2 ≤ segments.length) ∧
    bags.lookup? body = some value

theorem addresses_iff (bags : Bag) (body : String) (value : Value) :
    Addresses bags body value ↔ ∃ name first more,
      Path.parse? body = some (name :: first :: more) ∧
        Path.descend? (name :: first :: more) (.object bags) = some value := by
  rw [Addresses, Json.Bag.lookup_some_iff]
  constructor
  · rintro ⟨⟨segments, parsed, long⟩, name, more, found, reached⟩
    cases Option.some.inj (parsed.symm.trans found)
    cases more with
    | nil => simp at long
    | cons first more => exact ⟨name, first, more, parsed, reached⟩
  · rintro ⟨name, first, more, parsed, reached⟩
    exact ⟨⟨_, parsed, by simp⟩, name, _, parsed, reached⟩

theorem parse_named (body : String) (segment : Path.Segment) (named : name body = segment.text) :
    Path.parse? body = (Path.parseTail (after body)).map (segment.text :: ·) := by
  rw [Path.parse?, name_then_after, named, Path.parse_chars_plain,
    Path.parse_plain_segment segment _ (after_ends body)]

theorem addresses_named (bags bag : Bag) (body : String) (segment : Path.Segment)
    (named : name body = segment.text) (tight : ∀ more, after body ≠ '.' :: '[' :: more)
    (kept : bags.lookup segment.text = some (.object bag)) (value : Value) :
    Addresses bags body value ↔ bag.lookup? (path body) = some value := by
  rw [addresses_iff, Json.Bag.lookup_some_iff, parse_named body segment named]
  simp only [path_segments body tight]
  constructor
  · rintro ⟨name, first, more, parsed, reached⟩
    obtain ⟨segments, tail, same⟩ := Option.map_eq_some_iff.mp parsed
    cases same
    rw [Path.descend?, kept] at reached
    exact ⟨first, more, tail, reached⟩
  · rintro ⟨first, more, tail, reached⟩
    refine ⟨segment.text, first, more, by rw [tail, Option.map_some], ?_⟩
    rw [Path.descend?, kept]
    exact reached

theorem addresses_unnamed (bags : Bag) (body : String) (bare : ¬ Bracketed body)
    (absent : bags.lookup (name body) = none) (value : Value) : ¬ Addresses bags body value := by
  rw [addresses_iff]
  rintro ⟨first, second, more, parsed, reached⟩
  rw [Path.descend?, first_segment body bare first _ parsed, absent] at reached
  cases reached

theorem loose_named (body : String) (more : List Char) (named : NamesBag (name body))
    (dotted : after body = '.' :: '[' :: more) : Loose body := by
  refine ⟨name body, String.ofList more, named, String.toList_inj.mp ?_⟩
  rw [name_then_after, dotted]
  simp

theorem attributes_plain : Path.Plain "attributes" := ⟨by decide, by simp [Path.Clear]⟩

theorem config_plain : Path.Plain "config" := ⟨by decide, by simp [Path.Clear]⟩

theorem loose_same (name rest : String) (unending : Unending name.toList) :
    Placeholder.name (name ++ ".[" ++ rest) = name ∧ Placeholder.name (name ++ "[" ++ rest) = name ∧
      path (name ++ ".[" ++ rest) = path (name ++ "[" ++ rest) := by
  obtain ⟨loose, dotted⟩ := split_unique (name ++ ".[" ++ rest) name ('.' :: '[' :: rest.toList)
    (by simp) unending (.inr ⟨'.', _, rfl, .inl rfl⟩)
  obtain ⟨tight, opened⟩ := split_unique (name ++ "[" ++ rest) name ('[' :: rest.toList)
    (by simp) unending (.inr ⟨'[', _, rfl, .inr rfl⟩)
  exact ⟨loose, tight, (path_dot _ _ dotted).trans (path_open _ _ opened).symm⟩

theorem name_bracketed (rest : String) : name ("[" ++ rest) = "" :=
  (split_unique ("[" ++ rest) "" ('[' :: rest.toList) (by simp) (by simp [Unending])
    (.inr ⟨'[', _, rfl, .inr rfl⟩)).1

theorem ne_identity (body : String) (named : name body ≠ "identity") : body ≠ "identity" := by
  rintro rfl
  exact named (by decide)

end Placeholder

namespace Scope

variable {σ : Type}

open Placeholder

def bags (scope : Scope) (config : Bag) : Bag :=
  [("attributes", .object scope.attributes), ("config", .object config)]

theorem reading_value_iff (scope : Scope) (config : Bag) (body : String) (bare : ¬ Bracketed body)
    (tight : ¬ Loose body) (value : Value) :
    scope.reading config body = some (.value value) ↔
      Addresses (scope.bags config) body value := by
  have closed : NamesBag (name body) → ∀ more, after body ≠ '.' :: '[' :: more :=
    fun named more dotted => tight (loose_named body more named dotted)
  have found : ∀ bag : Bag, (bag.lookup? (path body)).map Resolved.value = some (.value value) ↔
      bag.lookup? (path body) = some value := by
    intro bag
    simp [Option.map_eq_some_iff]
  rw [reading_eq]
  split
  · rename_i same
    have absent : (scope.bags config).lookup (name body) = none := by
      rw [same]
      rfl
    exact iff_of_false (by simp) (addresses_unnamed _ body bare absent value)
  · split
    · rename_i named
      rw [found, addresses_named _ scope.attributes body ⟨"attributes", attributes_plain⟩ named
        (closed (.inl named)) rfl]
    · split
      · rename_i named
        rw [found, addresses_named _ config body ⟨"config", config_plain⟩ named
          (closed (.inr named)) rfl]
      · rename_i notAttributes notConfig
        have absent : (scope.bags config).lookup (name body) = none := by
          simp [bags, List.lookup_cons, beq_eq_false_iff_ne.mpr notAttributes,
            beq_eq_false_iff_ne.mpr notConfig]
        exact iff_of_false (by simp) (addresses_unnamed _ body bare absent value)

theorem reading_none_iff (scope : Scope) (config : Bag) (body : String) (bare : ¬ Bracketed body)
    (tight : ¬ Loose body) :
    scope.reading config body = none ↔
      body ≠ "identity" ∧ ∀ value, ¬ Addresses (scope.bags config) body value := by
  have identity := reading_identity_iff scope config body
  have value := reading_value_iff scope config body bare tight
  constructor
  · intro none
    refine ⟨fun same => ?_, fun found addresses => ?_⟩
    · cases none.symm.trans ((identity _).mpr ⟨same, rfl⟩)
    · cases none.symm.trans ((value found).mpr addresses)
  · rintro ⟨other, unaddressed⟩
    cases found : scope.reading config body with
    | none => rfl
    | some resolved =>
        cases resolved with
        | identity text => exact absurd ((identity text).mp found).1 other
        | value datum => exact absurd ((value datum).mp found) (unaddressed datum)

theorem resolve_loose (scope : Scope) (name rest : String) (named : NamesBag name) :
    scope.resolve (name ++ ".[" ++ rest) = scope.resolve (name ++ "[" ++ rest) := by
  obtain ⟨unending, other⟩ : Unending name.toList ∧ name ≠ "identity" := by
    rcases named with rfl | rfl <;> simp [Unending, endsName]
  obtain ⟨loose, tight, paths⟩ := loose_same name rest unending
  have first := ne_identity (name ++ ".[" ++ rest) (by rwa [loose])
  have second := ne_identity (name ++ "[" ++ rest) (by rwa [tight])
  unfold resolve
  rw [if_neg first, if_neg second, loose, tight, paths]

theorem resolve_bracketed (scope : Scope) (body : String) (bracketed : Bracketed body) :
    scope.resolve body = pure none := by
  obtain ⟨rest, rfl⟩ := bracketed
  have bare := ne_identity ("[" ++ rest) (by rw [name_bracketed]; decide)
  unfold resolve
  rw [if_neg bare, name_bracketed, if_neg (by decide), if_neg (by decide)]

theorem resolve_calls (scope : Scope) (sources : Sources σ) (refresh : Bool)
    (state : ScopeState σ) (body : String) :
    ((scope.use sources refresh (.resolve body)).run state).2.calls = state.calls ++
      if state.cell.isNone ∧ name body = "config" then [.config scope.identity refresh] else [] := by
  have asks : (scope.answer (.resolve body)).asks = true ↔ name body = "config" := by
    rw [← resolve_asks_iff scope body, answer, Demand.asks_map]
  rw [use_calls]
  simp only [Bool.and_eq_true, asks]

theorem bodies_are_paths (scope : Scope) (sources : Sources σ) (refresh : Bool)
    (state : ScopeState σ) :
    let bags := scope.bags (scope.configAt sources refresh state)
    let ask := fun body => (scope.use sources refresh (.resolve body)).run state
    (∀ body, ¬ Bracketed body → ¬ Loose body →
      (∀ value, (ask body).1 = .resolved (some (.value value)) ↔ Addresses bags body value) ∧
      (∀ text, (ask body).1 = .resolved (some (.identity text)) ↔
        body = "identity" ∧ text = scope.identity.text) ∧
      ((ask body).1 = .resolved none ↔
        body ≠ "identity" ∧ ∀ value, ¬ Addresses bags body value)) ∧
    (∀ name rest, NamesBag name → ask (name ++ ".[" ++ rest) = ask (name ++ "[" ++ rest)) ∧
    (∀ body, Bracketed body → (ask body).1 = .resolved none) ∧
    (∀ body, (ask body).2.calls = state.calls ++
      if state.cell.isNone ∧ name body = "config" then [.config scope.identity refresh] else []) := by
  intro bags ask
  have answered : ∀ body, (ask body).1 =
      .resolved (scope.reading (scope.configAt sources refresh state) body) :=
    use_resolve scope sources refresh state
  simp only [answered, Answer.resolved.injEq]
  refine ⟨fun body bare tight => ⟨?_, ?_, ?_⟩, fun name rest named => ?_, fun body bracketed => ?_,
    resolve_calls scope sources refresh state⟩
  · exact reading_value_iff scope _ body bare tight
  · exact reading_identity_iff scope _ body
  · exact reading_none_iff scope _ body bare tight
  · change (scope.use sources refresh (.resolve (name ++ ".[" ++ rest))).run state =
      (scope.use sources refresh (.resolve (name ++ "[" ++ rest))).run state
    have same : scope.answer (.resolve (name ++ ".[" ++ rest)) =
        scope.answer (.resolve (name ++ "[" ++ rest)) :=
      congrArg (Answer.resolved <$> ·) (resolve_loose scope name rest named)
    unfold use
    rw [same]
  · rw [reading, resolve_bracketed scope body bracketed, Demand.given_pure]

theorem second_site_addressed :
    let scope : Scope := ⟨⟨"host"⟩, [("roles", .array [.string "web"])]⟩
    let sources := Sources.constant (.ok []) (.ok [("sites", .array [.string "north", .null])])
    let ask := fun body => ((scope.use sources true (.resolve body)).run (.fresh ())).1
    ask "config.sites[1]" = .resolved (some (.value .null)) ∧
      ask "attributes.[roles][0]" = ask "attributes[roles][0]" ∧
      ask "[attributes].roles" = .resolved none := by
  intro scope sources ask
  obtain ⟨paths, loose, bracketed, _⟩ := bodies_are_paths scope sources true (.fresh ())
  have bare : ¬ Bracketed "config.sites[1]" := by
    rintro ⟨rest, same⟩
    simpa using congrArg String.toList same
  have tight : ¬ Loose "config.sites[1]" := by
    rintro ⟨name, rest, rfl | rfl, same⟩
    · simpa using congrArg String.toList same
    · simpa using congrArg String.toList same
  have parsed : Path.parse? "config.sites[1]" = some ["config", "sites", "1"] := by cbv
  refine ⟨?_, congrArg Prod.fst (loose "attributes" "roles][0]" (.inl rfl)), ?_⟩
  · exact ((paths _ bare tight).1 .null).mpr ⟨⟨_, parsed, by decide⟩, rfl⟩
  · exact bracketed _ ⟨"attributes].roles", rfl⟩

end Scope

end TokenIssuance
