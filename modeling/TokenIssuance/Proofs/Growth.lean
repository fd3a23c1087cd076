import TokenIssuance.Proofs.Meaning

set_option autoImplicit false

namespace TokenIssuance

open Json (Bag Number Value)

-- Scalars and null only compare with themselves. An object grows by keys and in their values, an
-- array at its end and in its elements.
inductive Json.Value.Below : Value → Value → Prop where
  | null : Below .null .null
  | boolean (value : Bool) : Below (.boolean value) (.boolean value)
  | number (value : Number) : Below (.number value) (.number value)
  | string (text : String) : Below (.string text) (.string text)
  | array {items more : List Value} (longer : items.length ≤ more.length)
      (each : ∀ (index : Nat) (item other : Value), items[index]? = some item →
        more[index]? = some other → Below item other) :
      Below (.array items) (.array more)
  | object {members more : List (String × Value)}
      (keys : ∀ (key : String) (value : Value), members.lookup key = some value →
        (more.lookup key).isSome)
      (each : ∀ (key : String) (value other : Value), members.lookup key = some value →
        more.lookup key = some other → Below value other) :
      Below (.object members) (.object more)

namespace Json.Value

theorem below_member (members more : List (String × Value)) (key : String) (value : Value)
    (below : Below (.object members) (.object more)) (found : members.lookup key = some value) :
    ∃ other, more.lookup key = some other ∧ Below value other := by
  cases below with
  | object keys each =>
      obtain ⟨other, kept⟩ := Option.isSome_iff_exists.mp (keys key value found)
      exact ⟨other, kept, each key value other found kept⟩

theorem below_item (items more : List Value) (index : Nat) (item : Value)
    (below : Below (.array items) (.array more)) (found : items[index]? = some item) :
    ∃ other, more[index]? = some other ∧ Below item other := by
  cases below with
  | array longer each =>
      obtain ⟨inside, _⟩ := List.getElem?_eq_some_iff.mp found
      have bound : index < more.length := by omega
      have kept : more[index]? = some more[index] := List.getElem?_eq_getElem bound
      exact ⟨_, kept, each index item _ found kept⟩

theorem scalar_text_below (value other : Value) (text : String) (below : Below value other)
    (shown : value.scalarText? = some text) : other.scalarText? = some text := by
  cases below with
  | null | boolean _ | number _ | string _ => exact shown
  | array _ _ | object _ _ => cases shown

theorem below_refl (value : Value) : Below value value := by
  cases value with
  | null => exact .null
  | boolean value => exact .boolean value
  | number value => exact .number value
  | string text => exact .string text
  | array items =>
      refine .array (Nat.le_refl _) fun index item other found kept => ?_
      cases Option.some.inj (found.symm.trans kept)
      have inside : item ∈ items := List.mem_of_getElem? found
      exact below_refl item
  | object members =>
      refine .object (fun key value found => by simp [found]) fun key item other found kept => ?_
      cases Option.some.inj (found.symm.trans kept)
      have inside : (key, item) ∈ members := by
        obtain ⟨before, after, split, _⟩ := List.lookup_eq_some_iff.mp found
        simp [split]
      exact below_refl item
termination_by sizeOf value
decreasing_by
  · have smaller := List.sizeOf_lt_of_mem inside
    simp only [Value.array.sizeOf_spec]
    omega
  · have smaller := List.sizeOf_lt_of_mem inside
    simp only [Value.object.sizeOf_spec, Prod.mk.sizeOf_spec] at *
    omega

theorem empty_below (members : List (String × Value)) : Below (.object []) (.object members) :=
  .object (by simp) (by simp)

end Json.Value

open Json.Value (Below)

theorem Path.descend_below (segments : List String) (value other found : Value)
    (below : Below value other) (reached : descend? segments value = some found) :
    ∃ more, descend? segments other = some more ∧ Below found more := by
  induction segments generalizing value other with
  | nil =>
      cases Option.some.inj reached
      exact ⟨other, rfl, below⟩
  | cons segment rest ih =>
      cases value with
      | object members =>
          cases other with
          | object more =>
              obtain ⟨next, present, reached⟩ := Option.bind_eq_some_iff.mp reached
              obtain ⟨kept, found, below⟩ := Json.Value.below_member members more segment next below present
              obtain ⟨last, reached, below⟩ := ih next kept below reached
              exact ⟨last, Option.bind_eq_some_iff.mpr ⟨kept, found, reached⟩, below⟩
          | _ => cases below
      | array items =>
          cases other with
          | array more =>
              obtain ⟨next, present, reached⟩ := Option.bind_eq_some_iff.mp reached
              obtain ⟨index, named, present⟩ := Option.bind_eq_some_iff.mp present
              obtain ⟨kept, found, below⟩ := Json.Value.below_item items more index next below present
              obtain ⟨last, reached, below⟩ := ih next kept below reached
              refine ⟨last, Option.bind_eq_some_iff.mpr ⟨kept, ?_, reached⟩, below⟩
              exact Option.bind_eq_some_iff.mpr ⟨index, named, found⟩
          | _ => cases below
      | _ => cases reached

theorem Json.Bag.lookup_below (bag more : Bag) (path : String) (found : Value)
    (below : Below (.object bag) (.object more)) (reached : bag.lookup? path = some found) :
    ∃ other, more.lookup? path = some other ∧ Below found other := by
  obtain ⟨first, rest, parsed, reached⟩ := (lookup_some_iff bag path found).mp reached
  obtain ⟨other, reached, grown⟩ := Path.descend_below (first :: rest) _ _ found below reached
  exact ⟨other, (lookup_some_iff more path other).mpr ⟨first, rest, parsed, reached⟩, grown⟩

inductive Resolved.Below : Resolved → Resolved → Prop where
  | identity (text : String) : Below (.identity text) (.identity text)
  | value {value other : Value} (below : Json.Value.Below value other) : Below (.value value) (.value other)

namespace Scope

structure Grows (scope larger : Scope) (config more : Bag) : Prop where
  identity : scope.identity = larger.identity
  attributes : Below (.object scope.attributes) (.object larger.attributes)
  config : Below (.object config) (.object more)

variable {scope larger : Scope} {config more : Bag}

theorem reading_below (grows : scope.Grows larger config more) (body : String) (resolved : Resolved)
    (found : scope.reading config body = some resolved) :
    ∃ other, larger.reading more body = some other ∧ resolved.Below other := by
  rw [reading_eq] at found ⊢
  split at found
  · rename_i bare
    cases found
    rw [if_pos bare, grows.identity]
    exact ⟨_, rfl, .identity _⟩
  · rename_i notBare
    rw [if_neg notBare]
    split at found
    · rename_i named
      obtain ⟨value, reached, rfl⟩ := Option.map_eq_some_iff.mp found
      obtain ⟨other, kept, below⟩ := Json.Bag.lookup_below _ _ _ value grows.attributes reached
      exact ⟨.value other, by simp [named, kept], .value below⟩
    · rename_i notAttributes
      rw [if_neg notAttributes]
      split at found
      · rename_i named
        obtain ⟨value, reached, rfl⟩ := Option.map_eq_some_iff.mp found
        obtain ⟨other, kept, below⟩ := Json.Bag.lookup_below _ _ _ value grows.config reached
        exact ⟨.value other, by simp [named, kept], .value below⟩
      · cases found

theorem stands_for_below (grows : scope.Grows larger config more) (expander : Expander)
    (body text : String) (stands : scope.StandsFor config expander body text) :
    larger.StandsFor more expander body text := by
  cases stands with
  | scalar found shown =>
      obtain ⟨other, kept, below⟩ := reading_below grows body _ found
      cases below with
      | identity text => exact .scalar kept shown
      | value below => exact .scalar kept (Json.Value.scalar_text_below _ _ text below shown)
  | element found member shown =>
      obtain ⟨other, kept, below⟩ := reading_below grows body _ found
      cases below with
      | value below =>
          cases below with
          | array longer each =>
              obtain ⟨index, found⟩ := List.mem_iff_getElem?.mp member
              obtain ⟨item, present, below⟩ :=
                Json.Value.below_item _ _ index _ (.array longer each) found
              exact .element kept (List.mem_of_getElem? present)
                (Json.Value.scalar_text_below _ _ text below shown)

theorem means_below (grows : scope.Grows larger config more) (expander : Expander)
    (pattern text : String) (means : scope.Means config expander pattern text) :
    larger.Means more expander pattern text := by
  obtain ⟨pieces, parsed, choice, chosen, joined⟩ := means
  exact ⟨pieces, parsed, choice, fun body member =>
    stands_for_below grows expander body _ (chosen body member), joined⟩

end Scope

inductive SourceReply.Below : SourceReply → SourceReply → Prop where
  | same (reply : SourceReply) : Below reply reply
  | bag {bag more : Bag} (below : Json.Value.Below (.object bag) (.object more)) :
      Below (.ok bag) (.ok more)
  | failure (failure : SourceFailure) (reply : SourceReply) : Below (.error failure) reply

theorem SourceReply.bag_or_empty_below (reply larger : SourceReply) (below : reply.Below larger) :
    Json.Value.Below (.object (bagOrEmpty reply)) (.object (bagOrEmpty larger)) := by
  cases below with
  | same reply => exact Json.Value.below_refl _
  | bag below => exact below
  | failure failure reply => exact Json.Value.empty_below _

theorem Resolver.resolve_monotone {σ τ : Type} (poorer : Resolver σ) (richer : Resolver τ)
    (identity : Identity) (patterns : List String) (refresh again : Bool) (state : σ) (other : τ)
    (expander : poorer.expander = richer.expander)
    (attributes : SourceReply.Below (poorer.replies identity refresh state).1
      (richer.replies identity again other).1)
    (config : SourceReply.Below (poorer.replies identity refresh state).2
      (richer.replies identity again other).2)
    (policy : String)
    (granted : policy ∈ ((poorer.resolve identity patterns refresh).run state).1) :
    policy ∈ ((richer.resolve identity patterns again).run other).1 := by
  obtain ⟨pattern, member, text, means, lowered⟩ :=
    (Resolver.mem_resolve_iff poorer identity patterns refresh state policy).mp granted
  have grows : (poorer.scope identity refresh state).Grows (richer.scope identity again other)
      (bagOrEmpty (poorer.replies identity refresh state).2)
      (bagOrEmpty (richer.replies identity again other).2) :=
    ⟨rfl, SourceReply.bag_or_empty_below _ _ attributes, SourceReply.bag_or_empty_below _ _ config⟩
  rw [Resolver.mem_resolve_iff, ← expander]
  exact ⟨pattern, member, text, Scope.means_below grows _ pattern text means, lowered⟩

theorem first_role_kept :
    let poorer : Resolver Unit :=
      ⟨{}, .constant (.ok [("roles", .array [.string "Web"])]) (.error ⟨"no answer"⟩), .list⟩
    let richer : Resolver Unit :=
      ⟨{}, .constant (.ok [("os", .string "linux"), ("roles", .array [.string "Web", .string "Db"])])
        (.ok [("site", .string "north")]), .list⟩
    let patterns := ["role:\x7battributes[roles]\x7d"]
    "role:web" ∈ ((poorer.resolve ⟨"host"⟩ patterns false).run ()).1 ∧
      "role:web" ∈ ((richer.resolve ⟨"host"⟩ patterns true).run ()).1 := by
  intro poorer richer patterns
  have granted : "role:web" ∈ ((poorer.resolve ⟨"host"⟩ patterns false).run ()).1 := by
    rw [← PolicySet.contains_iff]
    decide
  have roles : Below (.array [.string "Web"]) (.array [.string "Web", .string "Db"]) := by
    refine .array (by decide) fun index item other found kept => ?_
    cases index with
    | zero =>
        cases found
        cases kept
        exact .string "Web"
    | succ index => simp at found
  have only : ∀ key value, List.lookup key [("roles", Value.array [.string "Web"])] = some value →
      key = "roles" ∧ value = .array [.string "Web"] := by
    intro key value found
    rw [List.lookup_cons] at found
    split at found
    · rename_i same
      cases found
      exact ⟨beq_iff_eq.mp same, rfl⟩
    · cases found
  refine ⟨granted, Resolver.resolve_monotone poorer richer ⟨"host"⟩ patterns false true () () rfl
    (.bag (.object ?_ ?_)) (.failure _ _) "role:web" granted⟩
  · intro key value found
    obtain ⟨rfl, rfl⟩ := only key value found
    decide
  · intro key value other found kept
    obtain ⟨rfl, rfl⟩ := only key value found
    cases kept
    exact roles

end TokenIssuance
