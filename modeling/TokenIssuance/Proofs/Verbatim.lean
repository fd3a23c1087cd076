import TokenIssuance.Proofs.Meaning

set_option autoImplicit false

namespace TokenIssuance

open Json (Bag)

namespace Scope

def HoldsList (scope : Scope) (config : Bag) (pattern : String) : Prop :=
  ∃ pieces, Pattern.parse? pattern = some pieces ∧ ∃ body ∈ Pattern.bodies pieces, ∃ items,
    scope.reading config body = some (.value (.array items))

theorem means_fanned (scope : Scope) (config : Bag) (pattern text : String)
    (means : scope.Means config .verbatim pattern text) : scope.Means config .list pattern text := by
  obtain ⟨pieces, parsed, choice, chosen, joined⟩ := means
  refine ⟨pieces, parsed, choice, fun body member => ?_, joined⟩
  cases chosen body member with
  | scalar found shown => exact .scalar found shown

theorem means_unlisted (scope : Scope) (config : Bag) (pattern text : String)
    (unlisted : ¬ scope.HoldsList config pattern) (means : scope.Means config .list pattern text) :
    scope.Means config .verbatim pattern text := by
  obtain ⟨pieces, parsed, choice, chosen, joined⟩ := means
  refine ⟨pieces, parsed, choice, fun body member => ?_, joined⟩
  cases chosen body member with
  | scalar found shown => exact .scalar found shown
  | element found _ _ => exact absurd ⟨pieces, parsed, body, member, _, found⟩ unlisted

theorem listed_means_nothing (scope : Scope) (config : Bag) (pattern text : String)
    (listed : scope.HoldsList config pattern) : ¬ scope.Means config .verbatim pattern text := by
  obtain ⟨pieces, parsed, body, member, items, array⟩ := listed
  rintro ⟨others, parsedAgain, choice, chosen, _⟩
  cases parsed.symm.trans parsedAgain
  cases chosen body member with
  | scalar found shown =>
      cases array.symm.trans found
      cases shown

end Scope

namespace Resolver

variable {σ τ : Type}

theorem mem_resolve_answered (resolver : Resolver σ) (identity : Identity) (patterns : List String)
    (refresh : Bool) (state : σ) (attributes config : SourceReply)
    (answers : resolver.replies identity refresh state = (attributes, config)) (policy : String) :
    policy ∈ ((resolver.resolve identity patterns refresh).run state).1 ↔
      ∃ pattern ∈ patterns, ∃ text,
        (Scope.mk identity (bagOrEmpty attributes)).Means (bagOrEmpty config) resolver.expander
          pattern text ∧ policy = Text.lowercase text := by
  have known : resolver.scope identity refresh state = ⟨identity, bagOrEmpty attributes⟩ := by
    rw [Resolver.scope, answers]
  rw [mem_resolve_iff, known, answers]

theorem verbatim_within_fanned (plain : Resolver σ) (fanning : Resolver τ) (identity : Identity)
    (patterns : List String) (refresh again : Bool) (state : σ) (other : τ)
    (attributes config : SourceReply) (verbatim : plain.expander = .verbatim)
    (list : fanning.expander = .list)
    (answers : plain.replies identity refresh state = (attributes, config))
    (alike : fanning.replies identity again other = (attributes, config)) :
    let scope : Scope := ⟨identity, bagOrEmpty attributes⟩
    let kept := fun patterns => ((plain.resolve identity patterns refresh).run state).1
    let fanned := fun patterns => ((fanning.resolve identity patterns again).run other).1
    (∀ policy ∈ kept patterns, policy ∈ fanned patterns) ∧
      ((∀ pattern ∈ patterns, ¬ scope.HoldsList (bagOrEmpty config) pattern) →
        kept patterns = fanned patterns) ∧
      ∀ policy ∈ fanned patterns, policy ∉ kept patterns →
        (∃ pattern ∈ patterns, policy ∈ fanned [pattern]) ∧
        ∀ pattern ∈ patterns, policy ∈ fanned [pattern] →
          scope.HoldsList (bagOrEmpty config) pattern ∧ kept [pattern] = .empty := by
  intro scope kept fanned
  have inKept : ∀ patterns policy, policy ∈ kept patterns ↔ ∃ pattern ∈ patterns, ∃ text,
      scope.Means (bagOrEmpty config) .verbatim pattern text ∧ policy = Text.lowercase text := by
    intro patterns policy
    rw [← verbatim]
    exact mem_resolve_answered plain identity patterns refresh state attributes config answers policy
  have inFanned : ∀ patterns policy, policy ∈ fanned patterns ↔ ∃ pattern ∈ patterns, ∃ text,
      scope.Means (bagOrEmpty config) .list pattern text ∧ policy = Text.lowercase text := by
    intro patterns policy
    rw [← list]
    exact mem_resolve_answered fanning identity patterns again other attributes config alike policy
  have fromOne : ∀ pattern policy, policy ∈ fanned [pattern] ↔ ∃ text,
      scope.Means (bagOrEmpty config) .list pattern text ∧ policy = Text.lowercase text := by
    intro pattern policy
    simp [inFanned]
  have within : ∀ policy ∈ kept patterns, policy ∈ fanned patterns := by
    intro policy member
    obtain ⟨pattern, among, text, means, lowered⟩ := (inKept patterns policy).mp member
    exact (inFanned patterns policy).mpr
      ⟨pattern, among, text, scope.means_fanned _ pattern text means, lowered⟩
  refine ⟨within, fun unlisted => ?_, fun policy member dropped => ⟨?_, ?_⟩⟩
  · refine PolicySet.ext_members _ _ fun policy => ⟨within policy, fun member => ?_⟩
    obtain ⟨pattern, among, text, means, lowered⟩ := (inFanned patterns policy).mp member
    exact (inKept patterns policy).mpr ⟨pattern, among, text,
      scope.means_unlisted _ pattern text (unlisted pattern among) means, lowered⟩
  · obtain ⟨pattern, among, comes⟩ := (inFanned patterns policy).mp member
    exact ⟨pattern, among, (fromOne pattern policy).mpr comes⟩
  · intro pattern among comes
    obtain ⟨text, means, lowered⟩ := (fromOne pattern policy).mp comes
    have listed : scope.HoldsList (bagOrEmpty config) pattern := by
      refine Classical.byContradiction fun unlisted => dropped ?_
      exact (inKept patterns policy).mpr ⟨pattern, among, text,
        scope.means_unlisted _ pattern text unlisted means, lowered⟩
    refine ⟨listed, PolicySet.ext_members _ _ fun left => ?_⟩
    refine iff_of_false (fun member => ?_) (PolicySet.not_mem_empty left)
    obtain ⟨_, single, text, means, _⟩ := (inKept [pattern] left).mp member
    rw [List.mem_singleton.mp single] at means
    exact scope.listed_means_nothing _ pattern text listed means

theorem second_role_fanned :
    let attributes : SourceReply :=
      .ok [("os", .string "Web"), ("roles", .array [.string "WEB", .null, .string "Db"])]
    let config : SourceReply := .error ⟨"no answer"⟩
    let plain : Resolver Unit := ⟨{}, .constant attributes config, .verbatim⟩
    let fanning : Resolver (Script × Script) := ⟨{}, .scripted, .list⟩
    let scripts : Script × Script := ([("*", [attributes])], [("host", [config, .ok []])])
    let patterns := ["role:\x7battributes.os\x7d", "role:\x7battributes[roles]\x7d",
      "\x7bconfig.key\x7d", "\x7d"]
    let kept := fun patterns => ((plain.resolve ⟨"host"⟩ patterns false).run ()).1
    let fanned := fun patterns => ((fanning.resolve ⟨"host"⟩ patterns true).run scripts).1
    ("role:web" ∈ kept patterns ∧ "role:web" ∈ fanned patterns) ∧
      ("role:db" ∈ fanned patterns ∧ "role:db" ∉ kept patterns) ∧
      ∃ pattern ∈ patterns, "role:db" ∈ fanned [pattern] ∧
        (Scope.mk ⟨"host"⟩ (bagOrEmpty attributes)).HoldsList (bagOrEmpty config) pattern ∧
        kept [pattern] = .empty := by
  intro attributes config plain fanning scripts patterns kept fanned
  obtain ⟨within, _, only⟩ := verbatim_within_fanned plain fanning ⟨"host"⟩ patterns false true ()
    scripts attributes config rfl rfl rfl rfl
  have web : "role:web" ∈ kept patterns := by
    rw [← PolicySet.contains_iff]
    decide +kernel
  have database : "role:db" ∈ fanned patterns := by
    rw [← PolicySet.contains_iff]
    decide +kernel
  have dropped : "role:db" ∉ kept patterns := by
    rw [← PolicySet.contains_iff]
    decide +kernel
  obtain ⟨⟨pattern, among, comes⟩, each⟩ := only "role:db" database dropped
  exact ⟨⟨web, within _ web⟩, ⟨database, dropped⟩, pattern, among, comes, each pattern among comes⟩

end Resolver

end TokenIssuance
