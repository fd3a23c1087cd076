import TokenIssuance.Proofs.Laziness

set_option autoImplicit false

namespace TokenIssuance

open Json (Bag)

namespace Text

def CaseRun.Holds (run : CaseRun) (code : Nat) : Prop :=
  run.first ≤ code ∧ code ≤ run.last ∧ (code - run.first) % run.step = 0

def CaseRun.lastTarget (run : CaseRun) : Nat := run.target + (run.last - run.first)

-- The forms of one run lie outside another, or between those that it holds.
def CaseRun.apart (run other : CaseRun) : Bool :=
  Nat.blt run.lastTarget other.first || Nat.blt other.last run.target ||
    ((run.step % 2 == 0 || run.first == run.last) && other.step % 2 == 0 &&
      (run.target + other.first) % 2 == 1)

def CaseRun.Plain (run : CaseRun) : Prop :=
  (run.lastTarget < 0xD800 ∨ 0xDFFF < run.target ∧ run.lastTarget < 0x110000) ∧
    (run.lastTarget < capitalDottedI.toNat ∨ capitalDottedI.toNat < run.target) ∧
    (run.lastTarget < capitalSigma.toNat ∨ capitalSigma.toNat < run.target)

instance (run : CaseRun) : Decidable run.Plain :=
  inferInstanceAs (Decidable (_ ∧ _ ∧ _))

theorem runs_apart : (caseRuns.all fun run => caseRuns.all run.apart) = true := by
  decide +kernel

theorem runs_plain : ∀ run ∈ caseRuns, run.Plain := by
  decide +kernel

theorem apart_unheld (run other : CaseRun) (code : Nat) (apart : run.apart other = true)
    (holds : run.Holds code) : ¬ other.Holds (run.target + (code - run.first)) := by
  obtain ⟨above, below, multiple⟩ := holds
  rintro ⟨first, last, even⟩
  simp only [CaseRun.apart, Bool.or_eq_true, Bool.and_eq_true, Nat.blt_eq, beq_iff_eq] at apart
  rcases apart with (before | after) | ⟨⟨single, step⟩, odd⟩
  · unfold CaseRun.lastTarget at before
    omega
  · omega
  · have otherEven : (run.target + (code - run.first) - other.first) % 2 = 0 :=
      Nat.mod_eq_zero_of_dvd
        (Nat.dvd_trans (Nat.dvd_of_mod_eq_zero step) (Nat.dvd_of_mod_eq_zero even))
    have runEven : (code - run.first) % 2 = 0 := by
      rcases single with step | same
      · exact Nat.mod_eq_zero_of_dvd
          (Nat.dvd_trans (Nat.dvd_of_mod_eq_zero step) (Nat.dvd_of_mod_eq_zero multiple))
      · omega
    omega

theorem lower_code_cases (code : Nat) (runs : List CaseRun) :
    lowerCode code runs = code ∨
      ∃ run ∈ runs, run.Holds code ∧ lowerCode code runs = run.target + (code - run.first) := by
  induction runs with
  | nil => exact .inl rfl
  | cons run more ih =>
      rw [lowerCode]
      split
      · exact .inl rfl
      · split
        · split
          · rename_i above below multiple
            exact .inr ⟨run, List.mem_cons_self, ⟨Nat.le_of_not_lt above, below, multiple⟩, rfl⟩
          · exact .inl rfl
        · rcases ih with same | ⟨other, member, found⟩
          · exact .inl same
          · exact .inr ⟨other, List.mem_cons_of_mem _ member, found⟩

theorem lower_code_unheld (code : Nat) (runs : List CaseRun)
    (unheld : ∀ run ∈ runs, ¬ run.Holds code) : lowerCode code runs = code := by
  rcases lower_code_cases code runs with same | ⟨run, member, holds, _⟩
  · exact same
  · exact absurd holds (unheld run member)

def Lower (c : Char) : Prop := c ≠ capitalSigma ∧ lowerChar c = [c]

instance (c : Char) : Decidable (Lower c) := inferInstanceAs (Decidable (_ ∧ _))

theorem code_of_nat (code : Nat) (valid : code.isValidChar) : (Char.ofNat code).toNat = code := by
  rw [Char.ofNat, dif_pos valid]
  rfl

theorem lower_of_run (run : CaseRun) (member : run ∈ caseRuns) (code : Nat) (holds : run.Holds code) :
    Lower (Char.ofNat (run.target + (code - run.first))) := by
  obtain ⟨scalar, notDotted, notSigma⟩ := runs_plain run member
  have below : run.target + (code - run.first) ≤ run.lastTarget := by
    have inside := holds.2.1
    unfold CaseRun.lastTarget
    omega
  have valid : (run.target + (code - run.first)).isValidChar := by
    rcases scalar with low | high
    · exact .inl (by omega)
    · exact .inr (by omega)
  have same := code_of_nat _ valid
  have fixed := lower_code_unheld (run.target + (code - run.first)) caseRuns fun other among =>
    apart_unheld run other code
      (List.all_eq_true.mp (List.all_eq_true.mp runs_apart run member) other among) holds
  refine ⟨fun sigma => ?_, ?_⟩
  · rw [sigma] at same
    omega
  · have undotted : Char.ofNat (run.target + (code - run.first)) ≠ capitalDottedI := by
      intro dotted
      rw [dotted] at same
      omega
    rw [lowerChar, if_neg undotted, same, fixed]

theorem lower_char_lower (c : Char) (other : c ≠ capitalSigma) : ∀ d ∈ lowerChar c, Lower d := by
  by_cases dotted : c = capitalDottedI
  · subst dotted
    rw [lowerChar, if_pos rfl, List.forall_mem_cons, List.forall_mem_singleton]
    exact ⟨by decide +kernel, by decide +kernel⟩
  · intro d member
    have single := member
    rw [lowerChar, if_neg dotted, List.mem_singleton] at single
    rcases lower_code_cases c.toNat caseRuns with same | ⟨run, among, holds, target⟩
    · rw [same, Char.ofNat_toNat] at single
      subst single
      exact ⟨other, by rw [lowerChar, if_neg dotted, same, Char.ofNat_toNat]⟩
    · rw [single, target]
      exact lower_of_run run among c.toNat holds

theorem lower_sigma_lower (before after : List Char) : Lower (lowerSigma before after) := by
  unfold lowerSigma
  split
  · decide +kernel
  · decide +kernel

theorem lowercase_after_lower (before cs : List Char) : ∀ c ∈ lowercaseAfter before cs, Lower c := by
  induction cs generalizing before with
  | nil => simp [lowercaseAfter]
  | cons c rest ih =>
      rw [lowercaseAfter, List.forall_mem_append]
      refine ⟨?_, ih (c :: before)⟩
      split
      · simpa using lower_sigma_lower before rest
      · rename_i other
        exact lower_char_lower c other

theorem lowercase_after_fixed (before cs : List Char) (lower : ∀ c ∈ cs, Lower c) :
    lowercaseAfter before cs = cs := by
  induction cs generalizing before with
  | nil => rfl
  | cons c rest ih =>
      rw [List.forall_mem_cons] at lower
      rw [lowercaseAfter, if_neg lower.1.1, lower.1.2, ih (c :: before) lower.2, List.singleton_append]

theorem lowercase_lower (text : String) : ∀ c ∈ (lowercase text).toList, Lower c := by
  rw [lowercase, String.toList_ofList]
  exact lowercase_after_lower [] text.toList

theorem lowercase_again (text : String) : lowercase (lowercase text) = lowercase text := by
  rw [lowercase, lowercase_after_fixed [] _ (lowercase_lower text), String.ofList_toList]

theorem lower_not_capital (c : Char) (lower : Lower c) : ¬ ('A' ≤ c ∧ c ≤ 'Z') := by
  rintro ⟨above, below⟩
  have low : 0x41 ≤ c.toNat := above
  have high : c.toNat ≤ 0x5A := below
  have table : caseRuns = ⟨0x41, 0x5A, 1, 0x61⟩ :: caseRuns.tail := rfl
  have small : lowerCode c.toNat caseRuns = 0x61 + (c.toNat - 0x41) := by
    rw [table, lowerCode, if_neg (Nat.not_lt.mpr low), if_pos high, Nat.mod_one, if_pos rfl]
  have undotted : c ≠ capitalDottedI := by
    intro dotted
    subst dotted
    exact absurd high (by decide)
  have fixed := lower.2
  rw [lowerChar, if_neg undotted, small, List.cons.injEq] at fixed
  have same := congrArg Char.toNat fixed.1
  rw [code_of_nat _ (.inl (by omega))] at same
  omega

end Text

-- Any way to expand a pattern in a scope. It may look into the cell of the scope, ask the sources, and
-- keep a state of its own among theirs.
abbrev Expansion (σ : Type) := Scope → String → StateT (Option Bag) (StateM σ) (List String)

variable {σ : Type}

def Scope.textsBy (scope : Scope) (expand : Expansion σ) (fetch : StateM σ Bag) :
    List String → StateT (Option Bag) (StateM σ) (List String)
  | [] => pure []
  | pattern :: more => do
      let expanded ← expand scope pattern
      let rendered ← (scope.renderAll expanded).run fetch
      return rendered ++ (← scope.textsBy expand fetch more)

theorem Scope.texts_by_expander (scope : Scope) (expander : Expander) (fetch : StateM σ Bag)
    (patterns : List String) :
    scope.textsBy (fun scope pattern => (expander.expand scope pattern).run fetch) fetch patterns =
      (scope.texts expander patterns).run fetch := by
  induction patterns with
  | nil => rfl
  | cons pattern more ih =>
      simp only [textsBy, texts, Demand.run_bind, Demand.run_pure, ih]

namespace Resolver

def textsBy (resolver : Resolver σ) (expand : Expansion σ) (call : ResolverCall) :
    StateM σ (List String) := do
  let attributes := bagOrEmpty (← resolver.sources.attributes call.identity)
  let fetch := resolver.fetchConfig call.identity (call.refresh resolver.settings)
  let texts := (Scope.mk call.identity attributes).textsBy expand fetch
    (call.patterns resolver.settings)
  return (← texts.run none).1

def performBy (resolver : Resolver σ) (expand : Expansion σ) (call : ResolverCall) :
    StateM σ PolicySet := do
  return PolicySet.ofList ((← resolver.textsBy expand call).map Text.lowercase)

def expansion (resolver : Resolver σ) (call : ResolverCall) : Expansion σ := fun scope pattern =>
  (resolver.expander.expand scope pattern).run
    (resolver.fetchConfig call.identity (call.refresh resolver.settings))

theorem perform_by_expansion (resolver : Resolver σ) (call : ResolverCall) :
    resolver.performBy (resolver.expansion call) call = resolver.perform call := by
  rw [perform_eq]
  unfold performBy textsBy expansion resolve Scope.policies
  simp only [Scope.texts_by_expander, Demand.run_bind, Demand.run_pure]
  simp

theorem policies_lower (resolver : Resolver σ) (expand : Expansion σ) (call : ResolverCall)
    (before : σ) :
    let texts := ((resolver.textsBy expand call).run before).1
    let policies := ((resolver.performBy expand call).run before).1
    resolver.perform call = resolver.performBy (resolver.expansion call) call ∧
      (∀ policy ∈ policies, Text.lowercase policy = policy ∧
        (∃ text ∈ texts, policy = Text.lowercase text) ∧
        ∀ c ∈ policy.toList, ¬ ('A' ≤ c ∧ c ≤ 'Z')) ∧
      ∀ first ∈ texts, ∀ second ∈ texts, Text.lowercase first = Text.lowercase second →
        policies.toList.filter
          (fun policy => policy = Text.lowercase first ∨ policy = Text.lowercase second) =
            [Text.lowercase first] := by
  intro texts policies
  have members : ∀ policy, policy ∈ policies ↔ ∃ text ∈ texts, Text.lowercase text = policy := by
    intro policy
    exact (PolicySet.mem_of_list _ policy).trans List.mem_map
  refine ⟨(perform_by_expansion resolver call).symm, fun policy member => ?_, ?_⟩
  · obtain ⟨text, among, rfl⟩ := (members policy).mp member
    exact ⟨Text.lowercase_again text, ⟨text, among, rfl⟩, fun c inside =>
      Text.lower_not_capital c (Text.lowercase_lower text c inside)⟩
  · intro first among second _ same
    simp only [← same, or_self]
    exact PolicySet.filter_member policies _ ((members _).mpr ⟨first, among, rfl⟩)

theorem sigma_forms_meet :
    let patterns := ["\x7bidentity\x7d", "\x7battributes.street\x7d", "\x7bidentity\x7dΑ"]
    let resolver : Resolver Unit :=
      ⟨⟨patterns, true⟩, .constant (.ok [("street", .string "οδος")]) (.error ⟨"late"⟩), .verbatim⟩
    let call := ResolverCall.policies ⟨"ΟΔΟΣ"⟩
    let policies := ((resolver.perform call).run ()).1
    policies.toList = ["οδος", "οδοσα"] ∧
      policies.toList.filter
        (fun policy => policy = Text.lowercase "ΟΔΟΣ" ∨ policy = Text.lowercase "οδος") =
          [Text.lowercase "ΟΔΟΣ"] := by
  intro patterns resolver call policies
  let texts := ((resolver.textsBy (resolver.expansion call) call).run ()).1
  have rendered : texts = ["ΟΔΟΣ", "οδος", "ΟΔΟΣΑ"] := by
    decide +kernel
  have capital : "ΟΔΟΣ" ∈ texts := by
    rw [rendered]
    decide
  have small : "οδος" ∈ texts := by
    rw [rendered]
    decide
  obtain ⟨own, _, single⟩ := policies_lower resolver (resolver.expansion call) call ()
  refine ⟨by decide +kernel, ?_⟩
  simp only [policies, own]
  exact single "ΟΔΟΣ" capital "οδος" small (by decide +kernel)

end Resolver

end TokenIssuance
