import Mathlib.Data.List.Forall2

set_option autoImplicit false

namespace TokenIssuance

variable {ι ρ σ : Type}

inductive Along (perform : ι → StateM σ ρ) (holds : ι → σ → ρ → σ → Prop) :
    List ι → σ → List ρ → σ → Prop where
  | done (state : σ) : Along perform holds [] state [] state
  | next {call : ι} {calls : List ι} {before middle after : σ} {result : ρ} {results : List ρ}
      (performed : (perform call).run before = (result, middle))
      (here : holds call before result middle)
      (later : Along perform holds calls middle results after) :
      Along perform holds (call :: calls) before (result :: results) after

-- The induction is on the calls; the invariant carries to a call what those before it left.
theorem run_along (perform : ι → StateM σ ρ) (holds : ι → σ → ρ → σ → Prop) (invariant : σ → Prop)
    (each : ∀ call before, invariant before →
      let (result, after) := (perform call).run before
      holds call before result after ∧ invariant after)
    (calls : List ι) (before : σ) (initially : invariant before) :
    let (results, after) := (calls.mapM perform).run before
    Along perform holds calls before results after := by
  induction calls generalizing before with
  | nil => exact .done before
  | cons call calls ih =>
      obtain ⟨here, kept⟩ := each call before initially
      rw [List.mapM_cons]
      exact .next rfl here (ih _ kept)

theorem run_each (perform : ι → StateM σ ρ) (holds : ι → σ → ρ → σ → Prop)
    (each : ∀ call before,
      holds call before ((perform call).run before).1 ((perform call).run before).2)
    (calls : List ι) (before : σ) :
    let (results, after) := (calls.mapM perform).run before
    Along perform holds calls before results after :=
  run_along perform holds (fun _ => True) (fun call before _ => ⟨each call before, trivial⟩)
    calls before trivial

theorem run_keeps (perform : ι → StateM σ ρ) (invariant : σ → Prop)
    (each : ∀ call before, invariant before → invariant ((perform call).run before).2)
    (calls : List ι) (before : σ) (initially : invariant before) :
    invariant ((calls.mapM perform).run before).2 := by
  induction calls generalizing before with
  | nil => exact initially
  | cons call calls ih =>
      rw [List.mapM_cons]
      exact ih _ (each call before initially)

theorem run_cons (perform : ι → StateM σ ρ) (call : ι) (calls : List ι) (before : σ) :
    ((call :: calls).mapM perform).run before =
      (((perform call).run before).1 :: ((calls.mapM perform).run ((perform call).run before).2).1,
        ((calls.mapM perform).run ((perform call).run before).2).2) := by
  rw [List.mapM_cons]
  rfl

theorem run_paired (perform other : ι → StateM σ ρ) (paired : ι → ι → Prop) (alike : ρ → ρ → Prop)
    (each : ∀ call twin before, paired call twin →
      alike ((perform call).run before).1 ((other twin).run before).1 ∧
        ((perform call).run before).2 = ((other twin).run before).2)
    (calls twins : List ι) (pairs : List.Forall₂ paired calls twins) (before : σ) :
    List.Forall₂ alike ((calls.mapM perform).run before).1 ((twins.mapM other).run before).1 ∧
      ((calls.mapM perform).run before).2 = ((twins.mapM other).run before).2 := by
  induction pairs generalizing before with
  | nil => exact ⟨.nil, rfl⟩
  | @cons call twin calls twins pair _ ih =>
      obtain ⟨here, same⟩ := each call twin before pair
      obtain ⟨later, left⟩ := ih ((other twin).run before).2
      rw [run_cons, run_cons, same]
      exact ⟨.cons here later, left⟩

end TokenIssuance
