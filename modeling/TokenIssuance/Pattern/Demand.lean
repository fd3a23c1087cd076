set_option autoImplicit false

namespace TokenIssuance

-- Whether a computation asks does not depend on the datum, and a whole one asks once at most.
inductive Demand (β α : Type) where
  | done (result : α)
  | ask (result : β → α)

namespace Demand

variable {β α γ : Type}

def asks : Demand β α → Bool
  | done _ => false
  | ask _ => true

def given (datum : β) : Demand β α → α
  | done result => result
  | ask result => result datum

def bind (first : Demand β α) (next : α → Demand β γ) : Demand β γ :=
  match first with
  | done result => next result
  | ask result => ask fun datum => (next (result datum)).given datum

instance : Monad (Demand β) where
  pure := done
  bind := bind

theorem map_id_eq (d : Demand β α) : d.bind (fun a => done (id a)) = d := by
  cases d <;> rfl

theorem bind_assoc_eq {δ : Type} (d : Demand β α) (f : α → Demand β γ) (g : γ → Demand β δ) :
    (d.bind f).bind g = d.bind fun a => (f a).bind g := by
  cases d with
  | done a => rfl
  | ask k =>
      refine congrArg ask (funext fun datum => ?_)
      change (g ((f (k datum)).given datum)).given datum = ((f (k datum)).bind g).given datum
      cases f (k datum) <;> rfl

instance : LawfulMonad (Demand β) :=
  LawfulMonad.mk' (Demand β) map_id_eq (fun _ _ => rfl) bind_assoc_eq

def datum : Demand β β := ask id

@[simp] theorem given_pure (b : β) (a : α) : (pure a : Demand β α).given b = a := rfl

@[simp] theorem given_datum (b : β) : (datum : Demand β β).given b = b := rfl

@[simp] theorem given_bind (b : β) (d : Demand β α) (f : α → Demand β γ) :
    (d >>= f).given b = (f (d.given b)).given b := by
  cases d <;> rfl

@[simp] theorem given_map (b : β) (f : α → γ) (d : Demand β α) :
    (f <$> d).given b = f (d.given b) := by
  cases d <;> rfl

@[simp] theorem given_mapM {δ : Type} (b : β) (f : δ → Demand β α) (list : List δ) :
    (list.mapM f).given b = list.map fun item => (f item).given b := by
  induction list with
  | nil => rfl
  | cons item more ih => simp [List.mapM_cons, ih]

@[simp] theorem asks_pure (a : α) : (pure a : Demand β α).asks = false := rfl

@[simp] theorem asks_datum : (datum : Demand β β).asks = true := rfl

theorem asks_bind (b : β) (d : Demand β α) (f : α → Demand β γ) :
    (d >>= f).asks = (d.asks || (f (d.given b)).asks) := by
  cases d <;> rfl

@[simp] theorem asks_map (f : α → γ) (d : Demand β α) : (f <$> d).asks = d.asks := by
  cases d <;> rfl

theorem asks_mapM {δ : Type} (b : β) (f : δ → Demand β α) (list : List δ) :
    (list.mapM f).asks = list.any fun item => (f item).asks := by
  induction list with
  | nil => rfl
  | cons item more ih => simp [List.mapM_cons, asks_bind b, ih]

theorem ext_given [Inhabited β] {d e : Demand β α} (asks : d.asks = e.asks)
    (given : ∀ b, d.given b = e.given b) : d = e := by
  cases d with
  | done result =>
      cases e with
      | done other => exact congrArg done (given default)
      | ask other => cases asks
  | ask result =>
      cases e with
      | done other => cases asks
      | ask other => exact congrArg ask (funext given)

-- Runs a computation with a cell for the datum: it is fetched only if it is asked for and the cell
-- is empty, and then stays in the cell.
def run {σ : Type} (fetch : StateM σ β) : Demand β α → StateT (Option β) (StateM σ) α
  | done result => pure result
  | ask result => do
      match ← get with
      | some datum => return result datum
      | none => do
          let datum ← fetch
          set (some datum)
          return result datum

theorem run_filled {σ : Type} (fetch : StateM σ β) (d : Demand β α) (b : β) (state : σ) :
    ((d.run fetch).run (some b)).run state = ((d.given b, some b), state) := by
  cases d <;> rfl

theorem run_empty {σ : Type} (fetch : StateM σ β) (d : Demand β α) (state : σ) :
    ((d.run fetch).run none).run state =
      let (b, later) := fetch.run state
      if d.asks then ((d.given b, some b), later) else ((d.given b, none), state) := by
  cases d <;> rfl

theorem run_pure {σ : Type} (fetch : StateM σ β) (a : α) :
    (pure a : Demand β α).run fetch = pure a := rfl

theorem run_bind {σ : Type} (fetch : StateM σ β) (d : Demand β α) (next : α → Demand β γ) :
    (d >>= next).run fetch = d.run fetch >>= fun a => (next a).run fetch := by
  cases d with
  | done result => rfl
  | ask result =>
      funext cell state
      cases cell with
      | some datum => exact (run_filled fetch (next (result datum)) datum state).symm
      | none =>
          exact (run_filled fetch (next _) (fetch.run state).1 (fetch.run state).2).symm

end Demand

end TokenIssuance
