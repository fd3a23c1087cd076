import Mathlib.Data.Finset.Sort
import TokenIssuance.PolicySet
import TokenIssuance.Proofs.ByteOrder
import TokenIssuance.Proofs.Run

set_option autoImplicit false

namespace TokenIssuance.PolicySet

def Query.inserted? : Query → Option String
  | .insert policy => some policy
  | .contains _ | .size | .isEmpty | .list => none

def inserted (queries : List Query) : Finset String :=
  (queries.filterMap Query.inserted?).toFinset

def given (start : List String) (queries : List Query) : Finset String :=
  start.toFinset ∪ inserted queries

def reply (policies : Finset String) : Query → Answer
  | .insert policy => .truth (policy ∉ policies)
  | .contains policy => .truth (policy ∈ policies)
  | .size => .count policies.card
  | .isEmpty => .truth (policies = ∅)
  | .list => .listed (policies.sort (· ≤ ·))

def members (set : PolicySet) : Finset String := set.toList.toFinset

theorem mem_members (set : PolicySet) (policy : String) : policy ∈ set.members ↔ policy ∈ set :=
  List.mem_toFinset

theorem members_inj (a b : PolicySet) : a = b ↔ a.members = b.members := by
  refine ⟨congrArg members, fun same => ext_members a b fun policy => ?_⟩
  rw [← mem_members, ← mem_members, same]

theorem members_of_list (policies : List String) : (ofList policies).members = policies.toFinset := by
  ext policy
  rw [mem_members, mem_of_list, List.mem_toFinset]

theorem to_list_sorted (set : PolicySet) : set.toList = set.members.sort (· ≤ ·) :=
  ((List.toFinset_sort _ set.distinct).mpr (set.ascending.imp le_of_lt)).symm

theorem mem_inserted (queries : List Query) (policy : String) :
    policy ∈ inserted queries ↔ .insert policy ∈ queries := by
  rw [inserted, List.mem_toFinset, List.mem_filterMap]
  constructor
  · rintro ⟨query, member, names⟩
    cases query with
    | insert other =>
        cases names
        exact member
    | contains _ | size | isEmpty | list => cases names
  · intro member
    exact ⟨.insert policy, member, rfl⟩

theorem inserted_cons (query : Query) (queries : List Query) :
    inserted (query :: queries) = inserted [query] ∪ inserted queries := by
  rw [inserted, ← List.singleton_append, List.filterMap_append, List.toFinset_append]
  rfl

theorem answer_reply (query : Query) (set : PolicySet) :
    ((answer query).run set).1 = reply set.members query := by
  cases query with
  | insert policy =>
      refine congrArg Answer.truth (Bool.eq_iff_iff.mpr ?_)
      rw [lacks_iff policy set.toList set.ascending, decide_eq_true_iff, mem_members]
      rfl
  | contains policy =>
      refine congrArg Answer.truth (Bool.eq_iff_iff.mpr ?_)
      rw [contains_iff, decide_eq_true_iff, mem_members]
  | size => exact congrArg Answer.count (List.toFinset_card_of_nodup set.distinct).symm
  | isEmpty =>
      refine congrArg Answer.truth (Bool.eq_iff_iff.mpr ?_)
      rw [isEmpty, List.isEmpty_iff, decide_eq_true_iff, members, List.toFinset_eq_empty_iff]
  | list => exact congrArg Answer.listed set.to_list_sorted

theorem answer_members (query : Query) (set : PolicySet) :
    ((answer query).run set).2.members = set.members ∪ inserted [query] := by
  cases query with
  | insert policy =>
      ext other
      rw [Finset.mem_union, mem_members, mem_members, mem_inserted, List.mem_singleton,
        Query.insert.injEq, or_comm]
      exact mem_insert set policy other
  | contains _ | size | isEmpty | list => exact (Finset.union_empty _).symm

theorem answer_keeps (query : Query) (set : PolicySet) (only : query.inserted? = none) :
    ((answer query).run set).2 = set := by
  rw [members_inj, answer_members, inserted, List.filterMap_cons_none only]
  exact Finset.union_empty _

theorem run_members (queries : List Query) (set : PolicySet) :
    ((queries.mapM answer).run set).2.members = set.members ∪ inserted queries := by
  induction queries generalizing set with
  | nil => exact (Finset.union_empty _).symm
  | cons query queries ih =>
      rw [run_cons, ih, answer_members, inserted_cons query queries, Finset.union_assoc]

theorem run_replies (queries : List Query) (set : PolicySet) (i : Nat) :
    ((queries.mapM answer).run set).1[i]? =
      queries[i]?.map (reply (set.members ∪ inserted (queries.take i))) := by
  induction queries generalizing set i with
  | nil => rfl
  | cons query queries ih =>
      rw [run_cons]
      cases i with
      | zero =>
          rw [List.getElem?_cons_zero, List.getElem?_cons_zero, answer_reply, List.take_zero]
          exact congrArg (fun policies => some (reply policies query)) (Finset.union_empty _).symm
      | succ i =>
          rw [List.getElem?_cons_succ, List.getElem?_cons_succ, ih, answer_members, List.take_succ_cons,
            inserted_cons query (queries.take i), Finset.union_assoc]

theorem run_given (start : List String) (queries : List Query) :
    ((queries.mapM answer).run (ofList start)).2.members = given start queries := by
  rw [run_members, members_of_list, given]

theorem answers_as_finite_set (start : List String) (queries : List Query) :
    let (answers, set) := (queries.mapM answer).run (ofList start)
    (∀ i : Nat, answers[i]? = queries[i]?.map (reply (given start (queries.take i)))) ∧
      set.toList = (given start queries).sort (· ≤ ·) ∧
      set.toList.Pairwise (fun a b => a < b ∧ Text.bytes a < Text.bytes b) ∧
      (∀ policy, policy ∈ set.toList ↔ policy ∈ start ∨ .insert policy ∈ queries) ∧
      (∀ query, query.inserted? = none → ((answer query).run set).2 = set) ∧
      ∀ others more, set = ((more.mapM answer).run (ofList others)).2 ↔
        given start queries = given others more := by
  refine ⟨fun i => ?_, ?_, ?_, fun policy => ?_, fun query only => answer_keeps query _ only,
    fun others more => ?_⟩
  · refine (run_replies queries (ofList start) i).trans ?_
    rw [members_of_list]
    rfl
  · rw [← run_given]
    exact to_list_sorted _
  · exact (PolicySet.ascending _).imp fun less => ⟨less, (Text.bytes_lt_iff _ _).mpr less⟩
  · refine (mem_members ((queries.mapM answer).run (ofList start)).2 policy).symm.trans ?_
    rw [run_given, given, Finset.mem_union, List.mem_toFinset, mem_inserted]
  · refine (members_inj _ ((more.mapM answer).run (ofList others)).2).trans ?_
    rw [← run_given, ← run_given]
    rfl

-- A prefix goes first, and a character outside the basic plane after all those in it.
example : (ofList ["😀", "ab", "｡", "a", "ab"]).toList = ["a", "ab", "｡", "😀"] := by
  decide +kernel

end TokenIssuance.PolicySet
