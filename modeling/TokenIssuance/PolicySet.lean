set_option autoImplicit false

namespace TokenIssuance

structure PolicySet where
  toList : List String
  ascending : toList.Pairwise (· < ·)
deriving Repr

namespace PolicySet

@[ext] theorem ext_list {a b : PolicySet} (same : a.toList = b.toList) : a = b := by
  cases a
  cases b
  cases same
  rfl

instance : DecidableEq PolicySet := fun a b =>
  if same : a.toList = b.toList then isTrue (ext_list same)
  else isFalse fun eq => same (congrArg toList eq)

instance : Membership String PolicySet where
  mem set policy := policy ∈ set.toList

def empty : PolicySet := ⟨[], .nil⟩

def insertSorted (policy : String) : List String → List String
  | [] => [policy]
  | first :: rest =>
      if policy < first then policy :: first :: rest
      else if policy = first then first :: rest
      else first :: insertSorted policy rest

theorem mem_insert_sorted (policy other : String) (list : List String) :
    other ∈ insertSorted policy list ↔ other = policy ∨ other ∈ list := by
  induction list with
  | nil => simp [insertSorted]
  | cons first rest ih =>
      rw [insertSorted]
      split
      · simp
      · split
        · rename_i same
          subst same
          simp
        · simp only [List.mem_cons, ih]
          grind

theorem insert_sorted_ascending (policy : String) (list : List String)
    (ascending : list.Pairwise (· < ·)) : (insertSorted policy list).Pairwise (· < ·) := by
  induction list with
  | nil => simp [insertSorted]
  | cons first rest ih =>
      rw [insertSorted]
      have tail := (List.pairwise_cons.mp ascending).2
      have above := (List.pairwise_cons.mp ascending).1
      split
      · rename_i less
        refine List.pairwise_cons.mpr ⟨?_, ascending⟩
        intro other member
        rcases List.mem_cons.mp member with same | later
        · exact same ▸ less
        · exact String.lt_trans less (above other later)
      · split
        · exact ascending
        · rename_i notLess different
          refine List.pairwise_cons.mpr ⟨?_, ih tail⟩
          intro other member
          rcases (mem_insert_sorted policy other rest).mp member with same | later
          · subst same
            grind
          · exact above other later

def insert (set : PolicySet) (policy : String) : PolicySet :=
  ⟨insertSorted policy set.toList, insert_sorted_ascending policy set.toList set.ascending⟩

def ofList (policies : List String) : PolicySet :=
  policies.foldl insert empty

-- Whether ascending policies lack one; the search ends where it would stand.
def lacks (policy : String) : List String → Bool
  | [] => true
  | first :: rest =>
      if policy < first then true
      else if policy = first then false
      else lacks policy rest

def contains (set : PolicySet) (policy : String) : Bool := set.toList.contains policy

def size (set : PolicySet) : Nat := set.toList.length

def isEmpty (set : PolicySet) : Bool := set.toList.isEmpty

@[simp] theorem not_mem_empty (policy : String) : ¬ policy ∈ empty :=
  List.not_mem_nil

@[simp] theorem mem_insert (set : PolicySet) (policy other : String) :
    other ∈ set.insert policy ↔ other = policy ∨ other ∈ set :=
  mem_insert_sorted policy other set.toList

@[simp] theorem mem_of_list (policies : List String) (policy : String) :
    policy ∈ ofList policies ↔ policy ∈ policies := by
  have folded : ∀ (more : List String) (set : PolicySet),
      policy ∈ more.foldl insert set ↔ policy ∈ more ∨ policy ∈ set := by
    intro more
    induction more with
    | nil => simp
    | cons first rest ih =>
        intro set
        rw [List.foldl_cons, ih, mem_insert, List.mem_cons, or_left_comm, or_assoc]
  rw [ofList, folded]
  simp

theorem contains_iff (set : PolicySet) (policy : String) :
    set.contains policy = true ↔ policy ∈ set :=
  List.contains_iff_mem

theorem distinct (set : PolicySet) : set.toList.Nodup :=
  set.ascending.imp String.ne_of_lt

theorem filter_member (set : PolicySet) (policy : String) (member : policy ∈ set) :
    set.toList.filter (· == policy) = [policy] := by
  have present : policy ∈ set.toList := member
  rw [List.filter_beq, set.distinct.count, if_pos present, List.replicate_one]

theorem ext_members (a b : PolicySet) (same : ∀ policy, policy ∈ a ↔ policy ∈ b) : a = b := by
  have members : a.toList.Perm b.toList := (List.perm_ext_iff_of_nodup a.distinct b.distinct).mpr same
  refine ext_list (members.eq_of_pairwise ?_ a.ascending b.ascending)
  intro first second _ _ less greater
  exact absurd (String.lt_trans less greater) (String.lt_irrefl first)

theorem lacks_iff (policy : String) (list : List String) (ascending : list.Pairwise (· < ·)) :
    lacks policy list = true ↔ policy ∉ list := by
  induction list with
  | nil => simp [lacks]
  | cons first rest ih =>
      obtain ⟨above, tail⟩ := List.pairwise_cons.mp ascending
      rw [lacks]
      split
      · rename_i less
        refine iff_of_true rfl fun member => ?_
        rcases List.mem_cons.mp member with same | later
        · exact String.lt_irrefl first (same ▸ less)
        · exact String.lt_irrefl policy (String.lt_trans less (above policy later))
      · split
        · rename_i same
          simp [same]
        · rename_i different
          simp [ih tail, different]

inductive Query where
  | insert (policy : String)
  | contains (policy : String)
  | size
  | isEmpty
  | list

inductive Answer where
  | truth (value : Bool)
  | count (value : Nat)
  | listed (policies : List String)
deriving DecidableEq

def answer : Query → StateM PolicySet Answer
  | .insert policy => fun set => (.truth (lacks policy set.toList), set.insert policy)
  | .contains policy => fun set => (.truth (set.contains policy), set)
  | .size => fun set => (.count set.size, set)
  | .isEmpty => fun set => (.truth set.isEmpty, set)
  | .list => fun set => (.listed set.toList, set)

end PolicySet

end TokenIssuance
