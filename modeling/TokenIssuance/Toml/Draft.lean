import TokenIssuance.Toml.Value

set_option autoImplicit false

namespace TokenIssuance.Toml

-- A table with a header of its own is closed to dotted keys, one that dotted keys made to headers, and
-- one that a longer header implied may get its own header once.
inductive Origin where
  | header
  | implied
  | dotted
deriving DecidableEq

inductive Draft where
  | value (value : Value)
  | table (origin : Origin) (entries : List (String × Draft))
  | tables (elements : List (List (String × Draft)))

namespace Draft

abbrev Entries := List (String × Draft)

def put (key : String) (draft : Draft) : Entries → Entries
  | [] => [(key, draft)]
  | entry :: more => if entry.1 = key then (key, draft) :: more else entry :: put key draft more

def alterLast {α : Type} (change : α → Option α) (list : List α) : Option (List α) :=
  match list.reverse with
  | [] => none
  | last :: before => (change last).map fun changed => (changed :: before).reverse

def alterUnder (path : List String) (change : Entries → Option Entries) (entries : Entries) :
    Option Entries :=
  match path with
  | [] => change entries
  | key :: more =>
      match entries.lookup key with
      | none => do return put key (.table .implied (← alterUnder more change [])) entries
      | some (.value _) => none
      | some (.table origin inner) => do
          return put key (.table origin (← alterUnder more change inner)) entries
      | some (.tables elements) => do
          return put key (.tables (← alterLast (alterUnder more change) elements)) entries

def assign (path : List String) (key : String) (datum : Value) (entries : Entries) :
    Option Entries :=
  match path with
  | [] =>
      match entries.lookup key with
      | none => some (put key (.value datum) entries)
      | some _ => none
  | step :: more =>
      match entries.lookup step with
      | none => do return put step (.table .dotted (← assign more key datum [])) entries
      | some (.table .dotted inner) => do
          return put step (.table .dotted (← assign more key datum inner)) entries
      | some (.table .implied inner) =>
          if more.isEmpty then none
          else do return put step (.table .implied (← assign more key datum inner)) entries
      | some (.tables elements) =>
          if more.isEmpty then none
          else do return put step (.tables (← alterLast (assign more key datum) elements)) entries
      | some (.value _) | some (.table .header _) => none

mutual
def toValue : Draft → Value
  | .value datum => datum
  | .table _ entries => .table (toEntries entries)
  | .tables elements => .array (toElements elements)
def toEntries : List (String × Draft) → List (String × Value)
  | [] => []
  | entry :: more => (entry.1, toValue entry.2) :: toEntries more
def toElements : List (List (String × Draft)) → List Value
  | [] => []
  | element :: more => .table (toEntries element) :: toElements more
end

end Draft

structure Pair where
  path : List String
  key : String
  value : Value

structure Section where
  element : Bool
  path : List String
  key : String
  pairs : List Pair

namespace Draft

def assignAll (pairs : List Pair) (entries : Entries) : Option Entries :=
  pairs.foldlM (fun entries pair => assign pair.path pair.key pair.value entries) entries

-- Adds a section where its header leads. A table header may take over a table that was only implied;
-- an element header needs an array of tables, or nothing yet.
def addSection (entries : Entries) (sect : Section) : Option Entries :=
  alterUnder sect.path (fun parent =>
    if sect.element then
      match parent.lookup sect.key with
      | none => do return put sect.key (.tables [← assignAll sect.pairs []]) parent
      | some (.tables elements) => do
          return put sect.key (.tables (elements ++ [← assignAll sect.pairs []])) parent
      | some _ => none
    else
      match parent.lookup sect.key with
      | none => do return put sect.key (.table .header (← assignAll sect.pairs [])) parent
      | some (.table .implied inner) => do
          return put sect.key (.table .header (← assignAll sect.pairs inner)) parent
      | some _ => none) entries

end Draft

def Table.ofPairs? (pairs : List Pair) : Option Table :=
  (Draft.assignAll pairs []).map Draft.toEntries

def Table.ofSections? (pairs : List Pair) (sections : List Section) : Option Table := do
  let root ← Draft.assignAll pairs []
  return Draft.toEntries (← sections.foldlM Draft.addSection root)

end TokenIssuance.Toml
