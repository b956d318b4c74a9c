import RecorderStubs.Text.Basic

/-! Values of a TOML document, and the document while it is read. Numbers and moments of time keep
their spelling. A table is a list of entries without two of one key. -/
namespace RecorderStubs.Toml

abbrev Key := List Text

inductive Moment where
  | date
  | time
  | dateTime
deriving DecidableEq, Repr

inductive Value where
  | string (t : Text)
  | integer (spelling : Text)
  | float (spelling : Text)
  | boolean (b : Bool)
  | moment (kind : Moment) (spelling : Text)
  | array (items : List Value)
  | table (entries : List (Text × Value))
deriving Repr

abbrev Table := List (Text × Value)

namespace Value

/-- Arrays and inline tables cannot be extended once they are written. -/
def isClosed : Value → Bool
  | array _ | table _ => true
  | _ => false

end Value

namespace Table

def assign (t : Table) (k : Text) (v : Value) : Table :=
  t.map (fun entry => if entry.1 = k then (k, v) else entry)

/-- Changes the table under a key, which is made where it is missing. With `intoArrays`, the last
table of an array stands for the array. -/
def update (intoArrays : Bool) : Key → (Table → Option Table) → Table → Option Table
  | [], f, t => f t
  | k :: ks, f, t =>
    match t.lookup k with
    | none => (update intoArrays ks f []).map (fun inner => t ++ [(k, .table inner)])
    | some (.table inner) =>
      (update intoArrays ks f inner).map (fun inner => assign t k (.table inner))
    | some (.array items) =>
      match intoArrays, items.getLast? with
      | true, some (.table inner) =>
        (update intoArrays ks f inner).map
          (fun inner => assign t k (.array (items.dropLast ++ [.table inner])))
      | _, _ => none
    | some _ => none

def add (k : Text) (v : Value) (t : Table) : Option Table :=
  match t.lookup k with
  | some _ => none
  | none => some (t ++ [(k, v)])

def extend (k : Text) (t : Table) : Option Table :=
  match t.lookup k with
  | none => some (t ++ [(k, .array [.table []])])
  | some (.array items) => some (assign t k (.array (items ++ [.table []])))
  | some _ => none

end Table

/-- A document while it is read: its root, the tables that were declared and cannot be declared
again, those that dotted keys made since the last header, the closed values, and the last header. -/
structure Document where
  root : Table := []
  declared : List Key := []
  pending : List Key := []
  closed : List Key := []
  header : Key := []

namespace Document

def isDeclared (d : Document) (k : Key) : Bool := d.declared.contains k
def isClosed (d : Document) (k : Key) : Bool := d.closed.any (fun c => c.isPrefixOf k)

/-- At a header, what dotted keys made counts as declared. -/
def settle (d : Document) : Document := { d with declared := d.declared ++ d.pending, pending := [] }

def openTable (d : Document) (k : Key) : Option Document :=
  if d.isDeclared k || d.isClosed k then none
  else
    (Table.update true k some d.root).map
      (fun root => { d with root := root, declared := d.declared ++ [k], header := k })

/-- A header of an array of tables, which starts anew all that stands under it. -/
def openItem (d : Document) (k : Key) : Option Document :=
  if d.isClosed k then none
  else
    match k.getLast? with
    | none => none
    | some last =>
      (Table.update true k.dropLast (Table.extend last) d.root).map
        (fun root =>
          { d with
            root := root
            declared := d.declared.filter (fun c => !k.isPrefixOf c) ++ [k]
            closed := d.closed.filter (fun c => !k.isPrefixOf c)
            header := k })

def passed (d : Document) (k : Key) : List Key :=
  (List.range (k.length - 1)).map (fun i => d.header ++ k.take (i + 1))

def addPair (d : Document) (k : Key) (v : Value) : Option Document :=
  let full := d.header ++ k
  match k.getLast? with
  | none => none
  | some last =>
    if (d.passed k).any d.isDeclared || d.isClosed full.dropLast then none
    else
      (Table.update true full.dropLast (Table.add last v) d.root).map
        (fun root =>
          { d with
            root := root
            pending := d.pending ++ d.passed k
            closed := if v.isClosed then d.closed ++ [full] else d.closed })

end Document

structure Inline where
  entries : Table := []
  closed : List Key := []

def Inline.addPair (t : Inline) (k : Key) (v : Value) : Option Inline :=
  match k.getLast? with
  | none => none
  | some last =>
    if t.closed.any (fun c => c.isPrefixOf k) then none
    else
      (Table.update false k.dropLast (Table.add last v) t.entries).map
        (fun entries => ⟨entries, if v.isClosed then t.closed ++ [k] else t.closed⟩)

end RecorderStubs.Toml
