import ConformanceGate.Document.Written

/-!
# Tables of configuration texts

A configuration text is a list of statements: headers, which say which table is being filled, and
assignments to keys in it. Tables come into being by headers, on the way of headers, or on the way
of dotted keys, and each may be added to only in some of these ways. Nothing is defined twice.

A text that is well formed as a whole may still hold keys and values that mean nothing. They are
looked at statement by statement, and the first flaw is the one that counts.
-/

namespace ConformanceGate.Toml

/-- Why a text has no tree. -/
inductive Flaw
  | malformed
  /-- A dotted key has more parts than are followed. -/
  | tooDeep
deriving DecidableEq

/-- A key as it was read: its parts, or what is wrong with it. -/
abbrev Key := Except Flaw (List String)

/-- A value as it was read, its keys and scalars perhaps meaningless. -/
inductive Form
  | scalar (value : Except Flaw Written)
  | array (items : List Form)
  | table (entries : List (Key × Form))

inductive Statement
  /-- What follows fills this table. -/
  | table (path : Key)
  /-- What follows fills a new element of this array of tables. -/
  | element (path : Key)
  | assign (path : Key) (value : Form)

/-- How a table came into being. -/
inductive Origin
  | header
  | onTheWay
  | dotted
deriving DecidableEq

/-- What a key stands for while the text is being read. -/
inductive Node
  | value (value : Written)
  | table (origin : Origin) (entries : List (String × Node))
  /-- An array of tables, the last one first. -/
  | tables (last : List (String × Node)) (earlier : List (List (String × Node)))

abbrev Entries := List (String × Node)

def find? (key : String) (entries : Entries) : Option Node := entries.lookup key

/-- Puts an entry in the place of the one with the same key, or at the end. -/
def put (key : String) (node : Node) (entries : Entries) : Entries :=
  if (find? key entries).isSome then entries.map fun e => if e.1 = key then (key, node) else e
  else entries ++ [(key, node)]

/-- Assigns a value to a key of a table. The way of a dotted key makes the tables that are missing
and enters those that no header has opened, which belong to dotted keys from then on; of an array of
tables it enters the last one, but only to go on from there. -/
def assign (value : Written) : List String → Entries → Option Entries
  | [], _ => none
  | [key], entries =>
    if (find? key entries).isSome then none else some (put key (.value value) entries)
  | key :: path, entries =>
    match find? key entries with
    | none => do return put key (.table .dotted (← assign value path [])) entries
    | some (.table .header _) | some (.value _) => none
    | some (.table _ inner) => do
      return put key (.table .dotted (← assign value path inner)) entries
    | some (.tables last earlier) =>
      if path.length = 1 then none
      else do return put key (.tables (← assign value path last) earlier) entries

/-- Changes what the last key of a header's path stands for, in the table that the keys before lead
to. Missing tables are made, and of an array of tables the last one is entered. -/
def atHeader (change : Option Node → Option Node) : List String → Entries → Option Entries
  | [], _ => none
  | [key], entries => do return put key (← change (find? key entries)) entries
  | key :: path, entries =>
    match find? key entries with
    | none => do return put key (.table .onTheWay (← atHeader change path [])) entries
    | some (.table origin inner) => do
      return put key (.table origin (← atHeader change path inner)) entries
    | some (.tables last earlier) => do
      return put key (.tables (← atHeader change path last) earlier) entries
    | some (.value _) => none

/-- A header opens a table that no header has opened and no dotted key has made. -/
def openTable : Option Node → Option Node
  | none => some (.table .header [])
  | some (.table .onTheWay entries) => some (.table .header entries)
  | some _ => none

def openElement : Option Node → Option Node
  | none => some (.tables [] [])
  | some (.tables last earlier) => some (.tables [] (last :: earlier))
  | some _ => none

def assignIn (path : List String) (value : Written) : Option Node → Option Node
  | some (.table origin entries) => (assign value path entries).map (.table origin ·)
  | some (.tables last earlier) => (assign value path last).map (.tables · earlier)
  | _ => none

/-- A document under construction: the path of the open table, and all entries. -/
structure Draft where
  current : List String
  entries : Entries

mutual

def Node.toWritten : Node → Written
  | .value w => w
  | .table _ entries =>
    .object ((Keyed.collect (entriesToWritten entries)).map fun e => (.ok e.1, e.2)) none
  | .tables last earlier => .array ((tablesToWritten earlier).reverse ++
      [.object ((Keyed.collect (entriesToWritten last)).map fun e => (.ok e.1, e.2)) none]) none

def entriesToWritten : List (String × Node) → List (String × Written)
  | [] => []
  | (key, node) :: rest => (key, node.toWritten) :: entriesToWritten rest

def tablesToWritten : List (List (String × Node)) → List Written
  | [] => []
  | entries :: rest =>
    .object ((Keyed.collect (entriesToWritten entries)).map fun e => (.ok e.1, e.2)) none ::
      tablesToWritten rest

end

/-! ## What a text means -/

/-- A step that cannot be taken makes the text malformed. -/
def orMalformed : Option α → Except Flaw α
  | some a => .ok a
  | none => .error .malformed

mutual

def Form.meaning : Form → Except Flaw Written
  | .scalar value => value
  | .array items => do return .array (← meanings items) none
  | .table entries => do return (Node.table .header (← fill [] entries)).toWritten

def meanings : List Form → Except Flaw (List Written)
  | [] => .ok []
  | form :: rest => do
    let value ← form.meaning
    return value :: (← meanings rest)

def fill (entries : Entries) : List (Key × Form) → Except Flaw Entries
  | [] => .ok entries
  | (key, form) :: rest => do
    let path ← key
    let value ← form.meaning
    fill (← orMalformed (assign value path entries)) rest

end

def Draft.step (d : Draft) : Statement → Except Flaw Draft
  | .table path => do
    let path ← path
    return ⟨path, ← orMalformed (atHeader openTable path d.entries)⟩
  | .element path => do
    let path ← path
    return ⟨path, ← orMalformed (atHeader openElement path d.entries)⟩
  | .assign path form => do
    let path ← path
    let value ← form.meaning
    let entries ← orMalformed <|
      if d.current.isEmpty then assign value path d.entries
      else atHeader (assignIn path value) d.current d.entries
    return { d with entries := entries }

/-- The tree of a list of statements, its tables in the order of their keys. -/
def ofStatements (statements : List Statement) : Except Flaw Written := do
  let draft ← statements.foldlM Draft.step ⟨[], []⟩
  return (Node.table .header draft.entries).toWritten

end ConformanceGate.Toml
