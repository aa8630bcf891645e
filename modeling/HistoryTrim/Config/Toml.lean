import HistoryTrim.Config.Toml.Scalar
import HistoryTrim.Config.Value

/-! # TOML documents

The tables that a document defines, and the lines by which it does.
-/

/-! ## Tables of TOML texts

A TOML text builds its tables line by line. A table is defined once: by a header, or by the keys
with points that lead into it, or by a value in braces. What only lies on the way to a defined
table may still be defined by a header of its own.
-/

namespace HistoryTrim.Config.Toml

/-- How a table came to be. -/
inductive Origin where
  /-- It has a header, or it is the whole text. -/
  | header
  /-- A key with points leads into it. -/
  | dotted
  /-- It lies on the way to the table of a header. -/
  | implied
  deriving Repr, DecidableEq

/-- A table under construction, or a finished value in it. -/
inductive Node where
  | value (v : Value)
  | table (origin : Origin) (entries : List (String × Node))
  /-- Tables with one header each, in order; the last one is under construction. -/
  | elements (nodes : List Node)

/-- A key: the names that lead to a table, and a name in it. -/
structure KeyPath where
  parents : List String
  name : String
  deriving Repr, DecidableEq

/-- A line of a TOML text that defines something. -/
inductive Statement where
  | header (path : KeyPath)
  /-- The header of a further element of a list of tables. -/
  | element (path : KeyPath)
  | assign (path : KeyPath) (value : Value)
  deriving Repr

namespace Node

/-- The whole text before its first line. -/
def root : Node := .table .header []

/-- Change the table at the end of a way; tables that are missing on it are made. A way of names
    with points does not enter tables that have a header. -/
def descend (dotted : Bool) (change : Node → Option Node) : List String → Node → Option Node
  | [], node => change node
  | name :: path, .table origin entries => do
    let made := Node.table (if dotted then .dotted else .implied) []
    let child ← match (Entries.get? name entries).getD made with
      | .value _ => none
      | .table .header inner =>
        if dotted then none else descend dotted change path (.table .header inner)
      | .table origin inner => descend dotted change path (.table origin inner)
      | .elements nodes => do
        let last ← descend dotted change path (← nodes.getLast?)
        pure (.elements (nodes.dropLast ++ [last]))
    return .table origin (Entries.put name child entries)
  | _ :: _, _ => none

/-- Give a name in a table its value. A table that a header implied gets no entries by keys with
    points, and a name that is taken stays as it is. -/
def assignIn (viaKey : Bool) (name : String) (v : Value) : Node → Option Node
  | .table origin entries =>
    if viaKey && origin != .dotted then none
    else if (Entries.get? name entries).isSome then none
    else some (.table origin (Entries.put name (.value v) entries))
  | _ => none

/-- Give a key its value within a table. -/
def assign (path : KeyPath) (v : Value) (node : Node) : Option Node :=
  descend true (assignIn (!path.parents.isEmpty) path.name v) path.parents node

/-- Define a table within its parent. -/
def defineTable (name : String) : Node → Option Node
  | .table origin entries =>
    match Entries.get? name entries with
    | none => some (.table origin (Entries.put name (.table .header []) entries))
    | some (.table .implied inner) =>
      some (.table origin (Entries.put name (.table .header inner) entries))
    | some _ => none
  | _ => none

/-- Add an element to a list of tables within its parent. -/
def addElement (name : String) : Node → Option Node
  | .table origin entries =>
    match Entries.get? name entries with
    | none => some (.table origin (Entries.put name (.elements [root]) entries))
    | some (.elements nodes) =>
      some (.table origin (Entries.put name (.elements (nodes ++ [root])) entries))
    | some _ => none
  | _ => none

/-- Carry out statements; `current` leads to the table of the last header. -/
def build (current : List String) : List Statement → Node → Option Node
  | [], node => some node
  | .header path :: rest, node => do
    build (path.parents ++ [path.name]) rest
      (← descend false (defineTable path.name) path.parents node)
  | .element path :: rest, node => do
    build (path.parents ++ [path.name]) rest
      (← descend false (addElement path.name) path.parents node)
  | .assign path v :: rest, node => do
    build current rest (← descend false (assign path v) current node)

mutual

def finish : Node → Value
  | value v => v
  | table _ entries => .table (finishEntries entries)
  | elements nodes => .sequence (finishAll nodes)

def finishEntries : List (String × Node) → List (String × Value)
  | [] => []
  | (name, node) :: entries => (name, finish node) :: finishEntries entries

def finishAll : List Node → List Value
  | [] => []
  | node :: nodes => finish node :: finishAll nodes

end

end Node

/-- The table that assignments alone define, if they do not contradict each other. -/
def ofAssignments (assignments : List (KeyPath × Value)) : Option Value := do
  let node ← assignments.foldlM (fun node a => node.assign a.1 a.2) Node.root
  return node.finish

/-- The table that statements define, if they do not contradict each other. -/
def ofStatements (statements : List Statement) : Option Value :=
  (Node.build [] statements Node.root).map Node.finish

/-! ## TOML texts

A text is a sequence of lines: headers of tables, keys with their values, comments. Values may
nest in brackets and braces.
-/

open Text (Reader)
open Text.Reader

/-- How deep values may nest, and how many names a key may have. -/
def nestingLimit : Nat := 80

def bareName : Reader String := do
  return String.ofList (← takeSome fun c => c.isAlphanum || c == '_' || c == '-')

def name : Reader String :=
  bareName <|> lineString '"' basicChar <|> lineString '\'' literalChar

/-- A key: names with points between them. -/
def key : Reader KeyPath := do
  let names ← separated (do spaces; let n ← name; spaces; return n) '.'
  match names.getLast? with
  | some last =>
    if names.length < nestingLimit then return ⟨names.dropLast, last⟩ else failure
  | none => failure

/-- Blanks, ends of lines and comments between the items of a list. -/
def gap : Reader Unit := do
  let _ ← many ((do let _ ← one isSpace) <|> newline <|> comment)

def keyValue (value : Reader Value) : Reader (KeyPath × Value) := do
  let k ← key
  exactly '='
  spaces
  let v ← value
  return (k, v)

/-- A table in braces, on one line. -/
def inlineTable (value : Reader Value) : Reader Value := do
  exactly '\x7b'
  spaces
  if ← taken (exactly '\x7d') then return .table []
  let pairs ← separated (do let p ← keyValue value; spaces; return p) ','
  exactly '\x7d'
  match ofAssignments pairs with
  | some v => return v
  | none => failure

def array (value : Reader Value) : Reader Value := do
  exactly '['
  return .sequence (← items gap value ',' ']')

/-- A value that nests at most so deep. -/
def value : Nat → Reader Value
  | 0 => failure
  | n + 1 => do
    match ← peek? with
    | some '[' => array (value n)
    | some '\x7b' => inlineTable (value n)
    | _ => scalar

/-- A line that defines something. -/
def statement : Reader Statement :=
  (do word "[["; let k ← key; word "]]"; return .element k) <|>
  (do word "["; let k ← key; word "]"; return .header k) <|>
  (do let (k, v) ← keyValue (value nestingLimit); return .assign k v)

def textEnd : Reader Unit := do if (← peek?).isSome then failure

/-- A line that starts with something else than blanks, up to its end. -/
def line : Reader (List Statement) := do
  let found ← match ← peek? with
    | some '#' => pure []
    | some '\n' => pure []
    | some '\r' => pure []
    | _ => do pure [← statement]
  spaces
  let _ ← optional? comment
  newline <|> textEnd
  return found

/-- At most so many lines, up to the end of the text. -/
def linesUpTo : Nat → Reader (List Statement)
  | 0 => failure
  | n + 1 => do
    spaces
    if (← peek?).isNone then return []
    return (← line) ++ (← linesUpTo n)

/-- The lines of a text; a byte order mark before them is passed over. -/
def document : Reader (List Statement) := do
  let _ ← optional? (exactly '\ufeff')
  linesUpTo ((← rest).length + 1)

/-- The table that a text describes; nothing if the text is not in the format. -/
def read? (text : String) : Option Value := do
  ofStatements (← document.all? text)

end HistoryTrim.Config.Toml
