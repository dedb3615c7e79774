/-
TOML documents. A document is read line by line into headers and assignments, which then fill the root table in order.

- `value`: arrays and tables in braces may be nested, up to a limit that is part of the format read here.
- `Entries.ofText`: the root table of a document, or none where the text is no document.
-/
import ReplicaKV.Toml.Moment
import ReplicaKV.Toml.Number

namespace ReplicaKV.Toml

open Scan

/-- how deeply values may be nested -/
def depthLimit : Nat := 79

/-- how many names a key may have -/
def nameLimit : Nat := 79

def isBare (c : Char) : Bool := c.isAlphanum || c = '_' || c = '-'

def name : Scan String := quotedLine <|> do
  let c ← char isBare
  let cs ← run isBare
  return String.ofList (c :: cs)

def key : Scan Key := do
  let names ← separated (blanks *> name <* blanks) (exactly ".")
  if nameLimit < names.length then failure
  return ⟨names.dropLast, names.getLastD ""⟩

/-- white space, line breaks and comments between the items of an array -/
def space : Scan Unit := do
  let _ ← many ((fun _ => ()) <$> char isBlank <|> newline <|> comment)

def scalar : Scan Value :=
  .text <$> quoted <|> (fun _ => .flag true) <$> exactly "true" <|> (fun _ => .flag false) <$> exactly "false"
    <|> (fun _ => .moment) <$> moment <|> number

def array (item : Scan Value) : Scan Value := do
  exactly "["
  let items ← optional (separated (space *> item <* space) (exactly ",") <* optional (exactly ","))
  space
  exactly "]"
  return .array (items.getD [])

/-- a key, and its value on the same line -/
def assignment (item : Scan Value) : Scan (Key × Value) := do
  let k ← key
  exactly "="
  blanks
  let v ← item
  blanks
  return (k, v)

def braces (item : Scan Value) : Scan Value := do
  exactly "\x7b"
  let l ← optional (separated (assignment item) (exactly ","))
  blanks
  exactly "\x7d"
  match Entries.ofAssignments (l.getD []) with
  | some es => return .table .braces es
  | none => failure

/-- a value with at most `depth` values around each other inside it -/
def value : (depth : Nat) → Scan Value
  | 0 => scalar
  | depth + 1 => scalar <|> array (value depth) <|> braces (value depth)

inductive Line where
  | empty
  | header (k : Key)
  | repeated (k : Key)
  | assign (k : Key) (v : Value)

/-- what may follow on a line, and its end -/
def lineEnd : Scan Unit := do
  blanks
  let _ ← optional comment
  newline <|> atEnd

def line : Scan Line :=
  (fun _ => .empty) <$> newline
    <|> (fun _ => .empty) <$> (comment *> (newline <|> atEnd))
    <|> .repeated <$> (exactly "[[" *> key <* exactly "]]" <* lineEnd)
    <|> .header <$> (exactly "[" *> key <* exactly "]" <* lineEnd)
    <|> (fun p => .assign p.1 p.2) <$> (assignment (value depthLimit) <* lineEnd)

def lines : Scan (List Line) := do
  let _ ← optional (exactly "\uFEFF")
  let l ← many (blanks *> line)
  blanks
  atEnd
  return l

/-- a document read up to some line: the root table, and the names that lead to the table being filled -/
structure Draft where
  root : Entries
  current : List String

namespace Draft

def empty : Draft := ⟨[], []⟩

def add (d : Draft) : Line → Option Draft
  | .empty => some d
  | .header k => (Entries.openTable k .header d.root).map fun root => ⟨root, k.path ++ [k.last]⟩
  | .repeated k => (Entries.openAnother k .header d.root).map fun root => ⟨root, k.path ++ [k.last]⟩
  | .assign k v =>
    (Entries.along false (Entries.assign k v) d.current .header d.root).map fun root => { d with root }

end Draft

/-- the root table of a document -/
def Entries.ofText (text : String) : Option Entries := do
  let (ls, _) ← lines text.toList
  let d ← ls.foldlM Draft.add .empty
  return d.root

end ReplicaKV.Toml
