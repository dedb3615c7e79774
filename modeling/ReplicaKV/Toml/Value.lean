/-
Values of a TOML document, and the rules by which its lines fill tables.

A table remembers how it was begun. Headers may pass through any table but one written out as a value, and may open
a table that so far was only on the path of other headers; dotted keys may only add to tables that dotted keys began.
Entries keep the order in which they were first written; a table opened after it was on a path moves to the end.
-/
import ReplicaKV.Binary64

namespace ReplicaKV.Toml

/-- how a table was begun -/
inductive Origin where
  /-- by a header of its own -/
  | header
  /-- on the path of a header -/
  | path
  /-- on the path of a dotted key -/
  | dotted
  /-- as a value, in braces -/
  | braces
deriving DecidableEq, Repr

inductive Value where
  | text (s : String)
  | integer (n : Int)
  | float (x : Binary64)
  | flag (b : Bool)
  /-- a date, a time or both -/
  | moment
  | array (items : List Value)
  | table (origin : Origin) (entries : List (String × Value))
  /-- the tables under a header that is repeated: the earlier ones, and the one being filled -/
  | tables (earlier : List (List (String × Value))) (latest : List (String × Value))
deriving Inhabited

/-- the content of a table -/
abbrev Entries := List (String × Value)

/-- a key: the names of the tables it leads through, and the name it stands for in the last of them -/
structure Key where
  path : List String
  last : String
deriving DecidableEq, Repr

/-- a change to a table, which may not be allowed -/
abbrev Change := Origin → Entries → Option Entries

namespace Entries

/-- change what is bound to k in its place, or bind k at the end -/
def alter (k : String) (f : Option Value → Option Value) : Entries → Option Entries
  | [] => (f none).map fun v => [(k, v)]
  | e :: es => if e.1 = k then (f (some e.2)).map fun v => (k, v) :: es else (alter k f es).map (e :: ·)

/-- bind k, which must be free -/
def bindNew (k : String) (v : Value) : Entries → Option Entries := alter k fun
  | none => some v
  | some _ => none

/-- make a change at the end of a path. Missing tables on the way are begun; of repeated headers the last one counts. -/
def along (dotted : Bool) (change : Change) : List String → Change
  | [], origin, es => change origin es
  | k :: ks, _, es => alter k (fun
    | none =>
      let origin := if dotted then .dotted else .path
      (along dotted change ks origin []).map (.table origin)
    | some (.table origin inner) =>
      if origin = .braces || dotted && origin = .header then none
      else (along dotted change ks origin inner).map (.table origin)
    | some (.tables earlier latest) => (along dotted change ks .header latest).map (.tables earlier)
    | some _ => none) es

/-- bind a key; where it leads through tables, the last of them must be one that dotted keys began -/
def assign (k : Key) (v : Value) : Change :=
  along true (fun origin es => if k.path.isEmpty || origin = .dotted then bindNew k.last v es else none) k.path

/-- open the table of a header -/
def openTable (k : Key) : Change :=
  along false (fun _ es =>
    match es.lookup k.last with
    | none => some (es ++ [(k.last, .table .header [])])
    | some (.table .path inner) => some (es.filter (·.1 ≠ k.last) ++ [(k.last, .table .header inner)])
    | some _ => none) k.path

/-- open another table of a repeated header -/
def openAnother (k : Key) : Change :=
  along false (fun _ => alter k.last fun
    | none => some (.tables [] [])
    | some (.tables earlier latest) => some (.tables (earlier ++ [latest]) [])
    | some _ => none) k.path

/-- the table with these keys, written out as a value -/
def ofAssignments (l : List (Key × Value)) : Option Entries :=
  l.foldlM (fun es p => assign p.1 p.2 .braces es) []

end Entries

end ReplicaKV.Toml
