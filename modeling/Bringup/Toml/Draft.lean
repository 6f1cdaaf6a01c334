import Bringup.Toml.Moment
import Bringup.Toml.Outline

namespace Bringup

/-! Documents under construction.

A table remembers how it came to be, because that decides what may still be
added to it: one made by its own header is closed to dotted keys, one made by a
dotted key is closed to headers, and one that only a longer header has passed
through may still get a header of its own. Values, inline tables among them,
are closed to everything.

A table whose first entry has a certain key stands for the moment that the entry
holds as text. Its other entries are not looked at, so tables become values only
when the document is complete. -/

namespace Toml

inductive Origin where
  | header
  | passedThrough
  | dotted
deriving DecidableEq, Repr

structure Span where
  /-- What was left to read before the value. -/
  rest : List Char := []
  width : Nat := 1

inductive Draft where
  | scalar (value : Value) (span : Span)
  | list (items : List Draft)
  | inline (entries : List (String × Draft))
  | table (origin : Origin) (entries : List (String × Draft))
  /-- Tables under one repeated header, the last one still open. -/
  | tables (items : List (List (String × Draft)))

abbrev Drafts := List (String × Draft)

inductive Conflict where
  | duplicate (key : String) (table : Option (List String))
  | notTable (path : List String) (kind : String)
deriving DecidableEq, Repr

namespace Conflict

def message : Conflict → String
  | duplicate key none => "duplicate key \x60" ++ key ++ "\x60"
  | duplicate key (some []) => "duplicate key \x60" ++ key ++ "\x60 in document root"
  | duplicate key (some path) =>
      "duplicate key \x60" ++ key ++ "\x60 in table \x60" ++ String.intercalate "." path ++ "\x60"
  | notTable path kind =>
      "dotted key \x60" ++ String.intercalate "." path ++
        "\x60 attempted to extend non-table type (" ++ kind ++ ")"

end Conflict

/-! ## The values that drafts become -/

def momentKey : String := "$__toml_private_datetime"

namespace Draft

def outline : Draft → Outline
  | scalar (.moment _) _ => .table
  | scalar value _ => Outline.of value
  | list _ | tables _ => .list
  | inline _ | table _ _ => .table

def span : Draft → Span
  | scalar _ span => span
  | _ => {}

def toMoment (draft : Draft) : Except Fault Value :=
  let faulty := fun cause =>
    .error { rest := draft.span.rest, width := draft.span.width, cause := some cause }
  match draft with
  | scalar (.text written) _ =>
      match Moment.canonical? written with
      | some text => .ok (.moment text)
      | none => faulty "failed to parse datetime"
  | _ =>
      faulty ("invalid type: " ++ draft.outline.describe ++
        ", expected string containing a datetime")

def embedded? : List (String × Draft) → Option (Except Fault Value)
  | (key, draft) :: _ => if key = momentKey then some draft.toMoment else none
  | [] => none

mutual

def toValue : Draft → Except Fault Value
  | scalar value _ => .ok value
  | list items => (itemsToValues items).map .list
  | inline entries => ((embedded? entries).getD ((entriesToTable entries).map .table))
  | table _ entries => ((embedded? entries).getD ((entriesToTable entries).map .table))
  | tables items => (tablesToValues items).map .list

def entriesToTable : List (String × Draft) → Except Fault Table
  | [] => .ok []
  | (key, draft) :: rest => do
      let value ← draft.toValue
      return (key, value) :: (← entriesToTable rest)

def itemsToValues : List Draft → Except Fault (List Value)
  | [] => .ok []
  | draft :: rest => do
      let value ← draft.toValue
      return value :: (← itemsToValues rest)

def tablesToValues : List (List (String × Draft)) → Except Fault (List Value)
  | [] => .ok []
  | entries :: rest => do
      let value ← (embedded? entries).getD ((entriesToTable entries).map .table)
      return value :: (← tablesToValues rest)

end

def kindName : Draft → String
  | scalar (.text _) _ => "string"
  | scalar (.whole _) _ => "integer"
  | scalar (.real _) _ => "float"
  | scalar (.flag _) _ => "boolean"
  | scalar (.moment _) _ => "datetime"
  | scalar (.list _) _ | list _ => "array"
  | scalar (.table _) _ | inline _ => "inline table"
  | table _ _ => "table"
  | tables _ => "array of tables"

end Draft

/-! ## Changes -/

namespace Drafts

def put (drafts : Drafts) (key : String) (draft : Draft) : Drafts :=
  match drafts with
  | [] => [(key, draft)]
  | entry :: rest =>
      if entry.1 = key then (key, draft) :: rest else entry :: put rest key draft

/-- Changes the table that a path leads to, making the tables on the way that do
not exist yet. `walked` is the part of the path already followed. -/
def descend (byDots : Bool) (change : Origin → Drafts → Except Conflict Drafts)
    (walked : List String) : List String → Origin → Drafts → Except Conflict Drafts
  | [], origin, drafts => change origin drafts
  | key :: path, _, drafts =>
      let walked := walked ++ [key]
      match drafts.lookup key with
      | none => do
          let origin := if byDots then .dotted else .passedThrough
          let inner ← descend byDots change walked path origin []
          return drafts.put key (.table origin inner)
      | some (.tables items) => do
          let inner ← descend byDots change walked path .header (items.getLast?.getD [])
          return drafts.put key (.tables (items.dropLast ++ [inner]))
      | some (.table origin entries) =>
          if byDots ∧ origin = .header then .error (.duplicate key none)
          else do
            let inner ← descend byDots change walked path origin entries
            return drafts.put key (.table origin inner)
      | some other => .error (.notTable walked other.kindName)

/-- Adds an entry under a possibly dotted key. A dotted key only reaches tables
that dotted keys have made. `place` names the open table. -/
def addEntry (place : Option (List String)) (path : List String) (key : String) (value : Draft)
    (drafts : Drafts) : Except Conflict Drafts :=
  descend true (fun origin entries =>
    if (origin = .dotted) = path.isEmpty then .error (.duplicate key none)
    else if (entries.lookup key).isSome then .error (.duplicate key place)
    else .ok (entries ++ [(key, value)])) [] path .header drafts

def entriesAt : List String → Drafts → Drafts
  | [], drafts => drafts
  | key :: path, drafts =>
      match drafts.lookup key with
      | some (.table _ entries) => entriesAt path entries
      | some (.tables items) => entriesAt path (items.getLast?.getD [])
      | _ => []

end Drafts

structure OpenDocument where
  root : Drafts := []
  path : List String := []
  isRepeated : Bool := false
  entries : Drafts := []

namespace OpenDocument

def close (document : OpenDocument) : Except Conflict Drafts :=
  match document.path.getLast? with
  | none => .ok document.entries
  | some key =>
      Drafts.descend false (fun _ drafts =>
        if document.isRepeated then
          match drafts.lookup key with
          | some (.tables items) => .ok (drafts.put key (.tables (items ++ [document.entries])))
          | _ => .ok (drafts.put key (.tables [document.entries]))
        else .ok (drafts.put key (.table .header document.entries)))
        [] document.path.dropLast .header document.root

/-- Opens the table of a header. A table that a longer header has passed through
is taken out, so it will stand behind its siblings. -/
def openTable (document : OpenDocument) (path : List String) : Except Conflict OpenDocument := do
  let key := path.getLast?.getD ""
  let parent := path.dropLast
  let closed ← document.close
  let root ← Drafts.descend false (fun _ drafts =>
    match drafts.lookup key with
    | none => .ok drafts
    | some (.table .passedThrough _) => .ok (drafts.filter fun entry => entry.1 ≠ key)
    | some _ => .error (.duplicate key (some parent))) [] parent .header closed
  return { root, path, entries := Drafts.entriesAt path closed }

def openRepeated (document : OpenDocument) (path : List String) :
    Except Conflict OpenDocument := do
  let key := path.getLast?.getD ""
  let parent := path.dropLast
  let root ← document.close
  let root ← Drafts.descend false (fun _ drafts =>
    match drafts.lookup key with
    | none => .ok (drafts.put key (.tables []))
    | some (.tables _) => .ok drafts
    | some _ => .error (.duplicate key (some parent))) [] parent .header root
  return { root, path, isRepeated := true }

def add (document : OpenDocument) (path : List String) (key : String) (value : Draft) :
    Except Conflict OpenDocument := do
  let entries ← Drafts.addEntry (some document.path) path key value document.entries
  return { document with entries }

end OpenDocument

end Toml

end Bringup
