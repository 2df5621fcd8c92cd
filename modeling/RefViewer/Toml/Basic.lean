import RefViewer.Number.Basic

/-!
# Settings documents

A document of keys and values under headers. A table remembers how it came about, because
that decides what may still be added to it: a header opens a table once, dotted keys add only
to tables that dotted keys have made, and a value in brackets or braces is closed.
-/

namespace RefViewer.Toml

inductive TableKind where
  /-- Opened by its own header. -/
  | opened
  /-- Made on the way to a longer header. -/
  | implied
  /-- Made on the way along dotted keys. -/
  | dotted
  deriving DecidableEq, Repr

inductive Value where
  | text (s : String)
  | integer (i : Int)
  | real (x : Number)
  | bool (b : Bool)
  /-- A date, a time of day or both, in their standard form. -/
  | moment (s : String)
  | list (items : List Value)
  | inline (entries : List (String × Value))
  | table (kind : TableKind) (entries : List (String × Value))
  /-- Tables under one repeated header; the last one is still open. -/
  | tables (last : List (String × Value)) (before : List (List (String × Value)))
  deriving Repr

abbrev Entries := List (String × Value)

namespace Entries

def put (key : String) (value : Value) : Entries → Entries
  | [] => [(key, value)]
  | (k, v) :: rest => if k = key then (k, value) :: rest else (k, v) :: put key value rest

def putNew? (key : String) (value : Value) (entries : Entries) : Option Entries :=
  match entries.lookup key with
  | none => some (entries ++ [(key, value)])
  | some _ => none

def within (made : TableKind) (change : TableKind → Entries → Option Entries) :
    List String → TableKind → Entries → Option Entries
  | [], kind, entries => change kind entries
  | key :: path, _, entries =>
    match entries.lookup key with
    | none => (within made change path made []).map fun table =>
      entries.put key (.table made table)
    | some (.table kind table) =>
      if made = .dotted && kind = .opened then none
      else (within made change path kind table).map fun table => entries.put key (.table kind table)
    | some (.tables last before) =>
      (within made change path .opened last).map fun last => entries.put key (.tables last before)
    | some _ => none

def assign (path : List String) (key : String) (value : Value) (kind : TableKind)
    (entries : Entries) : Option Entries :=
  let set (kind : TableKind) (entries : Entries) : Option Entries :=
    if (kind = .dotted) = (path = []) then none else entries.putNew? key value
  entries.within .dotted set path kind

/-- Takes a header: a table is opened only once. -/
def openTable (path : List String) (key : String) (entries : Entries) : Option Entries :=
  let change (_ : TableKind) (entries : Entries) : Option Entries :=
    match entries.lookup key with
    | none => some (entries.put key (.table .opened []))
    | some (.table .implied table) => some (entries.put key (.table .opened table))
    | some _ => none
  entries.within .implied change path .opened

def openNext (path : List String) (key : String) (entries : Entries) : Option Entries :=
  let change (_ : TableKind) (entries : Entries) : Option Entries :=
    match entries.lookup key with
    | none => some (entries.put key (.tables [] []))
    | some (.tables last before) => some (entries.put key (.tables [] (last :: before)))
    | some _ => none
  entries.within .implied change path .opened

end Entries

end RefViewer.Toml
