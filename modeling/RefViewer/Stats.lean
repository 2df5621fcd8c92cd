import RefViewer.Index

/-!
# Statistics

Counts over a list of entries. A member counts by its own flags, an enum by the flags of its
items.
-/

namespace RefViewer

structure Stats where
  total : Nat
  unreplicated : Nat
  deprecated : Nat
  hidden : Nat
  unscriptable : Nat
  deriving DecidableEq, Repr

namespace Stats

def zero : Stats := ⟨0, 0, 0, 0, 0⟩

def flagsOf : Entry → List Flags
  | .member m => [m.flags]
  | .enumType e => e.items.map EnumItem.flags

def ofEntries (entries : List Entry) : Stats :=
  let flags := entries.flatMap flagsOf
  { total := entries.length
    unreplicated := flags.countP Flags.unreplicated
    deprecated := flags.countP Flags.deprecated
    hidden := flags.countP Flags.hidden
    unscriptable := flags.countP Flags.unscriptable }

def text (stats : Stats) : String :=
  s!"Total Results: {stats.total} | Unreplicated: {stats.unreplicated} | " ++
  s!"Deprecated: {stats.deprecated} | Hidden: {stats.hidden} | " ++
  s!"Unscriptable: {stats.unscriptable}"

end Stats

end RefViewer
