/-!
# Debouncing

A burst of input settles into one firing once no input has come for a while. Times are
milliseconds from any common origin and are passed in.
-/

namespace RefViewer

structure Debouncer where
  window : Nat
  lastInput : Option Nat
  deriving DecidableEq, Repr

namespace Debouncer

def defaultWindow : Nat := 300

def new (window : Nat) : Debouncer := ⟨window, none⟩

def touch (debouncer : Debouncer) (now : Nat) : Debouncer :=
  { debouncer with lastInput := some now }

def isPending (debouncer : Debouncer) : Bool := debouncer.lastInput.isSome

def deadline? (debouncer : Debouncer) : Option Nat :=
  debouncer.lastInput.map (· + debouncer.window)

def cancel (debouncer : Debouncer) : Debouncer := { debouncer with lastInput := none }

/-- Fires at the deadline or later, once for a burst. -/
def poll (debouncer : Debouncer) (now : Nat) : Bool × Debouncer :=
  match debouncer.deadline? with
  | some deadline => if deadline ≤ now then (true, debouncer.cancel) else (false, debouncer)
  | none => (false, debouncer)

end Debouncer

end RefViewer
