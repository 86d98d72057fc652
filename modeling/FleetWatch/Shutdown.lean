/-! # The shutdown signal

A signal that long-running tasks wait for. A receiver gets the signals that are given while it
listens; of those it has not taken, only the last is kept, and it is told once how many it has
missed. A signal that nobody listens to is lost.
-/

namespace FleetWatch

/-- The signal with its receivers. -/
structure Shutdown where
  /-- How many signals have been given while somebody listened. -/
  given : Nat := 0
  /-- For each receiver the number of the signal it waits for; none when it has stopped. -/
  receivers : List (Option Nat) := []
  deriving DecidableEq, Repr

namespace Shutdown

/-- What a receiver finds. -/
inductive Receipt where
  | received
  | empty
  /-- It has missed so many signals. -/
  | lagged (missed : Nat)
  deriving DecidableEq, Repr

def receiverCount (s : Shutdown) : Nat := (s.receivers.filter Option.isSome).length

/-- A new receiver, which waits for the next signal, and its index. -/
def subscribe (s : Shutdown) : Shutdown × Nat :=
  ({ s with receivers := s.receivers ++ [some s.given] }, s.receivers.length)

def trigger (s : Shutdown) : Shutdown :=
  if s.receiverCount = 0 then s else { s with given := s.given + 1 }

/-- The number of the signal that a receiver waits for, if it listens. -/
def waitsFor? (s : Shutdown) (index : Nat) : Option Nat := (s.receivers[index]?).join

/-- A receiver stops listening; the result says whether it did listen. -/
def drop (s : Shutdown) (index : Nat) : Shutdown × Bool :=
  ({ s with receivers := s.receivers.set index none }, (s.waitsFor? index).isSome)

def receive (s : Shutdown) (index : Nat) : Shutdown × Option Receipt :=
  let waitingFor (n : Nat) : Shutdown := { s with receivers := s.receivers.set index (some n) }
  match s.waitsFor? index with
  | none => (s, none)
  | some n =>
      if s.given ≤ n then (s, some .empty)
      else if n + 1 = s.given then (waitingFor (n + 1), some .received)
      else (waitingFor (s.given - 1), some (.lagged (s.given - 1 - n)))

end Shutdown

end FleetWatch
