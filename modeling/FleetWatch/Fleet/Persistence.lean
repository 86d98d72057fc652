import FleetWatch.Fleet
import FleetWatch.Store.File

/-! # Keeping the store

The store is loaded from a file that may be missing, and saved to the file that it was loaded from.
A file that cannot be read leaves everything as it was.
-/

namespace FleetWatch.Fleet

/-- The fleet with the store that a file keeps, or an empty one where there is no file yet. -/
def load (f : Fleet) (path : String) (text : Option String) : Except Json.Fault Fleet :=
  match text with
  | none => .ok { f with store := .empty, storePath := some path }
  | some text =>
      (Store.parse text).map fun store =>
        ({ f with store, storePath := some path }).measure (.tracked store.size)

/-- What is written to the file that keeps the store, if there is one. -/
def saved? (f : Fleet) : Option String := f.storePath.map fun _ => f.store.text

end FleetWatch.Fleet
