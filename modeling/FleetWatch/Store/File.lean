import FleetWatch.Store

/-! # The store as a file

A store is kept over restarts as a JSON array of its entries in the order of keys. In a file that
is read, a later entry takes the place of an earlier one with the same key.
-/

namespace FleetWatch.Store

open Json (Reader Fault)

def entryJson (e : StoreEntry) : Json := .obj [("key", e.1.json), ("record", e.2.json)]

def json (s : Store) : Json := .arr (s.entries.map entryJson)

/-- The text of the file that keeps the store. -/
def text (s : Store) : String := s.json.compact

/-- The fields of an entry, as far as they have been read. -/
structure EntryParts where
  key : Option ResourceKey := none
  record : Option StatusRecord := none

def entryReader : Reader StoreEntry :=
  Reader.record
    [⟨"key", fun p => p.key.isSome, fun p => do
      return { p with key := some (← ResourceKey.reader) }⟩,
     ⟨"record", fun p => p.record.isSome, fun p => do
      return { p with record := some (← StatusRecord.reader) }⟩]
    ({} : EntryParts)
    fun p => do return (← p.key, ← p.record)

def parse (text : String) : Except Fault Store :=
  (Reader.run (Reader.array entryReader) text).map ofList

end FleetWatch.Store
