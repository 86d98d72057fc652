import FleetWatch.Store.Key
import FleetWatch.Store.Record

/-! # The store of statuses

The latest record of every resource, in the order of keys and with each key once. `get?` is the
view: two stores with the same records under the same keys are equal, and every operation is said
by what it does to `get?`.
-/

namespace FleetWatch

abbrev StoreEntry := ResourceKey × StatusRecord

/-- The latest records, one for a key, in the order of keys. -/
structure Store where
  entries : List StoreEntry
  sorted : entries.Pairwise fun a b => a.1 < b.1

namespace Store

def empty : Store := ⟨[], .nil⟩

def size (s : Store) : Nat := s.entries.length

def get? (s : Store) (key : ResourceKey) : Option StatusRecord := s.entries.lookup key

/-- A record put into a list in the order of keys, in place of one with the same key. -/
def insertEntry (key : ResourceKey) (record : StatusRecord) : List StoreEntry → List StoreEntry
  | [] => [(key, record)]
  | entry :: rest =>
      if key < entry.1 then (key, record) :: entry :: rest
      else if key = entry.1 then (key, record) :: rest
      else entry :: insertEntry key record rest

theorem mem_insertEntry {key : ResourceKey} {record : StatusRecord} {entries : List StoreEntry}
    {e : StoreEntry} (h : e ∈ insertEntry key record entries) :
    e = (key, record) ∨ e ∈ entries := by
  induction entries with
  | nil => simpa [insertEntry] using h
  | cons entry rest ih =>
      unfold insertEntry at h
      split at h
      · simpa using h
      · split at h
        · rcases List.mem_cons.1 h with h | h
          · exact .inl h
          · exact .inr (List.mem_cons_of_mem _ h)
        · rcases List.mem_cons.1 h with h | h
          · exact .inr (h ▸ List.mem_cons_self)
          · exact (ih h).imp id (List.mem_cons_of_mem _)

theorem pairwise_insertEntry (key : ResourceKey) (record : StatusRecord)
    {entries : List StoreEntry} (h : entries.Pairwise fun a b => a.1 < b.1) :
    (insertEntry key record entries).Pairwise fun a b => a.1 < b.1 := by
  induction entries with
  | nil => simp [insertEntry]
  | cons entry rest ih =>
      obtain ⟨hfirst, hrest⟩ := List.pairwise_cons.1 h
      unfold insertEntry
      split
      next hlt =>
        refine List.pairwise_cons.2 ⟨fun e he => ?_, h⟩
        rcases List.mem_cons.1 he with he | he
        · exact he ▸ hlt
        · exact ResourceKey.lt_trans hlt (hfirst e he)
      next hlt =>
        split
        next heq => exact List.pairwise_cons.2 ⟨fun e he => heq ▸ hfirst e he, hrest⟩
        next hne =>
          refine List.pairwise_cons.2 ⟨fun e he => ?_, ih hrest⟩
          rcases mem_insertEntry he with he | he
          · exact he ▸ ResourceKey.lt_of_not_lt_of_ne hlt hne
          · exact hfirst e he

theorem lookup_entry_cons (k : ResourceKey) (r : StatusRecord) (rest : List StoreEntry)
    (key : ResourceKey) :
    List.lookup key ((k, r) :: rest) = if key = k then some r else rest.lookup key := by
  rw [List.lookup_cons]
  by_cases h : key = k
  · simp [h]
  · have hb : (key == k) = false := beq_eq_false_iff_ne.2 h
    simp [h, hb]

theorem lookup_insertEntry (key : ResourceKey) (record : StatusRecord)
    (entries : List StoreEntry) (other : ResourceKey) :
    (insertEntry key record entries).lookup other =
      if other = key then some record else entries.lookup other := by
  induction entries with
  | nil => simp [insertEntry, lookup_entry_cons]
  | cons entry rest ih =>
      obtain ⟨k, r⟩ := entry
      unfold insertEntry
      split
      · rw [lookup_entry_cons]
      · split
        next heq =>
          simp only at heq
          subst heq
          simp only [lookup_entry_cons]
          by_cases h : other = key <;> simp [h]
        next hne =>
          simp only [lookup_entry_cons, ih]
          by_cases h : other = k
          · subst h
            have : ¬ other = key := fun e => hne e.symm
            simp [this]
          · simp [h]

/-- The store with a record under a key, in place of an older one. -/
def insert (s : Store) (key : ResourceKey) (record : StatusRecord) : Store :=
  ⟨insertEntry key record s.entries, pairwise_insertEntry key record s.sorted⟩

/-- The records of the parts or placements of a resource, in the order of keys. -/
def children (s : Store) (parent : ResourceKey) : List StoreEntry :=
  s.entries.filter fun e => e.1.isChildOf parent

/-- The store without the parts or placements of a resource that are not to be kept. -/
def retainChildren (s : Store) (parent : ResourceKey) (keep : List ResourceKey) : Store :=
  ⟨s.entries.filter fun e => !e.1.isChildOf parent || keep.contains e.1, s.sorted.filter _⟩

/-- The store of a list of records, in which a later one takes the place of an earlier one with
the same key. -/
def ofList (entries : List StoreEntry) : Store :=
  entries.foldl (fun s e => s.insert e.1 e.2) empty

/-! ## The view -/

theorem lookup_eq_some_iff {entries : List StoreEntry}
    (h : entries.Pairwise fun a b => a.1 < b.1) {key : ResourceKey} {record : StatusRecord} :
    entries.lookup key = some record ↔ (key, record) ∈ entries := by
  induction entries with
  | nil => simp
  | cons entry rest ih =>
      obtain ⟨hfirst, hrest⟩ := List.pairwise_cons.1 h
      obtain ⟨k, r⟩ := entry
      by_cases hk : key = k
      · subst hk
        have hnone : (key, record) ∉ rest := fun hmem =>
          ResourceKey.lt_irrefl key (hfirst _ hmem)
        simp [hnone, eq_comm]
      · simp [lookup_entry_cons, hk, ih hrest]

/-- A record is under a key exactly if the two are an entry. -/
theorem get?_eq_some_iff {s : Store} {key : ResourceKey} {record : StatusRecord} :
    s.get? key = some record ↔ (key, record) ∈ s.entries :=
  lookup_eq_some_iff s.sorted

theorem get?_empty (key : ResourceKey) : empty.get? key = none := rfl

theorem get?_insert (s : Store) (key : ResourceKey) (record : StatusRecord)
    (other : ResourceKey) :
    (s.insert key record).get? other = if other = key then some record else s.get? other :=
  lookup_insertEntry key record s.entries other

theorem get?_insert_self (s : Store) (key : ResourceKey) (record : StatusRecord) :
    (s.insert key record).get? key = some record := by simp [get?_insert]

theorem get?_insert_of_ne (s : Store) {key other : ResourceKey} (record : StatusRecord)
    (h : other ≠ key) : (s.insert key record).get? other = s.get? other := by
  simp [get?_insert, h]

theorem get?_retainChildren (s : Store) (parent : ResourceKey) (keep : List ResourceKey)
    (key : ResourceKey) :
    (s.retainChildren parent keep).get? key =
      if key.isChildOf parent && !keep.contains key then none else s.get? key := by
  apply Option.ext
  intro record
  rw [get?_eq_some_iff]
  have hkeep : (!key.isChildOf parent || keep.contains key) =
      !(key.isChildOf parent && !keep.contains key) := by
    cases key.isChildOf parent <;> cases keep.contains key <;> rfl
  simp only [retainChildren, List.mem_filter, hkeep]
  cases key.isChildOf parent && !keep.contains key <;> simp [get?_eq_some_iff]

theorem mem_children_iff {s : Store} {parent key : ResourceKey} {record : StatusRecord} :
    (key, record) ∈ s.children parent ↔
      s.get? key = some record ∧ key.isChildOf parent = true := by
  simp [children, List.mem_filter, get?_eq_some_iff]

theorem pairwise_children (s : Store) (parent : ResourceKey) :
    (s.children parent).Pairwise fun a b => a.1 < b.1 := s.sorted.filter _

end Store

end FleetWatch
