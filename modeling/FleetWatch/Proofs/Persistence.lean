import FleetWatch.Fleet.Persistence
import FleetWatch.Proofs.Family
import FleetWatch.Proofs.Reading
import FleetWatch.Proofs.WrittenStatus

/-! # Keeping the store

What was saved is loaded again, whatever the store holds: any ids, parts and servers, any statuses,
and counts and times that fit into 64 bits. What is written depends on the records and their keys
alone and not on how they came into the store, so that saving again writes the same.
-/

namespace FleetWatch

open Json Json.Reader

/-! ## Keys and records -/

theorem Status.reads_text (s : Status) : Reads reader (.str s.text) s := by
  intro rest hrest
  rw [reader, reads_string s.text rest hrest]
  simp only [parse?_written]

/-- A key is read from what is written of it, also where a part or a server is present and empty. -/
theorem ResourceKey.reads_json (k : ResourceKey) : Reads reader k.json k := by
  obtain ⟨kind, id, sub, server⟩ := k
  have hkind := reads_word kind.ofText?_text
  have hid := reads_string id
  cases sub with
  | none =>
      cases server with
      | none => exact reads_record (.cons rfl (hkind.map _) (.cons rfl (hid.map _) (.nil _))) rfl
      | some server =>
          have hserver := (reads_string server).optional
          exact reads_record (.cons rfl (hkind.map _) (.cons rfl (hid.map _)
            (.cons rfl (hserver.map _) (.nil _)))) rfl
  | some sub =>
      have hsub := (reads_string sub).optional
      cases server with
      | none =>
          exact reads_record (.cons rfl (hkind.map _) (.cons rfl (hid.map _)
            (.cons rfl (hsub.map _) (.nil _)))) rfl
      | some server =>
          have hserver := (reads_string server).optional
          exact reads_record (.cons rfl (hkind.map _) (.cons rfl (hid.map _)
            (.cons rfl (hsub.map _) (.cons rfl (hserver.map _) (.nil _))))) rfl

namespace StatusRecord

/-- The count and the time of a record are numbers of 64 bits. -/
structure Fits (r : StatusRecord) : Prop where
  containerCount : r.containerCount < 2 ^ 64
  updatedAt : r.updatedAt < 2 ^ 64

theorem reads_json {r : StatusRecord} (h : r.Fits) : Reads reader r.json r := by
  have hstatus := r.status.reads_text
  have hsource := reads_word r.source.ofText?_text
  have hcount := reads_natural h.containerCount
  have htime := reads_natural h.updatedAt
  have hexcluded := reads_bool r.allExcluded
  exact reads_record (.cons rfl (hstatus.map _) (.cons rfl (hsource.map _)
    (.cons rfl (hcount.map _) (.cons rfl (htime.map _)
      (.cons rfl (hexcluded.map _) (.nil _)))))) rfl

end StatusRecord

/-! ## Stores -/

theorem Fleet.store_recordAll (f : Fleet) (batch : List StoreEntry) :
    (f.recordAll batch).store = batch.foldl (fun s e => s.insert e.1 e.2) f.store := by
  induction batch generalizing f with
  | nil => rfl
  | cons e rest ih => exact ih (f.record e.1 e.2)

theorem Fleet.storePath_recordAll (f : Fleet) (batch : List StoreEntry) :
    (f.recordAll batch).storePath = f.storePath := by
  induction batch generalizing f with
  | nil => rfl
  | cons e rest ih => exact ih (f.record e.1 e.2)

namespace Store

theorem reads_entryJson {e : StoreEntry} (h : e.2.Fits) : Reads entryReader (entryJson e) e := by
  have hkey := e.1.reads_json
  have hrecord := StatusRecord.reads_json h
  exact reads_record (.cons rfl (hkey.map _) (.cons rfl (hrecord.map _) (.nil _))) rfl

theorem entries_inj_of_key {s : Store} {e e' : StoreEntry} (he : e ∈ s.entries)
    (he' : e' ∈ s.entries) (hkey : e.1 = e'.1) : e.2 = e'.2 := by
  obtain ⟨key, r⟩ := e
  obtain ⟨_, r'⟩ := e'
  cases hkey
  exact Option.some.inj ((get?_eq_some_iff.mpr he).symm.trans (get?_eq_some_iff.mpr he'))

/-- The entries of a store, put in one by one and in any order, make it up again. -/
theorem foldl_insert_of_perm {s : Store} {batch : List StoreEntry} (h : batch.Perm s.entries) :
    batch.foldl (fun s e => s.insert e.1 e.2) empty = s := by
  have hkeys : ∀ e ∈ batch, ∀ e' ∈ batch, e.1 = e'.1 → e.2 = e'.2 := fun e he e' he' =>
    entries_inj_of_key (h.mem_iff.mp he) (h.mem_iff.mp he')
  apply eq_of_get?
  intro key
  apply Option.ext
  intro r
  rw [← Fleet.store_recordAll { store := .empty }, Fleet.get?_recordAll_eq_some_iff _ hkeys,
    get?_empty, get?_eq_some_iff, h.mem_iff]
  simp

theorem parse_text {s : Store} (h : ∀ key r, s.get? key = some r → r.Fits) :
    parse s.text = .ok s := by
  have hitems : List.Forall₂ (Reads entryReader) (s.entries.map entryJson) s.entries := by
    rw [List.forall₂_map_left_iff, List.forall₂_same]
    exact fun e he => reads_entryJson (h e.1 e.2 (get?_eq_some_iff.mpr he))
  rw [parse, text, json, (reads_array hitems).run_compact]
  exact congrArg Except.ok (foldl_insert_of_perm (List.Perm.refl _))

end Store

/-! ## Files -/

namespace Fleet

theorem saved?_eq_text {f : Fleet} (h : f.storePath.isSome = true) :
    f.saved? = some f.store.text := by
  obtain ⟨path, hpath⟩ := Option.isSome_iff_exists.mp h
  rw [saved?, hpath]
  rfl

/-- The file that keeps a store is read back as this store, and saving it again writes the same
file. Its text is that of any store with these records under these keys, in whatever order they
were recorded. -/
theorem load_saved (f : Fleet) (hpath : f.storePath.isSome = true)
    (hfits : ∀ key r, f.store.get? key = some r → r.Fits) :
    ∃ text, f.saved? = some text ∧
      (∀ (g : Fleet) (path : String), ∃ h, g.load path (some text) = .ok h ∧
        (∀ key, h.store.get? key = f.store.get? key) ∧ h.saved? = some text) ∧
      (∀ g : Fleet, g.storePath.isSome = true →
        (∀ key, g.store.get? key = f.store.get? key) → g.saved? = some text) ∧
      (∀ (g : Fleet) (batch : List StoreEntry), g.storePath.isSome = true → g.store = .empty →
        batch.Perm f.store.entries → (g.recordAll batch).saved? = some text) := by
  refine ⟨f.store.text, saved?_eq_text hpath, ?_, ?_, ?_⟩
  · intro g path
    have hload : g.load path (some f.store.text) =
        .ok (({ g with store := f.store, storePath := some path } : Fleet).measure
          (.tracked f.store.size)) := by
      rw [load, Store.parse_text hfits]
      rfl
    exact ⟨_, hload, fun key => rfl, rfl⟩
  · intro g hg hget
    rw [saved?_eq_text hg, Store.eq_of_get? hget]
  · intro g batch hg hempty hperm
    have hstore : (g.recordAll batch).store = f.store := by
      rw [store_recordAll, hempty, Store.foldl_insert_of_perm hperm]
    rw [saved?_eq_text (by rwa [storePath_recordAll]), hstore]

/-- Two records whose keys have nothing in common but their id: quotes, an escape, a control
character and one beyond the first plane. The first has a part and a server, both empty; its
numbers are the greatest of 64 bits. -/
def oddlyKept : Fleet :=
  let id := "\"shop\"\\\n\u0001😀"
  { storePath := some "statuses.json"
    store := ⟨[(⟨.application, id, some "", some ""⟩,
        ⟨.unknownExcluded, .deployment, 2 ^ 64 - 1, 2 ^ 64 - 1, true⟩),
      (⟨.service, id, none, none⟩, ⟨.exited, .ssh, 0, 0, false⟩)], by decide +kernel⟩ }

theorem load_saved_oddlyKept :
    oddlyKept.storePath.isSome = true ∧
      (∀ key r, oddlyKept.store.get? key = some r → r.Fits) ∧
      ∃ text, oddlyKept.saved? = some text ∧
        ∃ h, ({} : Fleet).load "other.json" (some text) = .ok h ∧
          (∀ key, h.store.get? key = oddlyKept.store.get? key) ∧ h.saved? = some text := by
  have hfits : ∀ key r, oddlyKept.store.get? key = some r → r.Fits := by
    intro key r hget
    rcases List.mem_cons.mp (Store.get?_eq_some_iff.mp hget) with heq | hmem
    · cases heq
      exact ⟨by decide, by decide⟩
    · cases List.mem_singleton.mp hmem
      exact ⟨by decide, by decide⟩
  obtain ⟨text, hsaved, hload, -⟩ := load_saved oddlyKept rfl hfits
  exact ⟨rfl, hfits, text, hsaved, hload {} "other.json"⟩

end Fleet

end FleetWatch
