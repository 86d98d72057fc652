import FleetWatch.Fleet.Collect
import Mathlib.Data.List.Sort

/-! # The keys of one resource

A key belongs to the resource that its kind and id name. The resource's own key and the keys of its
parts or placements make up its family. The lists of children that a store gives are determined by
the view `get?`, and so are all statuses that are computed from them.
-/

namespace FleetWatch

namespace ResourceKey

/-- The key of the resource that a key belongs to. -/
def owner (k : ResourceKey) : ResourceKey := { kind := k.kind, id := k.id }

@[simp] theorem owner_application (id : String) : (application id).owner = application id := rfl

@[simp] theorem owner_service (id : String) : (service id).owner = service id := rfl

@[simp] theorem owner_placement (id server : String) :
    (placement id server).owner = application id := rfl

@[simp] theorem owner_part (id sub : String) : (part id sub).owner = service id := rfl

@[simp] theorem isTopLevel_application (id : String) : (application id).isTopLevel = true := rfl

@[simp] theorem isTopLevel_service (id : String) : (service id).isTopLevel = true := rfl

@[simp] theorem isTopLevel_placement (id server : String) :
    (placement id server).isTopLevel = false := rfl

@[simp] theorem isTopLevel_part (id sub : String) : (part id sub).isTopLevel = false := rfl

@[simp] theorem application_inj {a b : String} : application a = application b ↔ a = b := by
  simp [application]

@[simp] theorem service_inj {a b : String} : service a = service b ↔ a = b := by
  simp [service]

@[simp] theorem part_inj {a b sub sub' : String} :
    part a sub = part b sub' ↔ a = b ∧ sub = sub' := by
  simp [part]

@[simp] theorem placement_inj {a b server server' : String} :
    placement a server = placement b server' ↔ a = b ∧ server = server' := by
  simp [placement]

@[simp] theorem application_ne_service (a b : String) : application a ≠ service b := by
  simp [application, service]

@[simp] theorem service_ne_application (a b : String) : service a ≠ application b := by
  simp [application, service]

theorem isTopLevel_iff {k : ResourceKey} : k.isTopLevel = true ↔ k.owner = k := by
  obtain ⟨kind, id, sub, server⟩ := k
  cases sub <;> cases server <;> simp [isTopLevel, owner]

/-- A child is in the family of its parent and is not a resource itself. -/
theorem isChildOf_iff {k parent : ResourceKey} :
    k.isChildOf parent = true ↔ k.isTopLevel = false ∧ k.owner = parent.owner := by
  simp [isChildOf, owner, and_assoc]

/-- The family of a resource is its own key and those of its children. -/
theorem owner_eq_iff {k key : ResourceKey} (hkey : key.isTopLevel = true) :
    k.owner = key ↔ k = key ∨ k.isChildOf key = true := by
  have howner := isTopLevel_iff.mp hkey
  rw [isChildOf_iff, howner]
  cases htop : k.isTopLevel with
  | true => simp [isTopLevel_iff.mp htop]
  | false =>
      have hne : k ≠ key := by
        rintro rfl
        simp [hkey] at htop
      simp [hne]

theorem ne_of_isChildOf {k parent key : ResourceKey} (hk : k.isChildOf parent = true)
    (hkey : key.isTopLevel = true) : k ≠ key := by
  rintro rfl
  simp [(isChildOf_iff.mp hk).1] at hkey

theorem placement_isChildOf (id server : String) :
    (placement id server).isChildOf (application id) = true := by
  simp [isChildOf_iff]

theorem part_isChildOf (id sub : String) : (part id sub).isChildOf (service id) = true := by
  simp [isChildOf_iff]

end ResourceKey

namespace Store

theorem nodup_entries (s : Store) : s.entries.Nodup :=
  s.sorted.imp fun hlt heq => ResourceKey.ne_of_lt hlt (congrArg Prod.fst heq)

/-- Lists in the order of keys are equal once they have the same members. -/
theorem eq_of_mem_iff_of_lt {β : Type} {l l' : List (ResourceKey × β)}
    (hl : l.Pairwise fun a b => a.1 < b.1) (hl' : l'.Pairwise fun a b => a.1 < b.1)
    (hmem : ∀ p, p ∈ l ↔ p ∈ l') : l = l' := by
  have hanti : Std.Antisymm fun a b : ResourceKey × β => a.1 < b.1 :=
    ⟨fun _ _ hab hba => absurd (ResourceKey.lt_trans hab hba) (ResourceKey.lt_irrefl _)⟩
  have hirrefl : Std.Irrefl fun a b : ResourceKey × β => a.1 < b.1 :=
    ⟨fun _ => ResourceKey.lt_irrefl _⟩
  exact hl.eq_of_mem_iff hl' hmem

/-- Stores with the same record under every key are equal. -/
theorem eq_of_get? {s t : Store} (h : ∀ key, s.get? key = t.get? key) : s = t := by
  have hentries : s.entries = t.entries := by
    apply eq_of_mem_iff_of_lt s.sorted t.sorted
    rintro ⟨key, r⟩
    rw [← get?_eq_some_iff, ← get?_eq_some_iff, h]
  cases s
  cases t
  cases hentries
  rfl

/-- Two stores that hold matching records under the children of a resource list matching children,
in the same order. -/
theorem children_map_congr {β : Type} (g : StatusRecord → β) {s t : Store} {parent : ResourceKey}
    (h : ∀ k, k.isChildOf parent = true → (s.get? k).map g = (t.get? k).map g) :
    (s.children parent).map (fun e => (e.1, g e.2)) =
      (t.children parent).map (fun e => (e.1, g e.2)) := by
  have hsorted : ∀ u : Store, ((u.children parent).map fun e => (e.1, g e.2)).Pairwise
      fun a b => a.1 < b.1 := fun u => List.pairwise_map.mpr (u.pairwise_children parent)
  have hmem : ∀ (u : Store) (p : ResourceKey × β),
      p ∈ (u.children parent).map (fun e => (e.1, g e.2)) ↔
        (u.get? p.1).map g = some p.2 ∧ p.1.isChildOf parent = true := by
    rintro u ⟨k, b⟩
    simp only [List.mem_map, Prod.exists, Prod.mk.injEq, Option.map_eq_some_iff]
    constructor
    · rintro ⟨k', r, hr, rfl, rfl⟩
      obtain ⟨hget, hchild⟩ := mem_children_iff.mp hr
      exact ⟨⟨r, hget, rfl⟩, hchild⟩
    · rintro ⟨⟨r, hget, rfl⟩, hchild⟩
      exact ⟨k, r, mem_children_iff.mpr ⟨hget, hchild⟩, rfl, rfl⟩
  apply eq_of_mem_iff_of_lt (hsorted s) (hsorted t)
  intro p
  rw [hmem, hmem]
  exact and_congr_left fun hchild => by rw [h _ hchild]

/-- Two stores with the same records under the children of a resource list the same children. -/
theorem children_congr {s t : Store} {parent : ResourceKey}
    (h : ∀ k, k.isChildOf parent = true → s.get? k = t.get? k) :
    s.children parent = t.children parent := by
  have hmap := children_map_congr id fun k hk => congrArg (Option.map id) (h k hk)
  simpa using hmap

theorem children_congr_of_family {s t : Store} {parent : ResourceKey}
    (hparent : parent.isTopLevel = true)
    (h : ∀ k, k.owner = parent → s.get? k = t.get? k) : s.children parent = t.children parent :=
  children_congr fun k hk => h k ((ResourceKey.owner_eq_iff hparent).mpr (.inr hk))

end Store

namespace Fleet

theorem isDeploying_congr {f g : Fleet} (h : g.deploying = f.deploying) (key : ResourceKey) :
    g.isDeploying key = f.isDeploying key := by
  rw [isDeploying, isDeploying, h]

/-! ## Recording -/

/-- A mark decides about the flag of its resource and about no other. -/
theorem isDeploying_setDeploying (f : Fleet) (now : Nat) (key : ResourceKey) (on : Bool)
    (k : ResourceKey) :
    (f.setDeploying now key on).isDeploying k = if k = key then on else f.isDeploying k := by
  cases on with
  | true =>
      change (if f.isDeploying key then f.deploying else key :: f.deploying).contains k = _
      split
      next hdep =>
        split
        next heq => rw [heq, ← hdep, isDeploying]
        next => rfl
      next =>
        rw [List.contains_cons]
        by_cases heq : k = key <;> simp [heq, isDeploying]
  | false =>
      change (f.deploying.filter (· ≠ key)).contains k = _
      rw [Bool.eq_iff_iff, List.contains_iff_mem, List.mem_filter]
      by_cases heq : k = key <;> simp [heq, isDeploying]

theorem get?_setDeploying_of_ne (f : Fleet) (now : Nat) {key k : ResourceKey} (on : Bool)
    (hk : k ≠ key) : (f.setDeploying now key on).store.get? k = f.store.get? k := by
  cases on with
  | true => exact Store.get?_insert_of_ne _ _ hk
  | false => rfl

@[simp] theorem store_record (f : Fleet) (key : ResourceKey) (r : StatusRecord) :
    (f.record key r).store = f.store.insert key r := rfl

@[simp] theorem store_measure (f : Fleet) (m : Measurement) : (f.measure m).store = f.store := rfl

/-- A batch leaves alone what it does not name. -/
theorem get?_recordAll_of_not_mem (f : Fleet) {batch : List StoreEntry} {key : ResourceKey}
    (h : ∀ e ∈ batch, e.1 ≠ key) : (f.recordAll batch).store.get? key = f.store.get? key := by
  induction batch generalizing f with
  | nil => rfl
  | cons e rest ih =>
      have hrest := ih (f.record e.1 e.2) fun e' he' => h e' (List.mem_cons_of_mem _ he')
      rw [store_record, Store.get?_insert_of_ne _ _ (Ne.symm (h e List.mem_cons_self))] at hrest
      exact hrest

/-- A batch that names a key with one record only leaves that record. -/
theorem get?_recordAll_of_mem (f : Fleet) {batch : List StoreEntry} {key : ResourceKey}
    {r : StatusRecord} (hmem : (key, r) ∈ batch) (hsame : ∀ e ∈ batch, e.1 = key → e.2 = r) :
    (f.recordAll batch).store.get? key = some r := by
  induction batch generalizing f with
  | nil => simp at hmem
  | cons e rest ih =>
      have hsame' : ∀ e' ∈ rest, e'.1 = key → e'.2 = r := fun e' he' =>
        hsame e' (List.mem_cons_of_mem _ he')
      change ((f.record e.1 e.2).recordAll rest).store.get? key = some r
      -- The last entry that names the key decides.
      by_cases hrest : (key, r) ∈ rest
      · exact ih _ hrest hsame'
      · obtain rfl : (key, r) = e := (List.mem_cons.mp hmem).resolve_right hrest
        rw [get?_recordAll_of_not_mem]
        · exact Store.get?_insert_self f.store key r
        · rintro ⟨k, r'⟩ he rfl
          obtain rfl : r' = r := hsame' _ he rfl
          exact hrest he

/-- After a batch in which a key determines its record, a key has the record that the batch gives
it, or the one from before if the batch does not name it. -/
theorem get?_recordAll_eq_some_iff (f : Fleet) {batch : List StoreEntry}
    (hbatch : ∀ e ∈ batch, ∀ e' ∈ batch, e.1 = e'.1 → e.2 = e'.2) {key : ResourceKey}
    {r : StatusRecord} :
    (f.recordAll batch).store.get? key = some r ↔
      (key, r) ∈ batch ∨ (∀ e ∈ batch, e.1 ≠ key) ∧ f.store.get? key = some r := by
  by_cases hnamed : ∃ e ∈ batch, e.1 = key
  · obtain ⟨e, he, rfl⟩ := hnamed
    rw [get?_recordAll_of_mem f he fun e' he' heq => hbatch e' he' e he heq, Option.some.injEq]
    constructor
    · rintro rfl
      exact .inl he
    · rintro (hr | ⟨hnot, -⟩)
      · exact hbatch e he _ hr rfl
      · exact absurd rfl (hnot e he)
  · have hnot : ∀ e ∈ batch, e.1 ≠ key := fun e he heq => hnamed ⟨e, he, heq⟩
    rw [get?_recordAll_of_not_mem f hnot]
    constructor
    · exact fun hr => .inr ⟨hnot, hr⟩
    · rintro (hr | ⟨-, hr⟩)
      · exact absurd rfl (hnot _ hr)
      · exact hr

theorem get?_replaceChildren (f : Fleet) (parent : ResourceKey) (batch : List StoreEntry)
    (keep : List ResourceKey) (key : ResourceKey) :
    (f.replaceChildren parent batch keep).store.get? key =
      if key.isChildOf parent && !keep.contains key then none
      else (f.recordAll batch).store.get? key :=
  Store.get?_retainChildren _ _ _ _

/-- The children that are left are among those to be kept; they come from the batch or were there
before. -/
theorem get?_replaceChildren_eq_some_iff (f : Fleet) {parent : ResourceKey}
    {batch : List StoreEntry} (keep : List ResourceKey)
    (hbatch : ∀ e ∈ batch, ∀ e' ∈ batch, e.1 = e'.1 → e.2 = e'.2) {key : ResourceKey}
    (hkey : key.isChildOf parent = true) {r : StatusRecord} :
    (f.replaceChildren parent batch keep).store.get? key = some r ↔
      key ∈ keep ∧
        ((key, r) ∈ batch ∨ (∀ e ∈ batch, e.1 ≠ key) ∧ f.store.get? key = some r) := by
  rw [get?_replaceChildren, ← get?_recordAll_eq_some_iff f hbatch]
  by_cases hkeep : key ∈ keep
  · simp [hkeep]
  · simp [hkeep, hkey]

end Fleet

end FleetWatch
