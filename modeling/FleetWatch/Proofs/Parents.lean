import FleetWatch.Api
import FleetWatch.Proofs.Segments
import FleetWatch.Proofs.WellFormed

/-! # Every record is shown once

The record of a part or a placement is only ever stored beside that of its resource. So the answers
to the requests for single resources divide the store among them: each shows the record of one
resource with those of its parts or placements, and what is stored is in exactly one of them.
-/

namespace FleetWatch

namespace Store

variable {s t : Store} {key : ResourceKey}

/-- What an answer about a resource shows: its record and those of its parts or placements, or
nothing if the resource itself is not stored. -/
def family (s : Store) (key : ResourceKey) : List StoreEntry :=
  match s.get? key with
  | some r => (key, r) :: s.children key
  | none => []

theorem mem_family_iff (hkey : key.isTopLevel = true) {e : StoreEntry} :
    e ∈ s.family key ↔ (s.get? key).isSome ∧ e ∈ s.entries ∧ e.1.owner = key := by
  unfold family
  split
  case h_1 r hr =>
    rw [hr, List.mem_cons, mem_children_iff, get?_eq_some_iff, ResourceKey.owner_eq_iff hkey]
    constructor
    · rintro (rfl | ⟨hmem, hchild⟩)
      · exact ⟨rfl, get?_eq_some_iff.mp hr, .inl rfl⟩
      · exact ⟨rfl, hmem, .inr hchild⟩
    · rintro ⟨-, hmem, rfl | hchild⟩
      · have hsame : r = e.2 := Option.some.inj (hr.symm.trans (get?_eq_some_iff.mpr hmem))
        exact .inl (Prod.ext rfl hsame.symm)
      · exact .inr ⟨hmem, hchild⟩
  case h_2 hnone => simp [hnone]

theorem nodup_family (hkey : key.isTopLevel = true) : (s.family key).Nodup := by
  unfold family
  split
  case h_1 r hr =>
    refine List.nodup_cons.mpr ⟨fun hmem => ?_, s.nodup_entries.filter _⟩
    exact ResourceKey.ne_of_isChildOf (mem_children_iff.mp hmem).2 hkey rfl
  case h_2 => exact List.nodup_nil

/-- Whatever is stored is stored beside the record of the resource it belongs to. -/
def Rooted (s : Store) : Prop := ∀ k, (s.get? k).isSome → (s.get? k.owner).isSome

theorem rooted_empty : empty.Rooted := fun _ hk => nomatch hk

/-- What changes the family of one resource only has to store that resource beside its children. -/
theorem Rooted.of_frame (hs : s.Rooted) (hkey : key.isTopLevel = true)
    (hframe : ∀ k, k.owner ≠ key → t.get? k = s.get? k)
    (hown : ∀ k, k.isChildOf key = true → (t.get? k).isSome → (t.get? key).isSome) :
    t.Rooted := by
  intro k hk
  by_cases howner : k.owner = key
  · rw [howner]
    obtain rfl | hchild := (ResourceKey.owner_eq_iff hkey).mp howner
    · exact hk
    · exact hown k hchild hk
  · rw [hframe k howner] at hk
    rw [hframe k.owner howner]
    exact hs k hk

theorem Rooted.insert (hs : s.Rooted) (hkey : key.isTopLevel = true) (r : StatusRecord) :
    (s.insert key r).Rooted := by
  apply hs.of_frame hkey
  · rintro k howner
    apply get?_insert_of_ne
    rintro rfl
    exact howner (ResourceKey.isTopLevel_iff.mp hkey)
  · intro k _ _
    rw [get?_insert_self]
    rfl

/-- The families of all resources, in any order, are the whole store. -/
theorem Rooted.flatMap_family_perm (hs : s.Rooted) {keys : List ResourceKey}
    (hkeys : ∀ key ∈ keys, key.isTopLevel = true) (hnodup : keys.Nodup)
    (hall : ∀ key, key.isTopLevel = true → (s.get? key).isSome → key ∈ keys) :
    (keys.flatMap s.family).Perm s.entries := by
  have hflat : (keys.flatMap s.family).Nodup := by
    rw [List.nodup_flatMap]
    refine ⟨fun key hkey => nodup_family (hkeys key hkey), ?_⟩
    refine hnodup.imp_of_mem fun {key key'} hkey hkey' hne e he he' => ?_
    -- A record that two families share belongs to both resources.
    have howner := ((mem_family_iff (hkeys key hkey)).mp he).2.2
    have howner' := ((mem_family_iff (hkeys key' hkey')).mp he').2.2
    exact hne (howner.symm.trans howner')
  rw [List.perm_ext_iff_of_nodup hflat s.nodup_entries]
  intro e
  rw [List.mem_flatMap]
  constructor
  · rintro ⟨key, hkey, he⟩
    exact ((mem_family_iff (hkeys key hkey)).mp he).2.1
  · intro he
    have hown : (s.get? e.1.owner).isSome :=
      hs e.1 (Option.isSome_of_eq_some (get?_eq_some_iff.mpr he))
    exact ⟨e.1.owner, hall _ rfl hown, (mem_family_iff rfl).mpr ⟨hown, he, rfl⟩⟩

end Store

namespace Fleet

/-! ## Writers -/

section Writers

variable (around : Surroundings) (containers : Containers) (source : StatusSource) {f : Fleet}

theorem rooted_recordApplication (hf : f.store.Rooted) (app : Application) :
    (recordApplication around containers source f app).store.Rooted := by
  cases hdep : f.isDeploying (.application app.id) with
  | true =>
      rw [recordApplication_of_deploying around containers source hdep]
      exact hf.insert rfl _
  | false =>
      rw [recordApplication_of_not_deploying around containers source hdep]
      exact hf.insert rfl _

theorem rooted_recordService (hf : f.store.Rooted) (service : Service) :
    (recordService around containers source f service).store.Rooted := by
  cases hdep : f.isDeploying (.service service.id) with
  | true =>
      rw [recordService_of_deploying around containers source hdep]
      exact hf.insert rfl _
  | false =>
      apply hf.of_frame (ResourceKey.isTopLevel_service service.id)
        (recordService_confined around containers source f service).frame
      intro k _ _
      rw [get?_recordService_self around containers source hdep]
      rfl

/-- A check that leaves placements of an application stores the application itself. -/
theorem rooted_checkApplication (seen : List (String × Snapshot)) (hf : f.store.Rooted)
    (app : Application) : (checkApplication around seen f app).store.Rooted := by
  cases hdep : f.isDeploying (.application app.id) with
  | true =>
      rw [checkApplication_of_deploying around seen hdep]
      exact hf.insert rfl _
  | false =>
      apply hf.of_frame (ResourceKey.isTopLevel_application app.id)
        (checkApplication_confined around seen f app).frame
      intro k hchild hk
      obtain ⟨r, hr⟩ := Option.isSome_iff_exists.mp hk
      obtain ⟨server, hserver, rfl, hplacement⟩ :=
        (get?_checkApplication_child_eq_some_iff around seen hdep hchild).mp hr
      have hplaced : (checkApplication around seen f app).placements app.id ≠ [] :=
        List.ne_nil_of_mem
          ((mem_placements_checkApplication around seen hdep).mpr ⟨hserver, hplacement⟩)
      rw [get?_checkApplication_self around seen hdep hplaced]
      rfl

end Writers

theorem Update.rooted {f g : Fleet} (h : Update f g) (hf : f.store.Rooted) : g.store.Rooted := by
  cases h with
  | application around containers happ hsingle hsource =>
      exact rooted_recordApplication around containers _ hf _
  | service around containers hservice hsource =>
      exact rooted_recordService around containers _ hf _
  | placements around seen happ hmulti hseen => exact rooted_checkApplication around seen hf _
  | measurement m => exact hf

/-- In every run, no part and no placement is stored without its resource. -/
theorem Reachable.rooted {f : Fleet} (hf : Reachable f) : f.store.Rooted := by
  apply hf.invariant
  · exact fun _ _ => Store.rooted_empty
  · exact fun f g hf h => h.rooted hf
  · intro f now key on hkey hf
    cases on with
    | true => exact hf.insert hkey _
    | false => exact hf
  · exact fun _ _ hf => hf

end Fleet

/-! ## Answers -/

namespace Api

/-- Two segments of a path name a resource. -/
def Names (kind id : List Char) (key : ResourceKey) : Prop :=
  ∃ word name, segments kind id = .ok (word, name) ∧ resourceKey word name = .ok key

theorem Names.isTopLevel {kind id : List Char} {key : ResourceKey} (h : Names kind id key) :
    key.isTopLevel = true := by
  obtain ⟨word, name, -, hkey⟩ := h
  unfold resourceKey at hkey
  split at hkey <;> cases hkey <;> rfl

/-- The keys that have a name are those of resources, whatever their ids are. -/
theorem isTopLevel_iff_exists_names {key : ResourceKey} :
    key.isTopLevel = true ↔ ∃ kind id, Names kind id key := by
  refine ⟨fun hkey => ?_, fun ⟨kind, id, hnames⟩ => hnames.isTopLevel⟩
  let segment (s : String) : List Char := (Text.utf8Bytes s).flatMap Http.percentByte
  refine ⟨segment key.kind.text, segment key.id, key.kind.text, key.id, ?_, ?_⟩
  · simp only [segments, segment, Http.segmentText?_percentByte]
  · rw [← ResourceKey.isTopLevel_iff.mp hkey]
    cases hkind : key.kind <;> simp only [ResourceKey.owner, hkind] <;> rfl

/-- The answer that shows a family. -/
def familyAnswer (key : ResourceKey) : List StoreEntry → Except Refusal Json
  | [] => .error (.notFound key)
  | own :: children =>
      .ok (.obj (viewMembers own.1 own.2 ++ [("children", .arr (children.map view))]))

theorem resource_of_names {kind id : List Char} {key : ResourceKey} (h : Names kind id key)
    (f : Fleet) : resource f kind id = familyAnswer key (f.store.family key) := by
  obtain ⟨word, name, hsegments, hkey⟩ := h
  simp only [resource, hsegments, bind, Except.bind, hkey, Store.family]
  cases f.store.get? key <;> rfl

end Api

namespace Fleet

/-- In every run, applications have no parts and services no placements, and every part and every
placement is stored beside its resource. So the answers to the requests for single resources, in
whatever order all of them are made, show every record exactly once, and children in the order of
keys. -/
theorem every_record_shown_once {f : Fleet} (hf : Reachable f) :
    (∀ k, (f.store.get? k).isSome →
      (k.kind = .application → k.subResource = none) ∧ (k.kind = .service → k.server = none) ∧
        (k.subResource = none ∨ k.server = none) ∧ (f.store.get? k.owner).isSome) ∧
    (∀ key, (key.isTopLevel = true ↔ ∃ kind id, Api.Names kind id key) ∧
      ∀ kind id, Api.Names kind id key →
        Api.resource f kind id = Api.familyAnswer key (f.store.family key)) ∧
    (∀ keys : List ResourceKey, keys.Nodup → (∀ key ∈ keys, key.isTopLevel = true) →
      (∀ key, key.isTopLevel = true → (f.store.get? key).isSome → key ∈ keys) →
      (keys.flatMap f.store.family).Perm f.store.entries) ∧
    ∀ key, (f.store.children key).Pairwise fun a b => a.1 < b.1 := by
  refine ⟨fun k hk => ?_, fun key => ?_, fun keys hnodup hkeys hall => ?_, ?_⟩
  · obtain ⟨r, hr⟩ := Option.isSome_iff_exists.mp hk
    have hregular := (hf.recordable k r hr).isRegular
    refine ⟨hregular.application, hregular.service, ?_, hf.rooted k hk⟩
    cases hkind : k.kind with
    | application => exact .inl (hregular.application hkind)
    | service => exact .inr (hregular.service hkind)
  · exact ⟨Api.isTopLevel_iff_exists_names, fun kind id hnames => Api.resource_of_names hnames f⟩
  · exact hf.rooted.flatMap_family_perm hkeys hnodup hall
  · exact f.store.pairwise_children

/-- After a check and a poll, five records of the shop are stored. The answers about its service,
its application and an application that does not exist show all of them. -/
theorem every_record_shown_once_shop :
    let f := (shopChecked.poll noFiles shopInspector).1
    let keys : List ResourceKey := [.service "mail", .application "cart", .application "shop"]
    Reachable f ∧ f.store.size = 5 ∧
      (f.store.get? (.placement "shop" "edge-2")).isSome ∧
      (f.store.get? (.application "shop")).isSome ∧
      Api.Names "services".toList "mail".toList (.service "mail") ∧
      Api.resource f "services".toList "mail".toList =
        Api.familyAnswer (.service "mail") (f.store.family (.service "mail")) ∧
      (keys.flatMap f.store.family).Perm f.store.entries := by
  intro f keys
  have hf : Reachable f := .step shopChecked_reachable (.collect (.poll _ _ (.refl _)))
  obtain ⟨hkeys, hanswers, hshown, -⟩ := every_record_shown_once hf
  have hplaced : (f.store.get? (.placement "shop" "edge-2")).isSome := rfl
  have hnames : Api.Names "services".toList "mail".toList (.service "mail") := by
    refine ⟨"services", "mail", ?_, rfl⟩
    rw [Api.segments, Http.segmentText?_eq, Http.segmentText?_eq]
    rfl
  have hstored : ∀ e ∈ f.store.entries, e.1.isTopLevel = true → e.1 ∈ keys := by decide +kernel
  refine ⟨hf, rfl, hplaced, (hkeys _ hplaced).2.2.2, hnames,
    (hanswers _).2 _ _ hnames, hshown keys (by decide) (by decide) ?_⟩
  intro key hkey hsome
  obtain ⟨r, hr⟩ := Option.isSome_iff_exists.mp hsome
  exact hstored (key, r) (Store.get?_eq_some_iff.mp hr) hkey

end Fleet

end FleetWatch
