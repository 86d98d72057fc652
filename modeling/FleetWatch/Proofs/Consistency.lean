import FleetWatch.Proofs.WellFormed

/-! # Resources and their children

In every run, the record of an application from a check is the rollup of its stored placements, and
the record of a service counts its stored parts. Whatever is recorded is consistent at once, whether
or not it was before; everything else keeps its family, so one step cannot break what an earlier one
has made up.
-/

namespace FleetWatch.Fleet

/-- The record of a resource agrees with the children that are stored beside it. -/
structure ConsistentAt (f : Fleet) (key : ResourceKey) : Prop where
  application : ∀ id r, key = .application id → f.store.get? key = some r →
    r.source = .complex → f.placements id ≠ [] →
      r.status =
          .rollup ((f.placements id).map fun (server, p) => (server, p.status))
            (((f.placements id).filter fun (_, p) => p.allExcluded).map Prod.fst) ∧
        r.containerCount = total ((f.placements id).map fun (_, p) => p.containerCount)
  service : ∀ id r, key = .service id → f.store.get? key = some r → r.source ≠ .deployment →
    r.containerCount = (f.store.children key).length ∧
      ∀ e ∈ f.store.children key, e.1.subResource.isSome ∧ e.2.source = r.source

/-! ## What keeps a family keeps its consistency -/

theorem placements_congr {f g : Fleet} {id : String}
    (h : ∀ k, k.owner = .application id → g.store.get? k = f.store.get? k) :
    g.placements id = f.placements id := by
  have hchildren : g.store.children (.application id) = f.store.children (.application id) :=
    Store.children_congr fun k hk => h k (ResourceKey.isChildOf_iff.mp hk).2
  rw [placements, placements, hchildren]

theorem ConsistentAt.congr {f g : Fleet} {key : ResourceKey} (hf : ConsistentAt f key)
    (h : ∀ k, k.owner = key → g.store.get? k = f.store.get? k) : ConsistentAt g key where
  application := by
    rintro id r rfl hr
    rw [placements_congr h]
    exact hf.application id r rfl ((h _ rfl).symm.trans hr)
  service := by
    rintro id r rfl hr
    have hchildren : g.store.children (.service id) = f.store.children (.service id) :=
      Store.children_congr fun k hk => h k (ResourceKey.isChildOf_iff.mp hk).2
    rw [hchildren]
    exact hf.service id r rfl ((h _ rfl).symm.trans hr)

/-- The override says nothing of the children. -/
theorem ConsistentAt.of_deployment {f : Fleet} {key : ResourceKey}
    (h : ∀ r, f.store.get? key = some r → r.source = .deployment) : ConsistentAt f key where
  application := by
    intro id r _ hr hsource
    rw [h r hr] at hsource
    cases hsource
  service := fun id r _ hr hsource => absurd (h r hr) hsource

theorem ConsistentAt.record_deploying (f : Fleet) (key : ResourceKey) (count now : Nat) :
    ConsistentAt (f.record key (.deploying count now)) key := by
  apply ConsistentAt.of_deployment
  intro r hr
  rw [store_record, Store.get?_insert_self] at hr
  obtain rfl := Option.some.inj hr
  rfl

/-! ## What is recorded is consistent -/

/-- On one server, an application does not come from a check. -/
theorem consistent_recordApplication (around : Surroundings) (containers : Containers)
    {source : StatusSource} (hsource : source = .ssh ∨ source = .agent) (f : Fleet)
    (app : Application) :
    ConsistentAt (recordApplication around containers source f app) (.application app.id) := by
  cases hdep : f.isDeploying (.application app.id) with
  | true =>
      rw [recordApplication_of_deploying around containers source hdep]
      exact .record_deploying f _ _ _
  | false =>
      rw [recordApplication_of_not_deploying around containers source hdep]
      refine ⟨fun id r _ hr hcomplex => ?_, fun id r hkey => ?_⟩
      · rw [store_record, Store.get?_insert_self] at hr
        obtain rfl := Option.some.inj hr
        rcases hsource with rfl | rfl <;> cases hcomplex
      · exact absurd hkey (ResourceKey.application_ne_service _ _)

/-- A service counts the parts that are stored with it, from the same source. -/
theorem consistent_recordService (around : Surroundings) (containers : Containers)
    (source : StatusSource) (f : Fleet) (service : Service) :
    ConsistentAt (recordService around containers source f service) (.service service.id) := by
  cases hdep : f.isDeploying (.service service.id) with
  | true =>
      rw [recordService_of_deploying around containers source hdep]
      exact .record_deploying f _ _ _
  | false =>
      refine ⟨fun id r hkey => absurd hkey (ResourceKey.service_ne_application _ _), ?_⟩
      intro id r _ hr _
      rw [get?_recordService_self around containers source hdep] at hr
      obtain rfl := Option.some.inj hr
      -- All stored children are parts from this round, so none is left out of the count.
      have hchildren : ∀ e ∈ (recordService around containers source f service).store.children
          (.service service.id), e.1.subResource.isSome ∧ e.2.source = source := by
        rintro ⟨k, p⟩ he
        obtain ⟨hget, hchild⟩ := Store.mem_children_iff.mp he
        obtain ⟨sub, -, rfl, rfl⟩ :=
          (get?_recordService_child_eq_some_iff around containers source hdep hchild).mp hget
        exact ⟨rfl, rfl⟩
      refine ⟨List.filterMap_length_eq_length.mpr ?_, hchildren⟩
      intro e he
      rw [Option.isSome_map]
      exact (hchildren e he).1

/-- With nothing but placements beside it, an application counts all its children. -/
theorem map_placements_of_isSome {f : Fleet} {id : String}
    (h : ∀ e ∈ f.store.children (.application id), e.1.server.isSome) {β : Type}
    (g : StatusRecord → β) :
    (f.placements id).map (fun (_, r) => g r) =
      (f.store.children (.application id)).map fun (_, r) => g r := by
  rw [placements, List.map_filterMap, ← List.filterMap_eq_map]
  apply List.filterMap_congr
  intro e he
  obtain ⟨server, hserver⟩ := Option.isSome_iff_exists.mp (h e he)
  simp [hserver]

/-- A check leaves an application that agrees with its placements, or one without any. -/
theorem consistent_checkApplication (around : Surroundings) (seen : List (String × Snapshot))
    (f : Fleet) (app : Application) :
    ConsistentAt (checkApplication around seen f app) (.application app.id) := by
  cases hdep : f.isDeploying (.application app.id) with
  | true =>
      rw [checkApplication_of_deploying around seen hdep]
      exact .record_deploying f _ _ _
  | false =>
      refine ⟨?_, fun id r hkey => absurd hkey (ResourceKey.application_ne_service _ _)⟩
      intro id r hkey hr _ hplaced
      obtain rfl := ResourceKey.application_inj.mp hkey
      rw [get?_checkApplication_self around seen hdep hplaced] at hr
      obtain rfl := Option.some.inj hr
      have hchildren : ∀ e ∈ (checkApplication around seen f app).store.children
          (.application app.id), e.1.server.isSome := by
        rintro ⟨k, p⟩ he
        rw [children_checkApplication around seen hdep] at he
        obtain ⟨hget, hchild⟩ := Store.mem_children_iff.mp he
        obtain ⟨server, -, rfl, -⟩ :=
          (get?_withPlacements_eq_some_iff around seen f app hchild).mp hget
        rfl
      refine ⟨rfl, ?_⟩
      rw [map_placements_of_isSome hchildren StatusRecord.containerCount]

/-! ## Runs -/

/-- Every resource agrees with its children. -/
def Consistent (f : Fleet) : Prop := ∀ key, ConsistentAt f key

theorem Consistent.congr {f g : Fleet} (hf : Consistent f) (h : g.store = f.store) :
    Consistent g := by
  intro key
  apply (hf key).congr
  intro k _
  rw [h]

/-- An update leaves the resource that it records consistent and all others as they were. -/
theorem Consistent.update {f g : Fleet} (hf : Consistent f) (h : Update f g) : Consistent g := by
  have hconfined : ∀ key, Confined key f g → ConsistentAt g key → Consistent g := by
    intro key hconfined hself other
    by_cases heq : other = key
    · subst heq
      exact hself
    · apply (hf other).congr
      intro k hk
      apply hconfined.frame
      rw [hk]
      exact heq
  cases h with
  | application around containers happ hsingle hsource =>
      exact hconfined _ (recordApplication_confined around containers _ f _)
        (consistent_recordApplication around containers hsource f _)
  | service around containers hservice hsource =>
      exact hconfined _ (recordService_confined around containers _ f _)
        (consistent_recordService around containers _ f _)
  | placements around seen happ hmulti =>
      exact hconfined _ (checkApplication_confined around seen f _)
        (consistent_checkApplication around seen f _)
  | measurement m => exact hf.congr rfl

theorem Consistent.setDeploying {f : Fleet} (hf : Consistent f) (now : Nat) {key : ResourceKey}
    (hkey : key.isTopLevel = true) (on : Bool) : Consistent (f.setDeploying now key on) := by
  intro other
  cases on with
  | true =>
      by_cases heq : other = key
      · subst heq
        exact .record_deploying _ _ _ _
      · apply (hf other).congr
        intro k hk
        apply Store.get?_insert_of_ne
        rintro rfl
        rw [ResourceKey.isTopLevel_iff.mp hkey] at hk
        exact heq hk.symm
  | false => exact (hf other).congr fun _ _ => rfl

theorem Reachable.consistent {f : Fleet} (hf : Reachable f) : Consistent f :=
  hf.invariant (fun _ _ _ => .of_deployment fun _ hr => nomatch hr)
    (fun _ _ hf h => hf.update h) (fun _ now _ on hkey hf => hf.setDeploying now hkey on)
    (fun _ _ hf => hf.congr rfl)

/-- In every run, the children of an application are placements. -/
theorem Reachable.eq_placement_of_isChildOf {f : Fleet} (hf : Reachable f) {id : String}
    {k : ResourceKey} {r : StatusRecord} (hr : f.store.get? k = some r)
    (hk : k.isChildOf (.application id) = true) : ∃ server, k = .placement id server := by
  have hregular := (hf.recordable k r hr).isRegular
  obtain ⟨htop, howner⟩ := ResourceKey.isChildOf_iff.mp hk
  obtain ⟨kind, owner, sub, server⟩ := k
  obtain ⟨rfl, rfl⟩ : kind = .application ∧ owner = id := by
    simpa [ResourceKey.owner, ResourceKey.application] using howner
  obtain rfl : sub = none := hregular.application rfl
  cases server with
  | none => cases htop
  | some server => exact ⟨server, rfl⟩

/-- In every run, the placements of an application are what is stored under their keys. -/
theorem Reachable.mem_placements_iff {f : Fleet} (hf : Reachable f) {id server : String}
    {p : StatusRecord} :
    (server, p) ∈ f.placements id ↔ f.store.get? (.placement id server) = some p := by
  rw [placements, List.mem_filterMap]
  constructor
  · rintro ⟨⟨k, p'⟩, he, hplacement⟩
    obtain ⟨hget, hchild⟩ := Store.mem_children_iff.mp he
    obtain ⟨server', rfl⟩ := hf.eq_placement_of_isChildOf hget hchild
    obtain ⟨rfl, rfl⟩ := Prod.mk.inj (Option.some.inj hplacement)
    exact hget
  · intro hget
    have hchild := ResourceKey.placement_isChildOf id server
    exact ⟨(.placement id server, p), Store.mem_children_iff.mpr ⟨hget, hchild⟩, rfl⟩

/-- In every run, an application has at most one placement on a server. -/
theorem Reachable.nodup_placements {f : Fleet} (hf : Reachable f) (id : String) :
    ((f.placements id).map Prod.fst).Nodup := by
  apply List.pairwise_map.mpr
  apply List.pairwise_filterMap.mpr
  apply (f.store.pairwise_children (.application id)).imp_of_mem
  rintro ⟨k, r⟩ ⟨k', r'⟩ he he' hlt ⟨server, p⟩ hp ⟨server', p'⟩ hp' heq
  obtain ⟨hget, hchild⟩ := Store.mem_children_iff.mp he
  obtain ⟨hget', hchild'⟩ := Store.mem_children_iff.mp he'
  obtain ⟨_, rfl⟩ := hf.eq_placement_of_isChildOf hget hchild
  obtain ⟨_, rfl⟩ := hf.eq_placement_of_isChildOf hget' hchild'
  obtain ⟨rfl, rfl⟩ := Prod.mk.inj (Option.some.inj hp)
  obtain ⟨rfl, rfl⟩ := Prod.mk.inj (Option.some.inj hp')
  -- Keys on the same server would be equal, and children are in strict order.
  obtain rfl := heq
  exact ResourceKey.lt_irrefl _ hlt

/-- In every run, an application lists each stored placement once. Its record from a check is the
rollup of their statuses, without those of flagged placements, and counts the containers of all. The
record of a service that no deployment overrides counts the stored parts, which come from the same
source. -/
theorem parents_consistent {f : Fleet} (hf : Reachable f) :
    (∀ id, ((f.placements id).map Prod.fst).Nodup ∧
      ∀ server p, (server, p) ∈ f.placements id ↔
        f.store.get? (.placement id server) = some p) ∧
    (∀ id r, f.store.get? (.application id) = some r → r.source = .complex →
      f.placements id ≠ [] →
        r.status =
            .rollup ((f.placements id).map fun (server, p) => (server, p.status))
              (((f.placements id).filter fun (_, p) => p.allExcluded).map Prod.fst) ∧
          r.containerCount = total ((f.placements id).map fun (_, p) => p.containerCount)) ∧
    ∀ id r, f.store.get? (.service id) = some r → r.source ≠ .deployment →
      r.containerCount = (f.store.children (.service id)).length ∧
        ∀ e ∈ f.store.children (.service id), e.1.subResource.isSome ∧ e.2.source = r.source :=
  ⟨fun id => ⟨hf.nodup_placements id, fun _ _ => hf.mem_placements_iff⟩,
    fun id r => (hf.consistent _).application id r rfl,
    fun id r => (hf.consistent _).service id r rfl⟩

/-- After a check and a poll, the application of the shop counts a container on either server, and
its service counts one part. -/
theorem parents_consistent_shop :
    let f := (shopChecked.poll noFiles shopInspector).1
    Reachable f ∧
      (∃ r, f.store.get? (.application "shop") = some r ∧ r.source = .complex ∧
        (f.placements "shop").map Prod.fst = ["edge-1", "edge-2"] ∧
        r.status = .rollup [("edge-1", .running .healthy), ("edge-2", .running .healthy)] [] ∧
        r.containerCount = 2) ∧
      ∃ r, f.store.get? (.service "mail") = some r ∧ r.source = .ssh ∧ r.containerCount = 1 ∧
        ∀ e ∈ f.store.children (.service "mail"), e.2.source = .ssh := by
  intro f
  have hf : Reachable f := .step shopChecked_reachable (.collect (.poll _ _ (.refl _)))
  obtain ⟨-, happlications, hservices⟩ := parents_consistent hf
  obtain ⟨hstatus, hcount⟩ := happlications "shop" _ rfl rfl (by decide)
  obtain ⟨hparts, hsources⟩ := hservices "mail" _ rfl (by decide)
  exact ⟨hf, ⟨_, rfl, rfl, rfl, hstatus, hcount⟩, _, rfl, rfl, hparts,
    fun e he => (hsources e he).2⟩

end FleetWatch.Fleet
