import FleetWatch.Proofs.Family
import FleetWatch.Proofs.Sighting

/-! # What recording a resource leaves

A resource that is recorded changes the records of its own family and nothing else. While it is
being deployed only its own record changes, to the override. Otherwise the stored parts of a service
are exactly those that were made up, an application keeps exactly the placements that its servers
allow, and the resource's own record is the rollup of what is stored beside it.
-/

namespace FleetWatch.Fleet

/-! ## Resources on a server -/

theorem mem_applicationsOn {f : Fleet} {server : String} {app : Application} :
    app ∈ f.applicationsOn server ↔
      app ∈ f.settings.applications ∧ app.server = server ∧ app.isMultiServer = false := by
  rw [applicationsOn, List.mem_filter, Bool.and_eq_true, beq_iff_eq, Bool.not_eq_true']

theorem mem_servicesOn {f : Fleet} {server : String} {service : Service} :
    service ∈ f.servicesOn server ↔
      service ∈ f.settings.services ∧ service.server = server := by
  rw [servicesOn, List.mem_filter, beq_iff_eq]

/-! ## What may change -/

/-- Between two fleets, only records in the family of a resource have changed. -/
structure Confined (key : ResourceKey) (f g : Fleet) : Prop where
  settings : g.settings = f.settings
  deploying : g.deploying = f.deploying
  frame : ∀ k, k.owner ≠ key → g.store.get? k = f.store.get? k

namespace Confined

variable {key : ResourceKey} {f g h : Fleet}

theorem refl (key : ResourceKey) (f : Fleet) : Confined key f f := ⟨rfl, rfl, fun _ _ => rfl⟩

theorem trans (hfg : Confined key f g) (hgh : Confined key g h) : Confined key f h :=
  ⟨hgh.settings.trans hfg.settings, hgh.deploying.trans hfg.deploying,
    fun k hk => (hgh.frame k hk).trans (hfg.frame k hk)⟩

theorem isDeploying (hfg : Confined key f g) (k : ResourceKey) :
    g.isDeploying k = f.isDeploying k :=
  isDeploying_congr hfg.deploying k

theorem record (f : Fleet) {k : ResourceKey} (hk : k.owner = key) (r : StatusRecord) :
    Confined key f (f.record k r) := by
  refine ⟨rfl, rfl, fun other hother => ?_⟩
  rw [store_record, Store.get?_insert_of_ne]
  rintro rfl
  exact hother hk

theorem recordAll (f : Fleet) {batch : List StoreEntry} (hbatch : ∀ e ∈ batch, e.1.owner = key) :
    Confined key f (f.recordAll batch) := by
  induction batch generalizing f with
  | nil => exact refl key f
  | cons e rest ih =>
      have hfirst := record f (hbatch e List.mem_cons_self) e.2
      exact hfirst.trans (ih _ fun e' he' => hbatch e' (List.mem_cons_of_mem _ he'))

theorem replaceChildren (f : Fleet) {batch : List StoreEntry} (keep : List ResourceKey)
    (hbatch : ∀ e ∈ batch, e.1.owner = key) (hkey : key.owner = key) :
    Confined key f (f.replaceChildren key batch keep) := by
  have hrecord := recordAll f hbatch
  refine ⟨hrecord.settings, hrecord.deploying, fun k hk => ?_⟩
  have hchild : k.isChildOf key = false := by
    rw [Bool.eq_false_iff]
    intro hchild
    exact hk ((ResourceKey.isChildOf_iff.mp hchild).2.trans hkey)
  rw [get?_replaceChildren, hchild, ← hrecord.frame k hk]
  rfl

end Confined

/-- Recording a resource itself leaves the lists of children alone. -/
theorem children_record (f : Fleet) {key : ResourceKey} (hkey : key.isTopLevel = true)
    (r : StatusRecord) (parent : ResourceKey) :
    (f.record key r).store.children parent = f.store.children parent :=
  Store.children_congr fun _ hk =>
    Store.get?_insert_of_ne _ _ (ResourceKey.ne_of_isChildOf hk hkey)

/-! ## The override -/

section Deploying

variable (around : Surroundings) (containers : Containers) (source : StatusSource) {f : Fleet}

theorem recordApplication_of_deploying {app : Application}
    (hdep : f.isDeploying (.application app.id) = true) :
    recordApplication around containers source f app =
      f.record (.application app.id) (.deploying containers.count around.now) := by
  simp [recordApplication, hdep]

theorem recordService_of_deploying {service : Service}
    (hdep : f.isDeploying (.service service.id) = true) :
    recordService around containers source f service =
      f.record (.service service.id) (.deploying containers.count around.now) := by
  simp [recordService, hdep]

theorem checkApplication_of_deploying (seen : List (String × Snapshot)) {app : Application}
    (hdep : f.isDeploying (.application app.id) = true) :
    checkApplication around seen f app =
      f.record (.application app.id)
        (.deploying (f.countOf (.application app.id)) around.now) := by
  simp [checkApplication, hdep]

end Deploying

/-! ## Applications on one server -/

section Application

variable (around : Surroundings) (containers : Containers) (source : StatusSource) {f : Fleet}
  {app : Application}

theorem recordApplication_of_not_deploying (hdep : f.isDeploying (.application app.id) = false) :
    recordApplication around containers source f app =
      f.record (.application app.id)
        { status := containers.evaluate (around.composeOptional app.composePath).excluded
          source
          containerCount := containers.count
          updatedAt := around.now } := by
  simp [recordApplication, hdep]

theorem recordApplication_confined (f : Fleet) (app : Application) :
    Confined (.application app.id) f (recordApplication around containers source f app) := by
  cases hdep : f.isDeploying (.application app.id) with
  | true =>
      rw [recordApplication_of_deploying around containers source hdep]
      exact Confined.record f (ResourceKey.owner_application _) _
  | false =>
      rw [recordApplication_of_not_deploying around containers source hdep]
      exact Confined.record f (ResourceKey.owner_application _) _

/-- An application on one server has one record written, its own. -/
theorem get?_recordApplication_of_ne (f : Fleet) (app : Application) {k : ResourceKey}
    (hk : k ≠ .application app.id) :
    (recordApplication around containers source f app).store.get? k = f.store.get? k := by
  cases hdep : f.isDeploying (.application app.id) with
  | true =>
      rw [recordApplication_of_deploying around containers source hdep]
      exact Store.get?_insert_of_ne _ _ hk
  | false =>
      rw [recordApplication_of_not_deploying around containers source hdep]
      exact Store.get?_insert_of_ne _ _ hk

end Application

/-! ## Services -/

/-- The parts of a service depend on the statuses of its children alone. -/
theorem parts_congr {f g : Fleet} {id : String}
    (h : ∀ k, k.isChildOf (.service id) = true →
      (g.store.get? k).map StatusRecord.status = (f.store.get? k).map StatusRecord.status) :
    g.parts id = f.parts id := by
  have hparts : ∀ f' : Fleet, f'.parts id =
      ((f'.store.children (.service id)).map fun e => (e.1, e.2.status)).filterMap
        fun c => c.1.subResource.map fun sub => (sub, c.2) := by
    intro f'
    rw [parts, List.filterMap_map]
    rfl
  rw [hparts g, hparts f, Store.children_map_congr StatusRecord.status h]

/-- Which parts there are depends on which children are stored alone. -/
theorem map_fst_parts_congr {f g : Fleet} {id : String}
    (h : ∀ k, k.isChildOf (.service id) = true →
      (g.store.get? k).isSome = (f.store.get? k).isSome) :
    (g.parts id).map Prod.fst = (f.parts id).map Prod.fst := by
  have hnames : ∀ f' : Fleet, (f'.parts id).map Prod.fst =
      ((f'.store.children (.service id)).map fun e => (e.1, ())).filterMap
        fun c => c.1.subResource := by
    intro f'
    rw [parts, List.map_filterMap, List.filterMap_map]
    apply List.filterMap_congr
    intro e _
    simp [Function.comp_def]
  rw [hnames g, hnames f, Store.children_map_congr (fun _ => ()) fun k hk => ?_]
  have hsome := h k hk
  cases hg : g.store.get? k <;> cases hf : f.store.get? k <;> simp_all

section Service

variable (around : Surroundings) (containers : Containers) (source : StatusSource)

/-- A part is declared or seen. -/
theorem mem_partNames {compose : ComposeFile} {containers : Containers} {sub : String} :
    sub ∈ partNames compose containers ↔
      sub ∈ compose.services ∨ ∃ c ∈ containers.sightings, c.name = sub := by
  rw [partNames, mem_distinctSorted, List.mem_append, Containers.names_eq, List.mem_map]

theorem mem_partRecords {compose : ComposeFile} {containers : Containers}
    {source : StatusSource} {now : Nat} {id : String} {e : StoreEntry} :
    e ∈ partRecords compose containers source now id ↔
      ∃ sub ∈ partNames compose containers,
        e = (.part id sub, partRecord compose containers source now sub) := by
  simp only [partRecords, List.mem_map, eq_comm]

/-- The fleet in which the parts of a service have been recorded. -/
def withParts (f : Fleet) (service : Service) : Fleet :=
  let batch := partRecords (around.compose service.composePath) containers source around.now
    service.id
  f.replaceChildren (.service service.id) batch (batch.map Prod.fst)

theorem recordService_of_not_deploying {f : Fleet} {service : Service}
    (hdep : f.isDeploying (.service service.id) = false) :
    recordService around containers source f service =
      let g := withParts around containers source f service
      g.record (.service service.id)
        { status := Status.rollup (g.parts service.id)
            (around.compose service.composePath).excluded
          source
          containerCount := (g.parts service.id).length
          updatedAt := around.now } := by
  simp [recordService, withParts, hdep]

theorem withParts_confined (f : Fleet) (service : Service) :
    Confined (.service service.id) f (withParts around containers source f service) := by
  apply Confined.replaceChildren f _ ?_ rfl
  intro e he
  obtain ⟨sub, -, rfl⟩ := mem_partRecords.mp he
  rfl

theorem recordService_confined (f : Fleet) (service : Service) :
    Confined (.service service.id) f (recordService around containers source f service) := by
  cases hdep : f.isDeploying (.service service.id) with
  | true =>
      rw [recordService_of_deploying around containers source hdep]
      exact Confined.record f (ResourceKey.owner_service _) _
  | false =>
      rw [recordService_of_not_deploying around containers source hdep]
      apply (withParts_confined around containers source f service).trans
      exact Confined.record _ (ResourceKey.owner_service _) _

/-- The stored parts of a service are those that were made up. -/
theorem get?_withParts_eq_some_iff (f : Fleet) (service : Service) {k : ResourceKey}
    (hk : k.isChildOf (.service service.id) = true) {r : StatusRecord} :
    (withParts around containers source f service).store.get? k = some r ↔
      ∃ sub ∈ partNames (around.compose service.composePath) containers,
        k = .part service.id sub ∧
          r = partRecord (around.compose service.composePath) containers source around.now sub := by
  rw [withParts, get?_replaceChildren_eq_some_iff f _ _ hk]
  · simp only [List.mem_map, mem_partRecords]
    constructor
    · rintro ⟨⟨e, he, rfl⟩, ⟨sub, hsub, heq⟩ | ⟨hnot, -⟩⟩
      · obtain ⟨hkey, hr⟩ := Prod.mk.inj heq
        exact ⟨sub, hsub, hkey, hr⟩
      · exact absurd rfl (hnot e he)
    · rintro ⟨sub, hsub, rfl, rfl⟩
      exact ⟨⟨_, ⟨sub, hsub, rfl⟩, rfl⟩, .inl ⟨sub, hsub, rfl⟩⟩
  · intro e he e' he' heq
    obtain ⟨sub, -, rfl⟩ := mem_partRecords.mp he
    obtain ⟨sub', -, rfl⟩ := mem_partRecords.mp he'
    rw [(ResourceKey.part_inj.mp heq).2]

/-- While it is not being deployed, a service is recorded from its stored parts. -/
theorem get?_recordService_self {f : Fleet} {service : Service}
    (hdep : f.isDeploying (.service service.id) = false) :
    let g := recordService around containers source f service
    g.store.get? (.service service.id) =
      some
        { status := Status.rollup (g.parts service.id)
            (around.compose service.composePath).excluded
          source
          containerCount := (g.parts service.id).length
          updatedAt := around.now } := by
  intro g
  have hg := recordService_of_not_deploying around containers source hdep
  have hparts : g.parts service.id =
      (withParts around containers source f service).parts service.id := by
    simp only [g, hg, parts, children_record _ (ResourceKey.isTopLevel_service _)]
  rw [hparts]
  simp only [g, hg]
  exact Store.get?_insert_self _ _ _

theorem get?_recordService_child_eq_some_iff {f : Fleet} {service : Service}
    (hdep : f.isDeploying (.service service.id) = false) {k : ResourceKey}
    (hk : k.isChildOf (.service service.id) = true) {r : StatusRecord} :
    (recordService around containers source f service).store.get? k = some r ↔
      ∃ sub ∈ partNames (around.compose service.composePath) containers,
        k = .part service.id sub ∧
          r = partRecord (around.compose service.composePath) containers source around.now sub := by
  rw [recordService_of_not_deploying around containers source hdep,
    ← get?_withParts_eq_some_iff around containers source f service hk]
  dsimp only
  rw [store_record, Store.get?_insert_of_ne _ _
    (ResourceKey.ne_of_isChildOf hk (ResourceKey.isTopLevel_service _))]

theorem get?_recordService_part {f : Fleet} {service : Service}
    (hdep : f.isDeploying (.service service.id) = false) {sub : String}
    (hsub : sub ∈ partNames (around.compose service.composePath) containers) :
    (recordService around containers source f service).store.get? (.part service.id sub) =
      some (partRecord (around.compose service.composePath) containers source around.now sub) := by
  rw [get?_recordService_child_eq_some_iff around containers source hdep
    (ResourceKey.part_isChildOf service.id sub)]
  exact ⟨sub, hsub, rfl, rfl⟩

/-- A part is stored exactly if it is made up. -/
theorem get?_recordService_part_eq_some_iff {f : Fleet} {service : Service}
    (hdep : f.isDeploying (.service service.id) = false) {sub : String} {r : StatusRecord} :
    (recordService around containers source f service).store.get? (.part service.id sub) =
        some r ↔
      sub ∈ partNames (around.compose service.composePath) containers ∧
        r = partRecord (around.compose service.composePath) containers source around.now sub := by
  rw [get?_recordService_child_eq_some_iff around containers source hdep
    (ResourceKey.part_isChildOf service.id sub)]
  constructor
  · rintro ⟨sub', hsub, hkey, rfl⟩
    obtain rfl := (ResourceKey.part_inj.mp hkey).2
    exact ⟨hsub, rfl⟩
  · rintro ⟨hsub, rfl⟩
    exact ⟨sub, hsub, rfl, rfl⟩

/-- Children that are not made up are dropped. -/
theorem get?_recordService_child_eq_none {f : Fleet} {service : Service}
    (hdep : f.isDeploying (.service service.id) = false) {k : ResourceKey}
    (hk : k.isChildOf (.service service.id) = true)
    (hnot : ∀ sub ∈ partNames (around.compose service.composePath) containers,
      k ≠ .part service.id sub) :
    (recordService around containers source f service).store.get? k = none := by
  rw [Option.eq_none_iff_forall_ne_some]
  intro r hr
  obtain ⟨sub, hsub, rfl, -⟩ :=
    (get?_recordService_child_eq_some_iff around containers source hdep hk).mp hr
  exact hnot sub hsub rfl

/-- The parts that a recorded service is made up of. -/
theorem mem_parts_recordService {f : Fleet} {service : Service}
    (hdep : f.isDeploying (.service service.id) = false) (part : String × Status) :
    part ∈ (recordService around containers source f service).parts service.id ↔
      ∃ sub ∈ partNames (around.compose service.composePath) containers,
        part = (sub, (partRecord (around.compose service.composePath) containers source around.now
          sub).status) := by
  rw [parts, List.mem_filterMap]
  constructor
  · rintro ⟨⟨k, r⟩, he, hpart⟩
    obtain ⟨hget, hchild⟩ := Store.mem_children_iff.mp he
    obtain ⟨sub, hsub, rfl, rfl⟩ :=
      (get?_recordService_child_eq_some_iff around containers source hdep hchild).mp hget
    exact ⟨sub, hsub, (Option.some.inj hpart).symm⟩
  · rintro ⟨sub, hsub, rfl⟩
    have hget := get?_recordService_part around containers source hdep hsub
    exact ⟨(.part service.id sub, _),
      Store.mem_children_iff.mpr ⟨hget, ResourceKey.part_isChildOf service.id sub⟩, rfl⟩

end Service

/-! ## Applications on more than one server -/

section Check

variable (around : Surroundings) (seen : List (String × Snapshot))

theorem mem_placementRecords {compose : ComposeFile} {seen : List (String × Snapshot)} {now : Nat}
    {app : Application} {e : StoreEntry} :
    e ∈ placementRecords compose seen now app ↔
      ∃ server ∈ app.allServers, ∃ snapshot, seen.lookup server = some snapshot ∧
        e = (.placement app.id server, placementRecord compose snapshot now app) := by
  simp only [placementRecords, List.mem_filterMap, Option.map_eq_some_iff, @eq_comm _ e]

/-- The fleet in which the placements of an application have been recorded. -/
def withPlacements (f : Fleet) (app : Application) : Fleet :=
  f.replaceChildren (.application app.id)
    (placementRecords (around.composeOptional app.composePath) seen around.now app)
    (app.allServers.map (ResourceKey.placement app.id))

theorem checkApplication_of_not_deploying {f : Fleet} {app : Application}
    (hdep : f.isDeploying (.application app.id) = false) :
    checkApplication around seen f app =
      let g := withPlacements around seen f app
      if (g.placements app.id).isEmpty then g
      else
        g.record (.application app.id)
          { status := placedStatus (g.placements app.id)
            source := .complex
            containerCount := total
              ((g.store.children (.application app.id)).map fun (_, r) => r.containerCount)
            updatedAt := around.now } := by
  simp [checkApplication, withPlacements, hdep]

theorem withPlacements_confined (f : Fleet) (app : Application) :
    Confined (.application app.id) f (withPlacements around seen f app) := by
  apply Confined.replaceChildren f _ ?_ rfl
  intro e he
  obtain ⟨server, -, snapshot, -, rfl⟩ := mem_placementRecords.mp he
  rfl

theorem checkApplication_confined (f : Fleet) (app : Application) :
    Confined (.application app.id) f (checkApplication around seen f app) := by
  cases hdep : f.isDeploying (.application app.id) with
  | true =>
      rw [checkApplication_of_deploying around seen hdep]
      exact Confined.record f (ResourceKey.owner_application _) _
  | false =>
      rw [checkApplication_of_not_deploying around seen hdep]
      have hplaced := withPlacements_confined around seen f app
      dsimp only
      split
      · exact hplaced
      · exact hplaced.trans (Confined.record _ (ResourceKey.owner_application _) _)

/-- The stored placements of an application are those on its servers, as they were seen now or, on
a server that was not seen, as they were before. -/
theorem get?_withPlacements_eq_some_iff (f : Fleet) (app : Application) {k : ResourceKey}
    (hk : k.isChildOf (.application app.id) = true) {r : StatusRecord} :
    (withPlacements around seen f app).store.get? k = some r ↔
      ∃ server ∈ app.allServers, k = .placement app.id server ∧
        ((∃ snapshot, seen.lookup server = some snapshot ∧
            r = placementRecord (around.composeOptional app.composePath) snapshot around.now app) ∨
          seen.lookup server = none ∧ f.store.get? k = some r) := by
  rw [withPlacements, get?_replaceChildren_eq_some_iff f _ _ hk]
  · simp only [List.mem_map, mem_placementRecords]
    constructor
    · rintro ⟨⟨server, hserver, rfl⟩, ⟨server', -, snapshot, hseen, heq⟩ | ⟨hnot, hr⟩⟩
      · obtain ⟨hkey, hr⟩ := Prod.mk.inj heq
        obtain ⟨-, rfl⟩ := ResourceKey.placement_inj.mp hkey
        exact ⟨server, hserver, rfl, .inl ⟨snapshot, hseen, hr⟩⟩
      · refine ⟨server, hserver, rfl, .inr ⟨?_, hr⟩⟩
        rw [Option.eq_none_iff_forall_ne_some]
        intro snapshot hseen
        exact hnot _ ⟨server, hserver, snapshot, hseen, rfl⟩ rfl
    · rintro ⟨server, hserver, rfl, ⟨snapshot, hseen, rfl⟩ | ⟨hseen, hr⟩⟩
      · exact ⟨⟨server, hserver, rfl⟩, .inl ⟨server, hserver, snapshot, hseen, rfl⟩⟩
      · refine ⟨⟨server, hserver, rfl⟩, .inr ⟨?_, hr⟩⟩
        rintro _ ⟨server', -, snapshot, hseen', rfl⟩ hkey
        obtain ⟨-, rfl⟩ := ResourceKey.placement_inj.mp hkey
        simp [hseen] at hseen'
  · intro e he e' he' heq
    obtain ⟨server, -, snapshot, hseen, rfl⟩ := mem_placementRecords.mp he
    obtain ⟨server', -, snapshot', hseen', rfl⟩ := mem_placementRecords.mp he'
    obtain ⟨-, rfl⟩ := ResourceKey.placement_inj.mp heq
    obtain rfl : snapshot = snapshot' := Option.some.inj (hseen.symm.trans hseen')
    rfl

/-- A check stores the placements, whether or not it records the application itself. -/
theorem children_checkApplication {f : Fleet} {app : Application}
    (hdep : f.isDeploying (.application app.id) = false) (parent : ResourceKey) :
    (checkApplication around seen f app).store.children parent =
      (withPlacements around seen f app).store.children parent := by
  rw [checkApplication_of_not_deploying around seen hdep]
  dsimp only
  split
  · rfl
  · exact children_record _ (ResourceKey.isTopLevel_application _) _ _

/-- The children that a check leaves of an application. -/
theorem get?_checkApplication_child_eq_some_iff {f : Fleet} {app : Application}
    (hdep : f.isDeploying (.application app.id) = false) {k : ResourceKey}
    (hk : k.isChildOf (.application app.id) = true) {r : StatusRecord} :
    (checkApplication around seen f app).store.get? k = some r ↔
      ∃ server ∈ app.allServers, k = .placement app.id server ∧
        ((∃ snapshot, seen.lookup server = some snapshot ∧
            r = placementRecord (around.composeOptional app.composePath) snapshot around.now app) ∨
          seen.lookup server = none ∧ f.store.get? k = some r) := by
  have hchild : ∀ s : Store, s.get? k = some r ↔ (k, r) ∈ s.children (.application app.id) :=
    fun s => by rw [Store.mem_children_iff, and_iff_left hk]
  rw [← get?_withPlacements_eq_some_iff around seen f app hk, hchild, hchild,
    children_checkApplication around seen hdep]

/-- A server that was seen has the placement that it shows. -/
theorem get?_checkApplication_placement {f : Fleet} {app : Application}
    (hdep : f.isDeploying (.application app.id) = false) {server : String}
    (hserver : server ∈ app.allServers) {snapshot : Snapshot}
    (hseen : seen.lookup server = some snapshot) :
    (checkApplication around seen f app).store.get? (.placement app.id server) =
      some (placementRecord (around.composeOptional app.composePath) snapshot around.now app) := by
  rw [get?_checkApplication_child_eq_some_iff around seen hdep
    (ResourceKey.placement_isChildOf app.id server)]
  exact ⟨server, hserver, rfl, .inl ⟨snapshot, hseen, rfl⟩⟩

/-- A server that was not seen has the placement that was stored. -/
theorem get?_checkApplication_placement_of_not_seen {f : Fleet} {app : Application}
    (hdep : f.isDeploying (.application app.id) = false) {server : String}
    (hserver : server ∈ app.allServers) (hseen : seen.lookup server = none) :
    (checkApplication around seen f app).store.get? (.placement app.id server) =
      f.store.get? (.placement app.id server) := by
  apply Option.ext
  intro r
  rw [get?_checkApplication_child_eq_some_iff around seen hdep
    (ResourceKey.placement_isChildOf app.id server)]
  constructor
  · rintro ⟨server', -, hkey, ⟨snapshot, hseen', -⟩ | ⟨-, hr⟩⟩
    · obtain ⟨-, rfl⟩ := ResourceKey.placement_inj.mp hkey
      rw [hseen] at hseen'
      cases hseen'
    · exact hr
  · exact fun hr => ⟨server, hserver, rfl, .inr ⟨hseen, hr⟩⟩

/-- Children that are no placements on the application's servers are dropped. -/
theorem get?_checkApplication_child_eq_none {f : Fleet} {app : Application}
    (hdep : f.isDeploying (.application app.id) = false) {k : ResourceKey}
    (hk : k.isChildOf (.application app.id) = true)
    (hnot : ∀ server ∈ app.allServers, k ≠ .placement app.id server) :
    (checkApplication around seen f app).store.get? k = none := by
  rw [Option.eq_none_iff_forall_ne_some]
  intro r hr
  obtain ⟨server, hserver, rfl, -⟩ :=
    (get?_checkApplication_child_eq_some_iff around seen hdep hk).mp hr
  exact hnot server hserver rfl

/-- The placements that a check leaves of an application. -/
theorem mem_placements_checkApplication {f : Fleet} {app : Application}
    (hdep : f.isDeploying (.application app.id) = false) {server : String} {r : StatusRecord} :
    (server, r) ∈ (checkApplication around seen f app).placements app.id ↔
      server ∈ app.allServers ∧
        ((∃ snapshot, seen.lookup server = some snapshot ∧
            r = placementRecord (around.composeOptional app.composePath) snapshot around.now app) ∨
          seen.lookup server = none ∧ f.store.get? (.placement app.id server) = some r) := by
  rw [placements, children_checkApplication around seen hdep, List.mem_filterMap]
  constructor
  · rintro ⟨⟨k, r'⟩, he, hplacement⟩
    obtain ⟨hget, hchild⟩ := Store.mem_children_iff.mp he
    obtain ⟨server', hserver, rfl, hr⟩ :=
      (get?_withPlacements_eq_some_iff around seen f app hchild).mp hget
    obtain ⟨rfl, rfl⟩ := Prod.mk.inj (Option.some.inj hplacement)
    exact ⟨hserver, hr⟩
  · rintro ⟨hserver, hr⟩
    have hchild := ResourceKey.placement_isChildOf app.id server
    refine ⟨(.placement app.id server, r), Store.mem_children_iff.mpr ⟨?_, hchild⟩, rfl⟩
    exact (get?_withPlacements_eq_some_iff around seen f app hchild).mpr
      ⟨server, hserver, rfl, hr⟩

theorem placements_checkApplication {f : Fleet} {app : Application}
    (hdep : f.isDeploying (.application app.id) = false) :
    (checkApplication around seen f app).placements app.id =
      (withPlacements around seen f app).placements app.id := by
  rw [placements, placements, children_checkApplication around seen hdep]

/-- While it is not being deployed, an application with a stored placement is recorded from its
stored placements. -/
theorem get?_checkApplication_self {f : Fleet} {app : Application}
    (hdep : f.isDeploying (.application app.id) = false)
    (hplaced : (checkApplication around seen f app).placements app.id ≠ []) :
    let g := checkApplication around seen f app
    g.store.get? (.application app.id) =
      some
        { status := placedStatus (g.placements app.id)
          source := .complex
          containerCount := total
            ((g.store.children (.application app.id)).map fun (_, r) => r.containerCount)
          updatedAt := around.now } := by
  intro g
  have hchildren := children_checkApplication around seen hdep (.application app.id)
  simp only [g, placements_checkApplication around seen hdep, hchildren] at hplaced ⊢
  rw [checkApplication_of_not_deploying around seen hdep]
  dsimp only
  rw [if_neg (by simpa using hplaced)]
  exact Store.get?_insert_self _ _ _

/-- An application without a stored placement keeps its record. -/
theorem get?_checkApplication_self_of_unplaced {f : Fleet} {app : Application}
    (hdep : f.isDeploying (.application app.id) = false)
    (hunplaced : (checkApplication around seen f app).placements app.id = []) :
    (checkApplication around seen f app).store.get? (.application app.id) =
      f.store.get? (.application app.id) := by
  rw [placements_checkApplication around seen hdep] at hunplaced
  rw [checkApplication_of_not_deploying around seen hdep]
  dsimp only
  rw [if_pos (List.isEmpty_iff.mpr hunplaced), withPlacements, get?_replaceChildren]
  change (f.recordAll _).store.get? _ = _
  apply get?_recordAll_of_not_mem
  intro e he
  obtain ⟨server, -, snapshot, -, rfl⟩ := mem_placementRecords.mp he
  exact ResourceKey.ne_of_isChildOf (ResourceKey.placement_isChildOf app.id server) rfl

end Check

end FleetWatch.Fleet
