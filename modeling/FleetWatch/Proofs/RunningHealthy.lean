import FleetWatch.Proofs.Healthy
import FleetWatch.Proofs.Placements
import FleetWatch.Proofs.Run

/-! # Resources that are shown as healthy

A service, or an application on more than one server, is stored as `running:healthy` exactly when
its containers are. Both go through two levels: containers make up the statuses of parts or
placements, and what is stored of those makes up the status of the resource.
-/

namespace FleetWatch.Fleet

/-! ## Services -/

/-- The part counts for the health of a service: it is declared or seen, and it is not excluded. -/
def CountedPart (compose : ComposeFile) (containers : Containers) (sub : String) : Prop :=
  (sub ∈ compose.services ∨ ∃ c ∈ containers.sightings, c.name = sub) ∧ sub ∉ compose.excluded

section Part

variable {compose : ComposeFile} {containers : Containers} (source : StatusSource) (now : Nat)
  {sub : String}

theorem partRecord_plain (hsub : sub ∉ compose.excluded) :
    (partRecord compose containers source now sub).status.Plain := by
  have hcounted : (containers.named sub).allExcluded compose.excluded = false := by
    rw [Containers.allExcluded_eq_false_iff]
    cases hseen : (containers.named sub).sightings with
    | nil => exact .inl rfl
    | cons c rest =>
        have hc : c ∈ (containers.named sub).sightings := by simp [hseen]
        rw [Containers.mem_sightings_named] at hc
        exact .inr ⟨c, List.mem_cons_self, by rwa [hc.2]⟩
  rw [partRecord]
  simpa [hsub] using Containers.evaluate_plain hcounted

/-- A part that is not excluded is healthy when it has a container and each of its containers is
running and healthy. -/
theorem partRecord_running_healthy_iff (hsub : sub ∉ compose.excluded)
    (hknown : ∀ c ∈ containers.sightings, c.token.isSome) :
    (partRecord compose containers source now sub).status = .running .healthy ↔
      (∃ c ∈ containers.sightings, c.name = sub) ∧
        ∀ c ∈ containers.sightings, c.name = sub → c.token = some .healthy := by
  have hstatus : (partRecord compose containers source now sub).status =
      (containers.named sub).evaluate compose.excluded := by
    simp [partRecord, hsub]
  rw [hstatus, Containers.evaluate_eq_running_healthy_iff]
  · simp only [Containers.mem_sightings_named]
    constructor
    · rintro ⟨⟨c, ⟨hc, hname⟩, -⟩, hall⟩
      exact ⟨⟨c, hc, hname⟩, fun c' hc' hname' => hall c' ⟨hc', hname'⟩ (by rwa [hname'])⟩
    · rintro ⟨⟨c, hc, hname⟩, hall⟩
      exact ⟨⟨c, ⟨hc, hname⟩, by rwa [hname]⟩, fun c' hc' _ => hall c' hc'.1 hc'.2⟩
  · intro c hc
    exact hknown c (Containers.mem_sightings_named.mp hc).1

end Part

/-- A recorded service is healthy when some part counts and each that does is. -/
theorem recordService_running_healthy_iff (around : Surroundings) {containers : Containers}
    (source : StatusSource) {f : Fleet} {service : Service}
    (hdep : f.isDeploying (.service service.id) = false)
    (hknown : ∀ c ∈ containers.sightings, c.token.isSome) :
    let compose := around.compose service.composePath
    ∃ r, (recordService around containers source f service).store.get? (.service service.id) =
        some r ∧
      (r.status = .running .healthy ↔
        (∃ sub, CountedPart compose containers sub) ∧
          ∀ sub, CountedPart compose containers sub →
            (∃ c ∈ containers.sightings, c.name = sub) ∧
              ∀ c ∈ containers.sightings, c.name = sub → c.token = some .healthy) := by
  intro compose
  refine ⟨_, get?_recordService_self around containers source hdep, ?_⟩
  have hparts := mem_parts_recordService around containers source hdep
  dsimp only
  rw [Status.rollup_eq_running_healthy_iff]
  · constructor
    · rintro ⟨⟨part, hpart, hname⟩, hall⟩
      obtain ⟨sub, hsub, rfl⟩ := (hparts part).mp hpart
      refine ⟨⟨sub, mem_partNames.mp hsub, hname⟩, fun sub' hsub' => ?_⟩
      have hhealthy := hall _ ((hparts _).mpr ⟨sub', mem_partNames.mpr hsub'.1, rfl⟩) hsub'.2
      exact (partRecord_running_healthy_iff source around.now hsub'.2 hknown).mp hhealthy
    · rintro ⟨⟨sub, hsub, hname⟩, hall⟩
      refine ⟨⟨_, (hparts _).mpr ⟨sub, mem_partNames.mpr hsub, rfl⟩, hname⟩, ?_⟩
      intro part hpart hname'
      obtain ⟨sub', hsub', rfl⟩ := (hparts part).mp hpart
      exact (partRecord_running_healthy_iff source around.now hname' hknown).mpr
        (hall sub' ⟨mem_partNames.mp hsub', hname'⟩)
  · intro part hpart hname
    obtain ⟨sub, -, rfl⟩ := (hparts part).mp hpart
    exact partRecord_plain source around.now hname

/-! ## Applications on more than one server -/

/-- With one record for each server, the placements that count are those that are not excluded by
name. -/
theorem placedStatus_eq_running_healthy_iff {placements : List (String × StatusRecord)}
    (hkey : ∀ p ∈ placements, ∀ q ∈ placements, p.1 = q.1 → p.2 = q.2)
    (hplain : ∀ p ∈ placements, p.2.allExcluded = false → p.2.status.Plain) :
    placedStatus placements = .running .healthy ↔
      (∃ p ∈ placements, p.2.allExcluded = false) ∧
        ∀ p ∈ placements, p.2.allExcluded = false → p.2.status = .running .healthy := by
  have hname : ∀ p ∈ placements,
      (p.1 ∉ (placements.filter fun q => q.2.allExcluded).map Prod.fst ↔
        p.2.allExcluded = false) :=
    fun p hp => not_mem_excludedServers_iff hkey hp
  rw [placedStatus, Status.rollup_eq_running_healthy_iff]
  · rw [List.forall_mem_map]
    simp only [List.mem_map (f := fun p : String × StatusRecord => (p.1, p.2.status)),
      exists_exists_and_eq_and]
    exact and_congr (exists_congr fun p => and_congr_right (hname p))
      (forall₂_congr fun p hp => imp_congr_left (hname p hp))
  · intro p' hp' hnot
    obtain ⟨p, hp, rfl⟩ := List.mem_map.mp hp'
    exact hplain p hp ((hname p hp).mp hnot)

/-- A checked application is healthy when some placement counts and each that does is. -/
theorem checkApplication_running_healthy_iff (around : Surroundings)
    {seen : List (String × Snapshot)} {shown : String → Snapshot} {f : Fleet} {app : Application}
    (hdep : f.isDeploying (.application app.id) = false)
    (hseen : ∀ server ∈ app.allServers, seen.lookup server = some (shown server))
    (hknown : ∀ server ∈ app.allServers,
      ∀ c ∈ ((shown server).containers app.id).sightings, c.token.isSome) :
    let excluded := (around.composeOptional app.composePath).excluded
    let placed := fun server => (shown server).containers app.id
    ∃ r, (checkApplication around seen f app).store.get? (.application app.id) = some r ∧
      (r.status = .running .healthy ↔
        (∃ server ∈ app.allServers, (placed server).allExcluded excluded = false) ∧
          ∀ server ∈ app.allServers, (placed server).allExcluded excluded = false →
            (∃ c ∈ (placed server).sightings, c.name ∉ excluded) ∧
              ∀ c ∈ (placed server).sightings, c.name ∉ excluded → c.token = some .healthy) := by
  intro excluded placed
  have hmem := mem_placements_of_seen around hdep hseen
  have hplaced : (checkApplication around seen f app).placements app.id ≠ [] :=
    List.ne_nil_of_mem ((hmem app.server _).mpr ⟨List.mem_cons_self, rfl⟩)
  have hstatus : ∀ server ∈ app.allServers,
      (((placed server).evaluate excluded) = .running .healthy ↔
        (∃ c ∈ (placed server).sightings, c.name ∉ excluded) ∧
          ∀ c ∈ (placed server).sightings, c.name ∉ excluded → c.token = some .healthy) :=
    fun server hserver => Containers.evaluate_eq_running_healthy_iff (hknown server hserver)
  refine ⟨_, get?_checkApplication_self around seen hdep hplaced, ?_⟩
  dsimp only
  rw [placedStatus_eq_running_healthy_iff]
  · constructor
    · rintro ⟨⟨⟨server, r⟩, hp, hcounts⟩, hall⟩
      obtain ⟨hserver, rfl⟩ := (hmem server r).mp hp
      refine ⟨⟨server, hserver, hcounts⟩, fun server' hserver' hcounts' => ?_⟩
      exact (hstatus server' hserver').mp (hall _ ((hmem server' _).mpr ⟨hserver', rfl⟩) hcounts')
    · rintro ⟨⟨server, hserver, hcounts⟩, hall⟩
      refine ⟨⟨_, (hmem server _).mpr ⟨hserver, rfl⟩, hcounts⟩, ?_⟩
      rintro ⟨server', r⟩ hp hcounts'
      obtain ⟨hserver', rfl⟩ := (hmem server' r).mp hp
      exact (hstatus server' hserver').mpr (hall server' hserver' hcounts')
  · rintro ⟨server, r⟩ hp ⟨server', r'⟩ hp' rfl
    rw [((hmem server r).mp hp).2, ((hmem server r').mp hp').2]
  · rintro ⟨server, r⟩ hp hcounts
    obtain ⟨-, rfl⟩ := (hmem server r).mp hp
    exact Containers.evaluate_plain hcounts

/-! ## No false green -/

/-- A service is stored as `running:healthy` exactly when some part counts and each that does has
a container and only running and healthy ones. After a check of valid settings in which all its
servers could be inspected, an application is stored so exactly when some placement is not excluded
as a whole and each such placement has a container that counts and only running and healthy ones
among them. -/
theorem running_healthy_iff (f : Fleet) (around : Surroundings) :
    (∀ (containers : Containers) (source : StatusSource) (service : Service),
      f.isDeploying (.service service.id) = false →
      (∀ c ∈ containers.sightings, c.token.isSome) →
        let compose := around.compose service.composePath
        ∃ r, (recordService around containers source f service).store.get?
            (.service service.id) = some r ∧
          (r.status = .running .healthy ↔
            (∃ sub, CountedPart compose containers sub) ∧
              ∀ sub, CountedPart compose containers sub →
                (∃ c ∈ containers.sightings, c.name = sub) ∧
                  ∀ c ∈ containers.sightings, c.name = sub → c.token = some .healthy)) ∧
    ∀ (inspect : Inspector) (shown : String → List Observation) (app : Application),
      f.settings.problems = [] → app ∈ f.settings.multiServerApplications →
      f.isDeploying (.application app.id) = false →
      (∀ name ∈ app.allServers, ∀ server, f.settings.server? name = some server →
        inspect server = .ok (shown name)) →
        let excluded := (around.composeOptional app.composePath).excluded
        let placed := fun name => (Snapshot.observed (shown name)).containers app.id
        ∃ r, (f.check around inspect).1.store.get? (.application app.id) = some r ∧
          (r.status = .running .healthy ↔
            (∃ name ∈ app.allServers, (placed name).allExcluded excluded = false) ∧
              ∀ name ∈ app.allServers, (placed name).allExcluded excluded = false →
                (∃ c ∈ (placed name).sightings, c.name ∉ excluded) ∧
                  ∀ c ∈ (placed name).sightings, c.name ∉ excluded →
                    c.token = some .healthy) := by
  refine ⟨fun containers source service hdep hknown =>
    recordService_running_healthy_iff around source hdep hknown, ?_⟩
  intro inspect shown app hvalid happ hdep hreachable excluded placed
  -- The rounds of other applications leave this one alone.
  obtain ⟨g, -, hdeploying, hg⟩ := check_isolated hvalid around inspect happ
  have hdep' : g.isDeploying (.application app.id) = false := by
    rwa [isDeploying, hdeploying]
  have hseen : ∀ name ∈ app.allServers,
      (snapshots inspect f.checkTargets).lookup name = some (.observed (shown name)) := by
    intro name hname
    have hconfigured := Settings.server?_isSome_of_application hvalid
      (List.mem_filter.mp happ).1 hname
    obtain ⟨server, hserver⟩ := Option.isSome_iff_exists.mp hconfigured
    rw [lookup_snapshots, if_pos (mem_wantedServers happ hdep hname), hserver, Option.bind_some,
      hreachable name hname server hserver]
    rfl
  have hknown : ∀ name ∈ app.allServers, ∀ c ∈ (placed name).sightings, c.token.isSome := by
    intro name _ c hc
    obtain ⟨o, -, rfl⟩ := List.mem_map.mp hc
    rfl
  rw [hg _ rfl]
  exact checkApplication_running_healthy_iff around hdep' hseen hknown

/-- The service and the application of the shop are both shown as healthy, since their containers
are running and healthy everywhere. -/
theorem running_healthy_iff_shop :
    let f : Fleet := { settings := shopSettings }
    let shown := [shopContainer, mailContainer]
    let containers := (Snapshot.observed shown).containers "mail"
    let mail : Service := { id := "mail", server := "edge-1", composePath := "mail.yml" }
    (∃ r, (recordService noFiles containers .ssh f mail).store.get? (.service "mail") = some r ∧
      r.status = .running .healthy) ∧
    ∃ r, (f.check noFiles shopInspector).1.store.get? (.application "shop") = some r ∧
      r.status = .running .healthy := by
  intro f shown containers mail
  obtain ⟨hservices, happlications⟩ := running_healthy_iff f noFiles
  have hhealthy : ∀ id, ∀ c ∈ ((Snapshot.observed shown).containers id).sightings,
      c.token = some .healthy := by
    intro id c hc
    obtain ⟨o, ho, rfl⟩ := List.mem_map.mp hc
    have hall : ∀ o ∈ shown, some o.token = some .healthy := by decide
    exact hall o (List.mem_filter.mp ho).1
  constructor
  · obtain ⟨r, hr, hstatus⟩ := hservices containers .ssh mail rfl
      fun c hc => by rw [hhealthy "mail" c hc]; rfl
    refine ⟨r, hr, hstatus.mpr ⟨⟨"smtp", .inr ⟨_, .head _, rfl⟩, List.not_mem_nil⟩, ?_⟩⟩
    rintro sub ⟨hmem | hseen, -⟩
    · exact absurd hmem List.not_mem_nil
    · exact ⟨hseen, fun c hc _ => hhealthy "mail" c hc⟩
  · have hvalid : f.settings.problems = [] := by decide
    obtain ⟨r, hr, hstatus⟩ := happlications shopInspector (fun _ => shown)
      { id := "shop", server := "edge-1", additionalServers := ["edge-2"] } hvalid (by decide) rfl
      fun _ _ _ _ => rfl
    refine ⟨r, hr, hstatus.mpr ⟨⟨"edge-1", by decide, rfl⟩, fun name _ _ => ?_⟩⟩
    exact ⟨⟨_, .head _, List.not_mem_nil⟩, fun c hc _ => hhealthy "shop" c hc⟩

end FleetWatch.Fleet
