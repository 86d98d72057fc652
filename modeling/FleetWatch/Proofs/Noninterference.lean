import FleetWatch.Proofs.RunningHealthy

/-! # Excluded containers do not interfere

What is stored of a resource depends on the containers that are not excluded, as soon as there is
something that counts. On one server this holds of applications, of services and of each part of a
service that is not excluded; it rests on every excluded name being a declared one, so that excluded
containers make up no further parts.

On several servers there is one way in which excluded containers matter. A server that shows
nothing of an application counts as `exited`; a server that shows nothing but excluded containers of
it is left out. Hence runs are compared that agree on the servers that show nothing.
-/

namespace FleetWatch

namespace Containers

/-- The containers that are not excluded. -/
def counted (cs : Containers) (excluded : List String) : Containers :=
  match cs with
  | observed os => observed (os.filter fun c => !c.isExcluded excluded)
  | reported ss => reported (ss.filter fun s => !excluded.contains s.name)

theorem sightings_counted (cs : Containers) (excluded : List String) :
    (cs.counted excluded).sightings = cs.sightings.filter fun c => !excluded.contains c.name := by
  cases cs <;> simp only [counted, sightings, List.filter_map, Function.comp_def,
    Observation.sighting_name, NamedStatus.sighting_name, Observation.isExcluded]

theorem mem_sightings_counted {cs : Containers} {excluded : List String} {c : Sighting} :
    c ∈ (cs.counted excluded).sightings ↔ c ∈ cs.sightings ∧ c.name ∉ excluded := by
  simp [sightings_counted]

theorem isEmpty_eq (cs : Containers) : cs.isEmpty = cs.sightings.isEmpty := by
  rw [isEmpty, count_eq]
  cases cs.sightings <;> rfl

theorem Alike.isEmpty_eq {cs ds : Containers} (h : cs.Alike ds) : cs.isEmpty = ds.isEmpty := by
  rw [isEmpty, isEmpty, h.count_eq]

theorem allExcluded_eq_counted (cs : Containers) (excluded : List String) :
    cs.allExcluded excluded = (!cs.isEmpty && (cs.counted excluded).isEmpty) := by
  rw [allExcluded_eq, isEmpty_eq, isEmpty_eq, sightings_counted]
  congr 1
  rw [Bool.eq_iff_iff]
  simp

theorem evaluate_of_isEmpty {cs : Containers} (h : cs.isEmpty = true) (excluded : List String) :
    cs.evaluate excluded = .exited := by
  rw [isEmpty_eq, List.isEmpty_iff] at h
  rw [evaluate_eq, h]
  rfl

section Counted

variable {cs ds : Containers} {excluded : List String}
  (h : (cs.counted excluded).Alike (ds.counted excluded))
include h

/-- The containers that count decide, as soon as there are any. -/
theorem evaluate_eq_of_counted (hsome : (cs.counted excluded).isEmpty = false) :
    cs.evaluate excluded = ds.evaluate excluded := by
  have hexists : ∀ {cs' : Containers}, (cs'.counted excluded).isEmpty = false →
      ∃ c ∈ cs'.sightings, c.name ∉ excluded := by
    intro cs' hcs
    rw [Containers.isEmpty_eq, List.isEmpty_eq_false_iff_exists_mem] at hcs
    simpa only [mem_sightings_counted] using hcs
  have hsome' := h.isEmpty_eq.symm.trans hsome
  rw [Alike, sightings_counted, sightings_counted] at h
  rw [evaluate_eq, evaluate_eq, Status.evaluateSightings_of_counted (hexists hsome),
    Status.evaluateSightings_of_counted (hexists hsome')]
  exact Status.ofSightings_perm h

/-- Under a name that is not excluded, only containers that count are found. -/
theorem named_alike_of_counted {name : String} (hname : name ∉ excluded) :
    (cs.named name).Alike (ds.named name) := by
  have hnamed : ∀ cs' : Containers,
      (cs'.named name).sightings = ((cs'.counted excluded).named name).sightings := by
    intro cs'
    rw [sightings_named, sightings_named, sightings_counted, List.filter_filter]
    apply List.filter_congr
    intro c _
    by_cases hc : c.name = name <;> simp [hc, hname]
  rw [Alike, hnamed cs, hnamed ds]
  exact h.named name

variable (hpresent : (cs.counted excluded).isEmpty = true → cs.isEmpty = ds.isEmpty)
include hpresent

theorem allExcluded_eq_of_counted : cs.allExcluded excluded = ds.allExcluded excluded := by
  rw [allExcluded_eq_counted, allExcluded_eq_counted, ← h.isEmpty_eq]
  cases hcounted : (cs.counted excluded).isEmpty with
  | false => simp
  | true => rw [hpresent hcounted]

/-- Containers of which some count are evaluated by those; the others that are not excluded as a
whole are none at all. -/
theorem evaluate_eq_of_not_allExcluded (hflag : cs.allExcluded excluded = false) :
    cs.evaluate excluded = ds.evaluate excluded := by
  cases hcounted : (cs.counted excluded).isEmpty with
  | false => exact evaluate_eq_of_counted h hcounted
  | true =>
      rw [allExcluded_eq_counted, hcounted, Bool.and_true, Bool.not_eq_false'] at hflag
      have hflag' := (hpresent hcounted).symm.trans hflag
      rw [evaluate_of_isEmpty hflag, evaluate_of_isEmpty hflag']

end Counted

end Containers

namespace Status

theorem rollup_of_counted {parts : List (String × Status)} {excluded : List String}
    (hsome : ∃ p ∈ parts, p.1 ∉ excluded) :
    rollup parts excluded =
      ofTexts ((parts.filter fun (name, _) => !excluded.contains name).map fun (_, s) => s.text)
        0 := by
  unfold rollup
  cases hcounted : parts.filter fun (name, _) => !excluded.contains name with
  | nil =>
      obtain ⟨p, hp, hname⟩ := hsome
      exact absurd (List.filter_eq_nil_iff.mp hcounted p hp) (by simpa using hname)
  | cons p rest => rfl

theorem rollup_congr {ps qs : List (String × Status)} {excluded excluded' : List String}
    (h : ∀ p, p ∈ ps ∧ p.1 ∉ excluded ↔ p ∈ qs ∧ p.1 ∉ excluded')
    (hsome : ∃ p ∈ ps, p.1 ∉ excluded) : rollup ps excluded = rollup qs excluded' := by
  obtain ⟨p, hp⟩ := hsome
  rw [rollup_of_counted ⟨p, hp⟩, rollup_of_counted ⟨p, (h p).mp hp⟩, ofTexts, ofTexts]
  apply ofTokens_congr
  intro t
  simp only [List.mem_filterMap, List.mem_map, List.mem_filter, Bool.not_eq_true',
    List.contains_eq_mem, decide_eq_false_iff_not, h]

end Status

theorem Surroundings.excluded_subset_services (around : Surroundings) (path : String) :
    (around.compose path).excluded ⊆ (around.compose path).services := by
  unfold compose
  split
  · exact ComposeFile.excluded_subset_services _
  · exact List.nil_subset _

namespace Fleet

/-! ## Resources on one server -/

section Part

variable {compose : ComposeFile} {cs ds : Containers}
  (hcounted : (cs.counted compose.excluded).Alike (ds.counted compose.excluded))
include hcounted

theorem countedPart_congr (sub : String) :
    CountedPart compose cs sub ↔ CountedPart compose ds sub := by
  have hseen : ∀ cs' : Containers, sub ∉ compose.excluded →
      ((∃ c ∈ cs'.sightings, c.name = sub) ↔
        ∃ c ∈ (cs'.counted compose.excluded).sightings, c.name = sub) := by
    intro cs' hsub
    refine exists_congr fun c => and_congr_left fun hc => ?_
    rw [Containers.mem_sightings_counted, hc]
    exact (and_iff_left hsub).symm
  refine and_congr_left fun hsub => or_congr_right ?_
  rw [hseen cs hsub, hseen ds hsub]
  exact exists_congr fun c => and_congr_left fun _ => hcounted.mem_iff

/-- What is excluded is declared, so it is a part whether it is seen or not. -/
theorem mem_partNames_congr (hdeclared : compose.excluded ⊆ compose.services) (sub : String) :
    sub ∈ partNames compose cs ↔ sub ∈ partNames compose ds := by
  rw [mem_partNames, mem_partNames]
  by_cases hsub : sub ∈ compose.excluded
  · exact iff_of_true (.inl (hdeclared hsub)) (.inl (hdeclared hsub))
  · simpa [CountedPart, hsub] using countedPart_congr hcounted sub

theorem partRecord_congr (source : StatusSource) (now : Nat) {sub : String}
    (hsub : sub ∉ compose.excluded) :
    partRecord compose cs source now sub = partRecord compose ds source now sub := by
  have hnamed := Containers.named_alike_of_counted hcounted hsub
  simp [partRecord, hsub, hnamed.count_eq, hnamed.evaluate_eq]

end Part

section Service

variable (around : Surroundings) {cs ds : Containers} (source : StatusSource) {f : Fleet}
  {service : Service} (hdep : f.isDeploying (.service service.id) = false)
  (hcounted : (cs.counted (around.compose service.composePath).excluded).Alike
    (ds.counted (around.compose service.composePath).excluded))
include hdep hcounted

theorem get?_recordService_part_congr {sub : String}
    (hsub : sub ∉ (around.compose service.composePath).excluded) :
    (recordService around cs source f service).store.get? (.part service.id sub) =
      (recordService around ds source f service).store.get? (.part service.id sub) := by
  apply Option.ext
  intro r
  rw [get?_recordService_part_eq_some_iff around cs source hdep,
    get?_recordService_part_eq_some_iff around ds source hdep,
    mem_partNames_congr hcounted (around.excluded_subset_services _),
    partRecord_congr hcounted source around.now hsub]

theorem rollup_parts_congr
    (hsome : ∃ sub, CountedPart (around.compose service.composePath) cs sub) :
    Status.rollup ((recordService around cs source f service).parts service.id)
        (around.compose service.composePath).excluded =
      Status.rollup ((recordService around ds source f service).parts service.id)
        (around.compose service.composePath).excluded := by
  apply Status.rollup_congr
  · intro p
    rw [mem_parts_recordService around cs source hdep,
      mem_parts_recordService around ds source hdep]
    -- The parts go by the same names, and those that count have the same records.
    refine and_congr_left fun hp => exists_congr fun sub => ?_
    rw [mem_partNames_congr hcounted (around.excluded_subset_services _)]
    refine and_congr_right fun _ => ?_
    constructor
    all_goals
      rintro rfl
      rw [partRecord_congr hcounted source around.now hp]
  · obtain ⟨sub, hsub, hcounts⟩ := hsome
    exact ⟨_, (mem_parts_recordService around cs source hdep _).mpr
      ⟨sub, mem_partNames.mpr hsub, rfl⟩, hcounts⟩

theorem length_parts_congr :
    ((recordService around cs source f service).parts service.id).length =
      ((recordService around ds source f service).parts service.id).length := by
  have hparts : ((recordService around cs source f service).parts service.id).map Prod.fst =
      ((recordService around ds source f service).parts service.id).map Prod.fst := by
    -- Records of excluded parts may differ, but not whether they are there.
    apply map_fst_parts_congr
    intro k hk
    rw [Bool.eq_iff_iff, Option.isSome_iff_exists, Option.isSome_iff_exists]
    simp only [get?_recordService_child_eq_some_iff around _ source hdep hk,
      mem_partNames_congr hcounted (around.excluded_subset_services _)]
    simp
  simpa using congrArg List.length hparts

end Service

/-- On one server, excluded containers do not interfere. With a part that counts, the record of a
service and the records of its parts that count depend on nothing but the containers that count;
with a container that counts, so does the status of an application. -/
theorem excluded_do_not_interfere (f : Fleet) (around : Surroundings) (source : StatusSource)
    (cs ds : Containers) :
    (∀ service : Service, f.isDeploying (.service service.id) = false →
      let compose := around.compose service.composePath
      (cs.counted compose.excluded).Alike (ds.counted compose.excluded) →
      (∃ sub, CountedPart compose cs sub) →
        let g := recordService around cs source f service
        let h := recordService around ds source f service
        (∃ r, g.store.get? (.service service.id) = some r ∧
          h.store.get? (.service service.id) = some r) ∧
        ∀ sub, sub ∉ compose.excluded →
          g.store.get? (.part service.id sub) = h.store.get? (.part service.id sub) ∧
            ((g.store.get? (.part service.id sub)).isSome ↔ CountedPart compose cs sub)) ∧
    ∀ app : Application, f.isDeploying (.application app.id) = false →
      let excluded := (around.composeOptional app.composePath).excluded
      (cs.counted excluded).Alike (ds.counted excluded) →
      (cs.counted excluded).isEmpty = false →
        ∃ r r', (recordApplication around cs source f app).store.get? (.application app.id) =
            some r ∧
          (recordApplication around ds source f app).store.get? (.application app.id) = some r' ∧
          r.status = r'.status := by
  constructor
  · intro service hdep compose hcounted hsome g h
    refine ⟨⟨_, get?_recordService_self around cs source hdep, ?_⟩, fun sub hsub => ⟨?_, ?_⟩⟩
    · rw [get?_recordService_self around ds source hdep,
        rollup_parts_congr around source hdep hcounted hsome,
        length_parts_congr around source hdep hcounted]
    · exact get?_recordService_part_congr around source hdep hcounted hsub
    · simp [Option.isSome_iff_exists, g, get?_recordService_part_eq_some_iff around cs source hdep,
        mem_partNames, CountedPart, compose, hsub]
  · intro app hdep excluded hcounted hsome
    rw [recordApplication_of_not_deploying around cs source hdep,
      recordApplication_of_not_deploying around ds source hdep]
    exact ⟨_, _, Store.get?_insert_self _ _ _, Store.get?_insert_self _ _ _,
      Containers.evaluate_eq_of_counted hcounted hsome⟩

/-- A compose file that excludes the backups. -/
def backupCompose : String := "\"services\":\n  \"backup\":\n    \"restart\": \"no\"\n"

theorem parse_backupCompose : ComposeFile.parse backupCompose = ⟨["backup"], ["backup"]⟩ := by
  decide +kernel

/-- The compose file is there under one name. -/
def backupFiles : Surroundings :=
  ⟨fun path => if path = "backup.yml" then some backupCompose else none, 0⟩

theorem compose_backupFiles : backupFiles.compose "backup.yml" = ⟨["backup"], ["backup"]⟩ :=
  parse_backupCompose

/-- A container of the backup of a resource, which has been restarted before. -/
def backupContainer (id : String) (state : Lifecycle) : Observation where
  name := "backup-1"
  service := some "backup"
  state
  restartCount := some 3
  labels := [(resourceLabel, id), (composeServiceLabel, "backup")]

/-- Beside the container that counts, a backup that restarts again and again changes neither the
record of the service nor that of its part, nor the status of an application. -/
theorem excluded_do_not_interfere_shop :
    let f : Fleet := { settings := shopSettings }
    let mail : Service := { id := "mail", server := "edge-1", composePath := "backup.yml" }
    let shop : Application := { id := "shop", server := "edge-1", composePath := some "backup.yml" }
    let quiet : Containers := .observed [mailContainer]
    let noisy : Containers := .observed [backupContainer "shop" .restarting, mailContainer]
    let g := recordService backupFiles quiet .ssh f mail
    let h := recordService backupFiles noisy .ssh f mail
    (∃ r, g.store.get? (.service "mail") = some r ∧ h.store.get? (.service "mail") = some r) ∧
      (g.store.get? (.part "mail" "smtp") = h.store.get? (.part "mail" "smtp") ∧
        (g.store.get? (.part "mail" "smtp")).isSome) ∧
      ∃ r r', (recordApplication backupFiles quiet .ssh f shop).store.get? (.application "shop") =
          some r ∧
        (recordApplication backupFiles noisy .ssh f shop).store.get? (.application "shop") =
          some r' ∧
        r.status = r'.status := by
  intro f mail shop quiet noisy g h
  have hcompose : backupFiles.compose mail.composePath = ⟨["backup"], ["backup"]⟩ :=
    compose_backupFiles
  have hoptional : backupFiles.composeOptional shop.composePath = ⟨["backup"], ["backup"]⟩ :=
    compose_backupFiles
  have hcounted : (quiet.counted ["backup"]).Alike (noisy.counted ["backup"]) := .refl _
  obtain ⟨hservice, happlication⟩ := excluded_do_not_interfere f backupFiles .ssh quiet noisy
  have hsmtp : CountedPart ⟨["backup"], ["backup"]⟩ quiet "smtp" :=
    ⟨.inr ⟨_, .head _, rfl⟩, by decide⟩
  have hservice := hservice mail rfl
  rw [hcompose] at hservice
  obtain ⟨hself, hparts⟩ := hservice hcounted ⟨"smtp", hsmtp⟩
  obtain ⟨hpart, hmade⟩ := hparts "smtp" (by decide)
  have happlication := happlication shop rfl
  rw [hoptional] at happlication
  exact ⟨hself, ⟨hpart, hmade.mpr hsmtp⟩, happlication hcounted rfl⟩

/-! ## Applications on more than one server -/

/-- The placements that count in a rollup are known by their servers and records. -/
theorem mem_placedStatus_parts_iff {servers : List String} {ps : List (String × StatusRecord)}
    {record : String → StatusRecord}
    (hps : ∀ server r, (server, r) ∈ ps ↔ server ∈ servers ∧ r = record server)
    (part : String × Status) :
    (part ∈ ps.map (fun (server, r) => (server, r.status)) ∧
        part.1 ∉ (ps.filter fun (_, r) => r.allExcluded).map Prod.fst) ↔
      part.1 ∈ servers ∧ (record part.1).allExcluded = false ∧
        (record part.1).status = part.2 := by
  obtain ⟨server, s⟩ := part
  have hkey : ∀ p ∈ ps, ∀ q ∈ ps, p.1 = q.1 → p.2 = q.2 := by
    rintro ⟨server, r⟩ hp ⟨server', r'⟩ hq rfl
    rw [((hps server r).mp hp).2, ((hps server r').mp hq).2]
  constructor
  · rintro ⟨hpart, hcounts⟩
    obtain ⟨⟨server', r⟩, hr, heq⟩ := List.mem_map.mp hpart
    obtain ⟨rfl, rfl⟩ := Prod.mk.inj heq
    obtain ⟨hserver, rfl⟩ := (hps server' r).mp hr
    exact ⟨hserver, (not_mem_excludedServers_iff hkey hr).mp hcounts, rfl⟩
  · rintro ⟨hserver, hcounts, hs⟩
    have hr := (hps server _).mpr ⟨hserver, rfl⟩
    exact ⟨List.mem_map.mpr ⟨_, hr, Prod.ext rfl hs⟩,
      (not_mem_excludedServers_iff hkey hr).mpr hcounts⟩

theorem placedStatus_congr {servers : List String} {ps qs : List (String × StatusRecord)}
    {record record' : String → StatusRecord}
    (hps : ∀ server r, (server, r) ∈ ps ↔ server ∈ servers ∧ r = record server)
    (hqs : ∀ server r, (server, r) ∈ qs ↔ server ∈ servers ∧ r = record' server)
    (hflag : ∀ server ∈ servers, (record server).allExcluded = (record' server).allExcluded)
    (hstatus : ∀ server ∈ servers, (record server).allExcluded = false →
      (record server).status = (record' server).status)
    (hsome : ∃ server ∈ servers, (record server).allExcluded = false) :
    placedStatus ps = placedStatus qs := by
  apply Status.rollup_congr
  · intro part
    refine (mem_placedStatus_parts_iff hps part).trans
      (Iff.trans ?_ (mem_placedStatus_parts_iff hqs part).symm)
    refine and_congr_right fun hserver => ?_
    rw [← hflag _ hserver]
    exact and_congr_right fun hcounts => by rw [hstatus _ hserver hcounts]
  · obtain ⟨server, hserver, hcounts⟩ := hsome
    have hpart := (mem_placedStatus_parts_iff hps (server, (record server).status)).mpr
      ⟨hserver, hcounts, rfl⟩
    exact ⟨_, hpart.1, hpart.2⟩

/-- In a check of valid settings in which all servers of an application can be inspected, excluded
containers matter for its status by nothing but their presence on servers that show nothing else of
it. With a container that counts, two checks store the same status when the containers that count
are the same on every server, and the servers without any show something of the application in both
checks or in none. -/
theorem check_status_eq_of_counted {f : Fleet} (hvalid : f.settings.problems = [])
    (around : Surroundings) (now' : Nat) {app : Application}
    (happ : app ∈ f.settings.multiServerApplications)
    (hdep : f.isDeploying (.application app.id) = false) {inspect inspect' : Inspector}
    {shown shown' : String → List Observation} (hshown : f.Inspected inspect app shown)
    (hshown' : f.Inspected inspect' app shown') :
    let excluded := (around.composeOptional app.composePath).excluded
    let placed := fun name => (Snapshot.observed (shown name)).containers app.id
    let placed' := fun name => (Snapshot.observed (shown' name)).containers app.id
    (∀ name ∈ app.allServers,
      ((placed name).counted excluded).Alike ((placed' name).counted excluded)) →
    (∃ name ∈ app.allServers, ((placed name).counted excluded).isEmpty = false) →
    (∀ name ∈ app.allServers, ((placed name).counted excluded).isEmpty = true →
      (placed name).isEmpty = (placed' name).isEmpty) →
      ∃ r r', (f.check around inspect).1.store.get? (.application app.id) = some r ∧
        (f.check { around with now := now' } inspect').1.store.get? (.application app.id) =
          some r' ∧
        r.status = r'.status := by
  intro excluded placed placed' hcounted hsome hpresent
  obtain ⟨ps, hps, r, hr, hstatus⟩ :=
    check_status_of_inspected hvalid around happ hdep hshown
  obtain ⟨qs, hqs, r', hr', hstatus'⟩ :=
    check_status_of_inspected hvalid { around with now := now' } happ hdep hshown'
  refine ⟨r, r', hr, hr', ?_⟩
  rw [hstatus, hstatus']
  apply placedStatus_congr hps hqs
  · intro name hname
    exact Containers.allExcluded_eq_of_counted (hcounted name hname) (hpresent name hname)
  · intro name hname hflag
    exact Containers.evaluate_eq_of_not_allExcluded (hcounted name hname) (hpresent name hname)
      hflag
  · obtain ⟨name, hname, hcounts⟩ := hsome
    refine ⟨name, hname, ?_⟩
    change (placed name).allExcluded excluded = false
    rw [Containers.allExcluded_eq_counted, hcounts, Bool.and_false]

def backupApplication : Application where
  id := "shop"
  server := "edge-1"
  additionalServers := ["edge-2"]
  composePath := some "backup.yml"

def backupFleet : Fleet where
  settings := { shopSettings with applications := [backupApplication] }

/-- The first server shows the container of the shop, and either server some backups. -/
def backupShown (first second : List Observation) (name : String) : List Observation :=
  if name = "edge-1" then shopContainer :: first else second

def backupInspector (first second : List Observation) : Inspector :=
  fun server => .ok (backupShown first second server.name)

theorem inspected_backupInspector (first second : List Observation) :
    backupFleet.Inspected (backupInspector first second) backupApplication
      (backupShown first second) := by
  intro name _ server hserver
  rw [← Settings.name_of_server? hserver]
  rfl

theorem forall_mem_allServers_shop {p : String → Prop} :
    (∀ name ∈ backupApplication.allServers, p name) ↔ p "edge-1" ∧ p "edge-2" := by
  simp [backupApplication, Application.allServers]

/-- Whether the backups run or restart again and again makes no difference for the shop. -/
theorem check_status_eq_of_counted_shop :
    let quiet := backupInspector [] [backupContainer "shop" .running]
    let noisy := backupInspector [backupContainer "shop" .dead] [backupContainer "shop" .restarting]
    ∃ r r', (backupFleet.check backupFiles quiet).1.store.get? (.application "shop") = some r ∧
      (backupFleet.check { backupFiles with now := 1 } noisy).1.store.get? (.application "shop") =
        some r' ∧
      r.status = r'.status := by
  intro quiet noisy
  have hvalid : backupFleet.settings.problems = [] := by decide
  have hoptional : backupFiles.composeOptional backupApplication.composePath =
    ⟨["backup"], ["backup"]⟩ := compose_backupFiles
  have happ : backupApplication ∈ backupFleet.settings.multiServerApplications := by decide
  have heq := check_status_eq_of_counted hvalid backupFiles 1 happ rfl
    (inspected_backupInspector [] [backupContainer "shop" .running])
    (inspected_backupInspector [backupContainer "shop" .dead] [backupContainer "shop" .restarting])
  rw [hoptional] at heq
  exact heq (forall_mem_allServers_shop.mpr ⟨.refl _, .refl _⟩) ⟨"edge-1", .head _, rfl⟩
    (forall_mem_allServers_shop.mpr ⟨fun _ => rfl, fun _ => rfl⟩)

/-- Presence on a server that shows nothing else does matter. With the one container of the shop on
the first server and nothing on the second, the second placement is as good as exited; a backup on
the second server has it left out. In both checks the same container counts. -/
theorem excluded_placement_decides_shop :
    let placed := fun second name =>
      (Snapshot.observed (backupShown [] second name)).containers "shop"
    let check := fun second => (backupFleet.check backupFiles (backupInspector [] second)).1
    (backupFleet.settings.problems = [] ∧
      backupApplication ∈ backupFleet.settings.multiServerApplications ∧
      backupFleet.isDeploying (.application "shop") = false ∧
      (∀ second, backupFleet.Inspected (backupInspector [] second) backupApplication
        (backupShown [] second)) ∧
      (backupFiles.composeOptional backupApplication.composePath).excluded = ["backup"] ∧
      (∀ name ∈ backupApplication.allServers,
        ((placed [] name).counted ["backup"]).Alike
          ((placed [backupContainer "shop" .running] name).counted ["backup"])) ∧
      ((placed [] "edge-1").counted ["backup"]).isEmpty = false) ∧
    ((check []).store.get? (.application "shop")).map StatusRecord.status = some .degraded ∧
    ((check [backupContainer "shop" .running]).store.get? (.application "shop")).map
      StatusRecord.status = some (.running .healthy) := by
  intro placed check
  have hoptional : backupFiles.composeOptional backupApplication.composePath =
    ⟨["backup"], ["backup"]⟩ := compose_backupFiles
  -- There is one application to check, and its compose file is known.
  have hcheck : ∀ second, (check second).store =
      (checkApplication backupFiles
        (snapshots (backupInspector [] second) backupFleet.checkTargets) backupFleet
        backupApplication).store := by
    have happs : backupFleet.settings.multiServerApplications = [backupApplication] := rfl
    intro second
    simp only [check, Fleet.check, happs, List.foldl_cons, List.foldl_nil, List.isEmpty_cons]
    rfl
  refine ⟨⟨by decide, by decide, rfl, inspected_backupInspector [], ?_, ?_, rfl⟩, ?_, ?_⟩
  · rw [hoptional]
  · exact forall_mem_allServers_shop.mpr ⟨.refl _, .refl _⟩
  all_goals
    rw [hcheck, checkApplication_of_not_deploying _ _ rfl]
    unfold withPlacements
    simp only [hoptional]
    decide +kernel

end Fleet

end FleetWatch
