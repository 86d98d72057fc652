import FleetWatch.Proofs.Noninterference

/-! # Excluded containers raise no alert

A resource of which nothing but excluded containers is seen is never shown as unhealthy, and neither
are its parts or placements. Whatever excluded containers say is tagged, or it is `exited`. Parts
and placements that are not excluded are empty then, and what is empty counts as `exited`; a rollup
of such parts is `exited` again.
-/

namespace FleetWatch

namespace Status

/-- The tag takes the alert away from every outcome. -/
theorem isUnhealthy_forExcluded_ofTokens (ts : List StatusToken) (maxRestarts : Int) :
    (ofTokens ts maxRestarts).forExcluded.isUnhealthy = false := by
  obtain h | h | h | h | ⟨q, h⟩ := ofTokens_cases ts maxRestarts <;> rw [h] <;> rfl

theorem isUnhealthy_ofExcludedSightings (seen : List Sighting) :
    (ofExcludedSightings seen).isUnhealthy = false := by
  unfold ofExcludedSightings
  split
  · rfl
  · exact isUnhealthy_forExcluded_ofTokens _ _

theorem isUnhealthy_evaluateSightings {seen : List Sighting} {excluded : List String}
    (h : ∀ s ∈ seen, s.name ∈ excluded) :
    (evaluateSightings seen excluded).isUnhealthy = false := by
  cases seen with
  | nil => rfl
  | cons s rest =>
      rw [evaluateSightings_of_excluded (List.cons_ne_nil s rest) h]
      exact isUnhealthy_ofExcludedSightings _

/-- All that is read back of parts that have exited is the one token. -/
theorem mem_counted_tokens_iff {parts : List (String × Status)} {excluded : List String}
    (hsome : ∃ p ∈ parts, p.1 ∉ excluded) (h : ∀ p ∈ parts, p.1 ∉ excluded → p.2 = exited)
    (t : StatusToken) :
    t ∈ ((parts.filter fun (name, _) => !excluded.contains name).map
      fun (_, s) => s.text).filterMap StatusToken.parse? ↔ t ∈ exited.token?.toList := by
  simp only [List.mem_filterMap, List.mem_map, List.mem_filter, Bool.not_eq_true',
    List.contains_eq_mem, decide_eq_false_iff_not, Option.mem_toList]
  constructor
  · rintro ⟨_, ⟨p, hp, rfl⟩, ht⟩
    rwa [h p hp.1 hp.2, parse?_text] at ht
  · intro ht
    obtain ⟨p, hp⟩ := hsome
    exact ⟨_, ⟨p, hp, rfl⟩, by rwa [h p hp.1 hp.2, parse?_text]⟩

/-- Parts that have exited make up a whole that has exited, since no restarts are counted. -/
theorem rollup_eq_exited {parts : List (String × Status)} {excluded : List String}
    (hsome : ∃ p ∈ parts, p.1 ∉ excluded) (h : ∀ p ∈ parts, p.1 ∉ excluded → p.2 = exited) :
    rollup parts excluded = exited := by
  rw [rollup_of_counted hsome, ofTexts, ofTokens_congr (mem_counted_tokens_iff hsome h)]
  rfl

/-- A whole of which every part that counts has exited raises no alert, whatever the parts say that
do not count. -/
theorem isUnhealthy_rollup {parts : List (String × Status)} {excluded : List String}
    (h : ∀ p ∈ parts, p.1 ∉ excluded → p.2 = exited) :
    (rollup parts excluded).isUnhealthy = false := by
  by_cases hsome : ∃ p ∈ parts, p.1 ∉ excluded
  · rw [rollup_eq_exited hsome h]
    rfl
  · -- Nothing counts, so the parts are evaluated as excluded containers are.
    rw [rollup_eq]
    apply isUnhealthy_evaluateSightings
    intro s hs
    obtain ⟨p, hp, rfl⟩ := List.mem_map.mp hs
    by_contra hname
    exact hsome ⟨p, hp, hname⟩

end Status

namespace Containers

variable {cs : Containers} {excluded : List String}

theorem isUnhealthy_evaluateExcluded (cs : Containers) (excluded : List String) :
    (cs.evaluateExcluded excluded).isUnhealthy = false := by
  rw [evaluateExcluded_eq]
  exact Status.isUnhealthy_ofExcludedSightings _

section OnlyExcluded

variable (h : cs.names ⊆ excluded)
include h

theorem name_mem_excluded {c : Sighting} (hc : c ∈ cs.sightings) : c.name ∈ excluded := by
  rw [names_eq] at h
  exact h (List.mem_map_of_mem hc)

theorem isUnhealthy_evaluate : (cs.evaluate excluded).isUnhealthy = false := by
  rw [evaluate_eq]
  exact Status.isUnhealthy_evaluateSightings fun c hc => name_mem_excluded h hc

theorem evaluate_named_eq_exited {name : String} (hname : name ∉ excluded) :
    (cs.named name).evaluate excluded = .exited := by
  apply evaluate_of_isEmpty
  rw [isEmpty_eq, List.isEmpty_iff, List.eq_nil_iff_forall_not_mem]
  intro c hc
  obtain ⟨hmem, rfl⟩ := mem_sightings_named.mp hc
  exact hname (name_mem_excluded h hmem)

/-- Containers none of which counts, and which are not excluded as a whole, are none at all. -/
theorem evaluate_eq_exited (hflag : cs.allExcluded excluded = false) :
    cs.evaluate excluded = .exited := by
  apply evaluate_of_isEmpty
  rw [isEmpty_eq, List.isEmpty_iff]
  obtain hnone | ⟨c, hc, hname⟩ := (allExcluded_eq_false_iff cs excluded).mp hflag
  · exact hnone
  · exact absurd (name_mem_excluded h hc) hname

end OnlyExcluded

end Containers

namespace Fleet

/-- A resource has a record, and no record of it and its parts or placements calls for an alert. -/
def Quiet (f : Fleet) (key : ResourceKey) : Prop :=
  (∃ r, f.store.get? key = some r) ∧
    ∀ k, k.owner = key → ∀ r, f.store.get? k = some r → r.status.isUnhealthy = false

namespace Quiet

variable {f g : Fleet} {key : ResourceKey}

theorem of_children {r : StatusRecord} (hkey : key.owner = key)
    (hself : f.store.get? key = some r) (hr : r.status.isUnhealthy = false)
    (hchild : ∀ k, k.isChildOf key = true → ∀ r, f.store.get? k = some r →
      r.status.isUnhealthy = false) : f.Quiet key := by
  refine ⟨⟨r, hself⟩, fun k hk s hs => ?_⟩
  cases htop : k.isTopLevel with
  | true =>
      obtain rfl := (ResourceKey.isTopLevel_iff.mp htop).symm.trans hk
      obtain rfl := Option.some.inj (hself.symm.trans hs)
      exact hr
  | false => exact hchild k (ResourceKey.isChildOf_iff.mpr ⟨htop, hk.trans hkey.symm⟩) s hs

theorem congr (hf : f.Quiet key) (hkey : key.owner = key)
    (h : ∀ k, k.owner = key → g.store.get? k = f.store.get? k) : g.Quiet key := by
  refine ⟨?_, fun k hk r hr => hf.2 k hk r ((h k hk).symm.trans hr)⟩
  rw [h key hkey]
  exact hf.1

end Quiet

/-! ## Resources on one server -/

section Service

variable {compose : ComposeFile} {containers : Containers}

theorem partRecord_status_eq_exited (h : containers.names ⊆ compose.excluded)
    (source : StatusSource) (now : Nat) {sub : String} (hsub : sub ∉ compose.excluded) :
    (partRecord compose containers source now sub).status = .exited := by
  simpa [partRecord, hsub] using Containers.evaluate_named_eq_exited h hsub

theorem isUnhealthy_partRecord (h : containers.names ⊆ compose.excluded)
    (source : StatusSource) (now : Nat) (sub : String) :
    (partRecord compose containers source now sub).status.isUnhealthy = false := by
  by_cases hsub : sub ∈ compose.excluded
  · simpa [partRecord, hsub] using
      Containers.isUnhealthy_evaluateExcluded (containers.named sub) compose.excluded
  · rw [partRecord_status_eq_exited h source now hsub]
    rfl

theorem quiet_recordService (around : Surroundings) (source : StatusSource) {f : Fleet}
    {service : Service} (hdep : f.isDeploying (.service service.id) = false)
    (h : containers.names ⊆ (around.compose service.composePath).excluded) :
    (recordService around containers source f service).Quiet (.service service.id) := by
  refine .of_children rfl (get?_recordService_self around containers source hdep) ?_ ?_
  · apply Status.isUnhealthy_rollup
    intro p hp hname
    obtain ⟨sub, -, rfl⟩ := (mem_parts_recordService around containers source hdep p).mp hp
    exact partRecord_status_eq_exited h source around.now hname
  · intro k hk r hr
    obtain ⟨sub, -, -, rfl⟩ :=
      (get?_recordService_child_eq_some_iff around containers source hdep hk).mp hr
    exact isUnhealthy_partRecord h source around.now sub

end Service

/-! ## Applications on more than one server -/

theorem isUnhealthy_placedStatus {placements : List (String × StatusRecord)}
    (hkey : ∀ p ∈ placements, ∀ q ∈ placements, p.1 = q.1 → p.2 = q.2)
    (h : ∀ p ∈ placements, p.2.allExcluded = false → p.2.status = .exited) :
    (placedStatus placements).isUnhealthy = false := by
  apply Status.isUnhealthy_rollup
  intro part hpart hname
  obtain ⟨p, hp, rfl⟩ := List.mem_map.mp hpart
  exact h p hp ((not_mem_excludedServers_iff hkey hp).mp hname)

theorem quiet_check {f : Fleet} (hvalid : f.settings.problems = []) (around : Surroundings)
    {inspect : Inspector} {app : Application} (happ : app ∈ f.settings.multiServerApplications)
    (hdep : f.isDeploying (.application app.id) = false) {shown : String → List Observation}
    (hshown : f.Inspected inspect app shown)
    (h : ∀ name ∈ app.allServers, ((Snapshot.observed (shown name)).containers app.id).names ⊆
      (around.composeOptional app.composePath).excluded) :
    (f.check around inspect).1.Quiet (.application app.id) := by
  obtain ⟨placements, hplacements, r, hr, hstatus⟩ :=
    check_status_of_inspected hvalid around happ hdep hshown
  refine .of_children rfl hr ?_ fun k hk r' hr' => ?_
  · rw [hstatus]
    apply isUnhealthy_placedStatus
    · rintro ⟨name, r⟩ hp ⟨name', r'⟩ hp' rfl
      rw [((hplacements name r).mp hp).2, ((hplacements name r').mp hp').2]
    · rintro ⟨name, r⟩ hp hflag
      obtain ⟨hname, rfl⟩ := (hplacements name r).mp hp
      exact Containers.evaluate_eq_exited (h name hname) hflag
  · obtain ⟨name, hname, -, rfl⟩ :=
      (get?_check_child_of_inspected hvalid around happ hdep hshown hk).mp hr'
    exact Containers.isUnhealthy_evaluate (h name hname)

/-- With valid settings, a resource that is not being deployed raises no alert when every container
seen of it is excluded, or none is seen. After a snapshot of its server, a service and its parts are
quiet, and so is an application, whose children are left alone; an application on more than one
server is quiet with its placements after a check in which all its servers could be inspected. -/
theorem excluded_only_never_alerts {f : Fleet} (hvalid : f.settings.problems = [])
    (around : Surroundings) :
    (∀ (server : String) (snapshot : Snapshot) (source : StatusSource),
      let g := f.applySnapshot around server snapshot source
      (∀ service ∈ f.servicesOn server, f.isDeploying (.service service.id) = false →
        (snapshot.containers service.id).names ⊆ (around.compose service.composePath).excluded →
          g.Quiet (.service service.id)) ∧
      ∀ app ∈ f.applicationsOn server, f.isDeploying (.application app.id) = false →
        (snapshot.containers app.id).names ⊆ (around.composeOptional app.composePath).excluded →
          (∃ r, g.store.get? (.application app.id) = some r ∧ r.status.isUnhealthy = false) ∧
          ∀ k, k.isChildOf (.application app.id) = true → g.store.get? k = f.store.get? k) ∧
    ∀ (inspect : Inspector) (shown : String → List Observation),
      ∀ app ∈ f.settings.multiServerApplications, f.isDeploying (.application app.id) = false →
        f.Inspected inspect app shown →
        (∀ name ∈ app.allServers, ((Snapshot.observed (shown name)).containers app.id).names ⊆
          (around.composeOptional app.composePath).excluded) →
          (f.check around inspect).1.Quiet (.application app.id) := by
  refine ⟨fun server snapshot source => ⟨?_, ?_⟩, ?_⟩
  · intro service hservice hdep h
    obtain ⟨g, hdeploying, -, hg⟩ :=
      applySnapshot_isolated_service hvalid around snapshot source hservice
    have hdep' : g.isDeploying (.service service.id) = false := by
      rwa [isDeploying, hdeploying]
    exact (quiet_recordService around source hdep' h).congr rfl hg
  · intro app happ hdep h
    obtain ⟨g, hdeploying, hbefore, hg⟩ :=
      applySnapshot_isolated_application hvalid around snapshot source happ
    have hdep' : g.isDeploying (.application app.id) = false := by
      rwa [isDeploying, hdeploying]
    rw [recordApplication_of_not_deploying around _ source hdep'] at hg
    -- An application on one server has one record written, its own.
    refine ⟨⟨_, (hg _ rfl).trans (Store.get?_insert_self _ _ _),
      Containers.isUnhealthy_evaluate h⟩, fun k hk => ?_⟩
    have howner := (ResourceKey.isChildOf_iff.mp hk).2
    rw [hg k howner, store_record, Store.get?_insert_of_ne _ _
      (ResourceKey.ne_of_isChildOf hk (ResourceKey.isTopLevel_application _)), hbefore k howner]
  · intro inspect shown app happ hdep hshown h
    exact quiet_check hvalid around happ hdep hshown h

def nightService : Service := { id := "mail", server := "edge-1", composePath := "backup.yml" }

def nightApplication : Application :=
  { id := "wiki", server := "edge-1", composePath := some "backup.yml" }

def nightFleet : Fleet where
  settings :=
    { shopSettings with
      applications := [backupApplication, nightApplication], services := [nightService] }

def nightShown : List Observation :=
  ["shop", "mail", "wiki"].map fun id => backupContainer id .restarting

/-- The backups restart again and again, and no one is woken. -/
theorem excluded_only_never_alerts_night :
    let g := nightFleet.applySnapshot backupFiles "edge-1" (.observed nightShown) .ssh
    let h := (nightFleet.check backupFiles fun _ => .ok nightShown).1
    g.Quiet (.service "mail") ∧
      (∃ r, g.store.get? (.application "wiki") = some r ∧ r.status.isUnhealthy = false) ∧
      h.Quiet (.application "shop") := by
  intro g h
  have hvalid : nightFleet.settings.problems = [] := by decide
  have hnames : ∀ id ∈ ["shop", "mail", "wiki"],
      ((Snapshot.observed nightShown).containers id).names ⊆
        (backupFiles.compose "backup.yml").excluded := by
    rw [compose_backupFiles]
    decide
  have hservice : nightService ∈ nightFleet.servicesOn "edge-1" := by decide
  have happlication : nightApplication ∈ nightFleet.applicationsOn "edge-1" := by decide
  have happ : backupApplication ∈ nightFleet.settings.multiServerApplications := by decide
  have hshown : nightFleet.Inspected (fun _ => .ok nightShown) backupApplication
      fun _ => nightShown := fun _ _ _ _ => rfl
  obtain ⟨hsnapshot, hcheck⟩ := excluded_only_never_alerts hvalid backupFiles
  obtain ⟨hservices, happlications⟩ := hsnapshot "edge-1" (.observed nightShown) .ssh
  refine ⟨hservices nightService hservice rfl (hnames "mail" (by decide)), ?_, ?_⟩
  · exact (happlications nightApplication happlication rfl (hnames "wiki" (by decide))).1
  · exact hcheck _ _ backupApplication happ rfl hshown fun _ _ => hnames "shop" (by decide)

end Fleet

end FleetWatch
