import FleetWatch.Proofs.Agreement
import FleetWatch.Proofs.Coverage
import FleetWatch.Proofs.Noninterference
import Mathlib.Data.List.Dedup
import Mathlib.Data.String.Basic

/-! # What is counted

Every container that is listed on a server is counted once, for the resource that it is labelled
with. An application counts the containers with its label. The parts of a service share those with
its label among them by the names they go by, so that none is lost and none is counted for two
parts. An application on more than one server has a placement on each of them, however often the
server is named.
-/

namespace FleetWatch

/-! ## Sets of names -/

theorem pairwise_insertName {names : List String} (name : String)
    (h : names.Pairwise (· < ·)) : (insertName name names).Pairwise (· < ·) := by
  induction names with
  | nil => exact List.pairwise_singleton _ _
  | cons first rest ih =>
      obtain ⟨hfirst, hrest⟩ := List.pairwise_cons.mp h
      unfold insertName
      split
      next hlt =>
        refine List.pairwise_cons.mpr ⟨fun other hother => ?_, h⟩
        rcases List.mem_cons.mp hother with rfl | hother
        · exact hlt
        · exact hlt.trans (hfirst other hother)
      next hlt =>
        split
        next => exact h
        next hne =>
          refine List.pairwise_cons.mpr ⟨fun other hother => ?_, ih hrest⟩
          rcases mem_insertName.mp hother with rfl | hother
          · exact lt_of_le_of_ne (not_lt.mp hlt) (Ne.symm hne)
          · exact hfirst other hother

theorem nodup_distinctSorted (names : List String) : (distinctSorted names).Nodup := by
  have hsorted : (distinctSorted names).Pairwise (· < ·) := by
    induction names with
    | nil => exact .nil
    | cons name rest ih => exact pairwise_insertName name ih
  exact hsorted.imp ne_of_lt

/-! ## Listed containers -/

/-- What counting sees of a listed container. -/
structure Listed where
  /-- The resource that the container is labelled with. -/
  resource : Option String
  /-- The name the container goes by: its compose service, or its own name. -/
  name : String
  deriving DecidableEq, Repr

def Observation.listed (c : Observation) : Listed :=
  ⟨c.labels.get? resourceLabel, c.service.getD c.name⟩

def AgentContainer.listed (c : AgentContainer) : Listed :=
  ⟨c.labels.get? resourceLabel, (c.labels.get? composeServiceLabel).getD c.name⟩

namespace Snapshot

def listed : Snapshot → List Listed
  | observed os => os.map Observation.listed
  | reported rs => rs.map AgentContainer.listed

/-- How many of the listed containers are labelled with a resource. -/
def labelled (s : Snapshot) (id : String) : Nat := s.listed.countP (·.resource == some id)

/-- How many of the containers labelled with a resource go by a name. -/
def labelledAs (s : Snapshot) (id name : String) : Nat := s.listed.count ⟨some id, name⟩

/-- The containers of a resource are those labelled with it. -/
theorem names_containers (s : Snapshot) (id : String) :
    (s.containers id).names = (s.listed.filter (·.resource == some id)).map Listed.name := by
  cases s <;> simp only [containers, Containers.names, listed, List.filter_map, List.map_map] <;>
    rfl

theorem mem_names_containers {s : Snapshot} {id name : String} :
    name ∈ (s.containers id).names ↔ (⟨some id, name⟩ : Listed) ∈ s.listed := by
  rw [names_containers, List.mem_map]
  constructor
  · rintro ⟨⟨resource, _⟩, hmem, rfl⟩
    obtain ⟨hmem, hresource⟩ := List.mem_filter.mp hmem
    obtain rfl : resource = some id := by simpa using hresource
    exact hmem
  · exact fun hmem => ⟨_, List.mem_filter.mpr ⟨hmem, by simp⟩, rfl⟩

theorem length_names_containers (s : Snapshot) (id : String) :
    (s.containers id).names.length = s.labelled id := by
  rw [names_containers, List.length_map, labelled, List.countP_eq_length_filter]

theorem count_names_containers (s : Snapshot) (id name : String) :
    (s.containers id).names.count name = s.labelledAs id name := by
  rw [names_containers, List.count, List.countP_map, List.countP_filter, labelledAs, List.count]
  apply List.countP_congr
  rintro ⟨resource, other⟩ -
  simp [and_comm]

theorem count_containers (s : Snapshot) (id : String) :
    (s.containers id).count = s.labelled id := by
  rw [← length_names_containers, Containers.names_eq, List.length_map, Containers.count_eq]

theorem count_named_containers (s : Snapshot) (id name : String) :
    ((s.containers id).named name).count = s.labelledAs id name := by
  rw [← count_names_containers, Containers.names_eq, Containers.count_eq,
    Containers.sightings_named, List.count, List.countP_map, List.countP_eq_length_filter]
  rfl

end Snapshot

/-- The compose service of a container that was read is the one in its labels. -/
theorem Observation.name_listed_of_parseAll {output : String} {os : List Observation}
    {notices : List Warning} (h : parseAll output = .ok (os, notices)) {c : Observation}
    (hc : c ∈ os) : c.listed.name = (c.labels.get? composeServiceLabel).getD c.name := by
  obtain ⟨records, -, hos⟩ : ∃ records, Inspect.records output = .ok records ∧
      (records.filterMap Inspect.Record.observation?,
        records.filterMap Inspect.Record.notice?) = (os, notices) := by
    rw [parseAll] at h
    cases hrecords : Inspect.records output with
    | error fault =>
        rw [hrecords] at h
        cases h
    | ok records =>
        rw [hrecords] at h
        exact ⟨records, rfl, Except.ok.inj h⟩
  obtain ⟨rfl, -⟩ := Prod.mk.inj hos
  obtain ⟨record, -, hrecord⟩ := List.mem_filterMap.mp hc
  rw [listed, Inspect.Record.service_of_observation? hrecord]

/-! ## Children by name -/

namespace Store

section Children

variable {s : Store} {parent : ResourceKey} {names : List String} {key : String → ResourceKey}
  {record : String → StatusRecord} (hnames : names.Nodup) (hkey : Function.Injective key)
  (hparent : ∀ name, (key name).isChildOf parent = true)
  (hchildren : ∀ k, k.isChildOf parent = true → ∀ r,
    s.get? k = some r ↔ ∃ name ∈ names, k = key name ∧ r = record name)
include hnames hkey hparent hchildren

theorem children_perm :
    (s.children parent).Perm (names.map fun name => (key name, record name)) := by
  have hnodup : (s.children parent).Nodup := s.nodup_entries.filter _
  have hinjective : Function.Injective fun name => (key name, record name) := fun _ _ heq =>
    hkey (Prod.mk.inj heq).1
  rw [List.perm_ext_iff_of_nodup hnodup (hnames.map hinjective)]
  rintro ⟨k, r⟩
  rw [mem_children_iff, List.mem_map]
  constructor
  · rintro ⟨hget, hchild⟩
    obtain ⟨name, hname, rfl, rfl⟩ := (hchildren k hchild r).mp hget
    exact ⟨name, hname, rfl⟩
  · rintro ⟨name, hname, heq⟩
    obtain ⟨rfl, rfl⟩ := Prod.mk.inj heq
    exact ⟨(hchildren _ (hparent name) _).mpr ⟨name, hname, rfl, rfl⟩, hparent name⟩

/-- What the children count together. -/
theorem total_children :
    total ((s.children parent).map fun e => e.2.containerCount) =
      total (names.map fun name => (record name).containerCount) := by
  have hperm := (children_perm hnames hkey hparent hchildren).map fun e => e.2.containerCount
  rw [List.map_map] at hperm
  exact hperm.sum_nat

end Children

/-- The stored parts of a service are those declared and those that the listed containers make up;
each counts the containers that go by its name, and together they count all of them. -/
structure CountsParts (s : Store) (id : String) (declared : List String) (snapshot : Snapshot) :
    Prop where
  isSome_iff : ∀ k, k.isChildOf (.service id) = true → ((s.get? k).isSome = true ↔
    ∃ sub, k = .part id sub ∧ (sub ∈ declared ∨ (⟨some id, sub⟩ : Listed) ∈ snapshot.listed))
  count_eq : ∀ sub r, s.get? (.part id sub) = some r →
    r.containerCount = snapshot.labelledAs id sub
  total_eq : total ((s.children (.service id)).map fun e => e.2.containerCount) =
    snapshot.labelled id

theorem CountsParts.congr {s t : Store} {id : String} {declared : List String}
    {snapshot : Snapshot} (h : s.CountsParts id declared snapshot)
    (hget : ∀ k, k.owner = .service id → t.get? k = s.get? k) :
    t.CountsParts id declared snapshot where
  isSome_iff k hk := by
    rw [hget k (ResourceKey.isChildOf_iff.mp hk).2]
    exact h.isSome_iff k hk
  count_eq sub r hr := h.count_eq sub r (by rwa [← hget _ rfl])
  total_eq := by
    rw [children_congr_of_family rfl hget]
    exact h.total_eq

/-- The stored placements of an application are those on its servers; each counts the containers of
its server, and the application counts those of all its servers, each server once. -/
structure CountsPlacements (s : Store) (app : Application) (shown : String → Snapshot) :
    Prop where
  isSome_iff : ∀ k, k.isChildOf (.application app.id) = true → ((s.get? k).isSome = true ↔
    ∃ server ∈ app.allServers, k = .placement app.id server)
  count_eq : ∀ server r, s.get? (.placement app.id server) = some r →
    r.containerCount = (shown server).labelled app.id
  total_eq : ∃ r, s.get? (.application app.id) = some r ∧ r.containerCount =
    total (app.allServers.dedup.map fun server => (shown server).labelled app.id)

end Store

namespace Fleet

/-! ## Services -/

theorem countsParts_recordService (around : Surroundings) (snapshot : Snapshot)
    (source : StatusSource) {f : Fleet} {service : Service}
    (hdep : f.isDeploying (.service service.id) = false) :
    (recordService around (snapshot.containers service.id) source f service).store.CountsParts
      service.id (around.compose service.composePath).services snapshot := by
  have hchildren := fun k hk r => get?_recordService_child_eq_some_iff around
    (snapshot.containers service.id) source hdep (k := k) hk (r := r)
  have hnames : ∀ sub, sub ∈ partNames (around.compose service.composePath)
      (snapshot.containers service.id) ↔ sub ∈ (around.compose service.composePath).services ∨
        (⟨some service.id, sub⟩ : Listed) ∈ snapshot.listed := fun sub => by
    rw [partNames, mem_distinctSorted, List.mem_append, Snapshot.mem_names_containers]
  constructor
  case isSome_iff =>
    intro k hk
    rw [Option.isSome_iff_exists]
    constructor
    · rintro ⟨r, hr⟩
      obtain ⟨sub, hsub, hkey, -⟩ := (hchildren k hk r).mp hr
      exact ⟨sub, hkey, (hnames sub).mp hsub⟩
    · rintro ⟨sub, hkey, hsub⟩
      exact ⟨_, (hchildren k hk _).mpr ⟨sub, (hnames sub).mpr hsub, hkey, rfl⟩⟩
  case count_eq =>
    intro sub r hr
    obtain ⟨-, rfl⟩ := (get?_recordService_part_eq_some_iff around _ source hdep).mp hr
    exact snapshot.count_named_containers service.id sub
  case total_eq =>
    have hall : ∀ name ∈ (snapshot.containers service.id).names,
        name ∈ partNames (around.compose service.composePath) (snapshot.containers service.id) :=
      fun name hname => (hnames name).mpr (.inr (Snapshot.mem_names_containers.mp hname))
    calc total (((recordService around (snapshot.containers service.id) source f
            service).store.children (.service service.id)).map fun e => e.2.containerCount)
        = total ((partNames (around.compose service.composePath)
            (snapshot.containers service.id)).map
              fun sub => (snapshot.containers service.id).names.count sub) := by
          rw [Store.total_children (nodup_distinctSorted _)
            (fun _ _ heq => (ResourceKey.part_inj.mp heq).2)
            (ResourceKey.part_isChildOf service.id) hchildren]
          congr 1
          apply List.map_congr_left
          intro sub _
          rw [snapshot.count_names_containers]
          exact snapshot.count_named_containers service.id sub
      _ = (snapshot.containers service.id).names.length :=
          total_map_count (nodup_distinctSorted _) hall
      _ = snapshot.labelled service.id := snapshot.length_names_containers service.id

/-! ## What one server shows -/

/-- A fleet counts what a server has shown, for each resource on this server that is not being
deployed in another fleet. -/
structure Counted (f g : Fleet) (around : Surroundings) (server : String) (snapshot : Snapshot) :
    Prop where
  application : ∀ app ∈ f.applicationsOn server, f.isDeploying (.application app.id) = false →
    ∃ r, g.store.get? (.application app.id) = some r ∧
      r.containerCount = snapshot.labelled app.id
  service : ∀ service ∈ f.servicesOn server, f.isDeploying (.service service.id) = false →
    g.store.CountsParts service.id (around.compose service.composePath).services snapshot

theorem counted_applySnapshot {f : Fleet} (hvalid : f.settings.problems = [])
    (around : Surroundings) (server : String) (snapshot : Snapshot) (source : StatusSource) :
    Counted f (f.applySnapshot around server snapshot source) around server snapshot where
  application app happ hdep := by
    obtain ⟨g, hdeploying, -, hg⟩ :=
      applySnapshot_isolated_application hvalid around snapshot source happ
    have hdep' := (isDeploying_congr hdeploying (.application app.id)).trans hdep
    rw [hg _ rfl, recordApplication_of_not_deploying around _ source hdep', store_record,
      Store.get?_insert_self]
    exact ⟨_, rfl, snapshot.count_containers app.id⟩
  service service hservice hdep := by
    obtain ⟨g, hdeploying, -, hg⟩ :=
      applySnapshot_isolated_service hvalid around snapshot source hservice
    have hdep' := (isDeploying_congr hdeploying (.service service.id)).trans hdep
    exact (countsParts_recordService around snapshot source hdep').congr hg

theorem counted_pollInOrder {f : Fleet} (hvalid : f.settings.problems = [])
    (around : Surroundings) {inspect : Inspector} {order : List Server}
    (horder : order.Perm f.settings.servers) {server : Server}
    (hserver : server ∈ f.settings.servers) {shown : List Observation}
    (hshown : inspect server = .ok shown) :
    Counted f (f.pollInOrder around inspect order).1 around server.name (.observed shown) where
  application app happ hdep := by
    obtain ⟨hmem, hon⟩ := mem_applicationsOn.mp happ
    obtain ⟨g, hg, hdeploying, hpoll⟩ := pollInOrder_isolated hvalid around horder hserver hshown
      (.inl ⟨app, hmem, hon, rfl⟩)
    have hcounted := counted_applySnapshot (hg ▸ hvalid) around server.name (.observed shown) .ssh
    rw [hpoll _ rfl]
    exact hcounted.application app (mem_applicationsOn.mpr ⟨hg ▸ hmem, hon⟩)
      ((isDeploying_congr hdeploying _).trans hdep)
  service service hservice hdep := by
    obtain ⟨hmem, hon⟩ := mem_servicesOn.mp hservice
    obtain ⟨g, hg, hdeploying, hpoll⟩ := pollInOrder_isolated hvalid around horder hserver hshown
      (.inr ⟨service, hmem, hon, rfl⟩)
    have hcounted := counted_applySnapshot (hg ▸ hvalid) around server.name (.observed shown) .ssh
    exact (hcounted.service service (mem_servicesOn.mpr ⟨hg ▸ hmem, hon⟩)
      ((isDeploying_congr hdeploying _).trans hdep)).congr hpoll

theorem counted_report {f : Fleet} (hvalid : f.settings.problems = []) (around : Surroundings)
    (r : AgentReport) :
    Counted f (f.report around r).1 around r.server (.reported r.containers) := by
  unfold report
  split
  next hunknown =>
    -- No resource of valid settings is on a server that is not configured.
    refine ⟨fun app happ => ?_, fun service hservice => ?_⟩
    · obtain ⟨hmem, hon, -⟩ := mem_applicationsOn.mp happ
      have hknown := Settings.server?_isSome_of_application hvalid hmem List.mem_cons_self
      simp [hon, hunknown] at hknown
    · obtain ⟨hmem, hon⟩ := mem_servicesOn.mp hservice
      have hknown := Settings.server?_isSome_of_service hvalid hmem
      simp [hon, hunknown] at hknown
  next =>
    have hcounted := counted_applySnapshot hvalid around r.server (.reported r.containers) .agent
    exact ⟨hcounted.application, hcounted.service⟩

/-! ## Checks -/

theorem countsPlacements_check {f : Fleet} (hvalid : f.settings.problems = [])
    (around : Surroundings) {inspect : Inspector} {app : Application}
    (happ : app ∈ f.settings.multiServerApplications)
    (hdep : f.isDeploying (.application app.id) = false) {shown : String → List Observation}
    (hshown : f.Inspected inspect app shown) :
    (f.check around inspect).1.store.CountsPlacements app
      fun server => .observed (shown server) := by
  have hchildren : ∀ k, k.isChildOf (.application app.id) = true → ∀ r,
      (f.check around inspect).1.store.get? k = some r ↔
        ∃ server ∈ app.allServers.dedup, k = .placement app.id server ∧
          r = placementRecord (around.composeOptional app.composePath)
            (.observed (shown server)) around.now app := fun k hk r => by
    simp only [List.mem_dedup]
    exact get?_check_child_of_inspected hvalid around happ hdep hshown hk
  constructor
  case isSome_iff =>
    intro k hk
    rw [Option.isSome_iff_exists]
    constructor
    · rintro ⟨r, hr⟩
      obtain ⟨server, hserver, hkey, -⟩ := (hchildren k hk r).mp hr
      exact ⟨server, List.mem_dedup.mp hserver, hkey⟩
    · rintro ⟨server, hserver, hkey⟩
      exact ⟨_, (hchildren k hk _).mpr ⟨server, List.mem_dedup.mpr hserver, hkey, rfl⟩⟩
  case count_eq =>
    intro server r hr
    obtain ⟨server', -, hkey, rfl⟩ :=
      (hchildren _ (ResourceKey.placement_isChildOf app.id server) r).mp hr
    obtain ⟨-, rfl⟩ := ResourceKey.placement_inj.mp hkey
    exact Snapshot.count_containers (.observed (shown server)) app.id
  case total_eq =>
    refine ⟨_, get?_check_self_of_inspected hvalid around happ hdep hshown, ?_⟩
    dsimp only
    rw [Store.total_children (List.nodup_dedup _)
      (fun _ _ heq => (ResourceKey.placement_inj.mp heq).2)
      (ResourceKey.placement_isChildOf app.id) hchildren]
    congr 1
    apply List.map_congr_left
    exact fun server _ => Snapshot.count_containers (.observed (shown server)) app.id

/-- With valid settings, no container is lost or counted twice for a resource that is not being
deployed: not in a poll, for whatever a server shows; not in a report, whatever is in it; and not in
a check in which all servers of an application can be inspected. A container that was read from a
server goes by the compose service in its labels, or else by its own name. -/
theorem containers_counted {f : Fleet} (hvalid : f.settings.problems = [])
    (around : Surroundings) :
    (∀ (inspect : Inspector) (order : List Server), order.Perm f.settings.servers →
      ∀ server ∈ f.settings.servers, ∀ shown, inspect server = .ok shown →
        Counted f (f.pollInOrder around inspect order).1 around server.name (.observed shown)) ∧
    (∀ r : AgentReport,
      Counted f (f.report around r).1 around r.server (.reported r.containers)) ∧
    (∀ (inspect : Inspector) (shown : String → List Observation),
      ∀ app ∈ f.settings.multiServerApplications, f.isDeploying (.application app.id) = false →
        f.Inspected inspect app shown →
          (f.check around inspect).1.store.CountsPlacements app
            fun server => .observed (shown server)) ∧
    ∀ output shown notices, Observation.parseAll output = .ok (shown, notices) →
      ∀ c ∈ shown, c.listed.name = (c.labels.get? composeServiceLabel).getD c.name :=
  ⟨fun _ _ horder _ hserver _ hshown =>
      counted_pollInOrder hvalid around horder hserver hshown,
    counted_report hvalid around,
    fun _ _ _ happ hdep hshown => countsPlacements_check hvalid around happ hdep hshown,
    fun _ _ _ hparse _ hc => Observation.name_listed_of_parseAll hparse hc⟩

def crowdShop : Application :=
  { id := "shop", server := "edge-1", additionalServers := ["edge-2", "edge-1"] }

def crowdMail : Service := { id := "mail", server := "edge-1", composePath := "backup.yml" }

def crowdBoard : Application := { id := "board", server := "edge-2" }

/-- An application that names its first server twice, one that has a server to itself, and a service
whose one declared part is nowhere to be seen. -/
def crowdFleet : Fleet where
  settings :=
    { shopSettings with applications := [crowdShop, crowdBoard], services := [crowdMail] }

/-- The first server shows three containers that go by one name, one of them by its own. -/
def crowdShown (server : String) : List Observation :=
  let listing (name : String) (service : Option String) (id : String) : Observation :=
    { name, service, state := .running, labels := [(resourceLabel, id)] }
  if server = "edge-1" then
    [listing "smtp-1" (some "smtp") "mail", listing "smtp-2" (some "smtp") "mail",
      listing "smtp" none "mail", listing "shop-1" none "shop", listing "shop-1" none "shop"]
  else [listing "shop-1" none "shop", listing "board" none "board", listing "stray" none "shops"]

theorem containers_counted_crowd :
    let inspect : Inspector := fun server => .ok (crowdShown server.name)
    let polled := (crowdFleet.pollInOrder backupFiles inspect shopSettings.servers.reverse).1
    let checked := (crowdFleet.check backupFiles inspect).1
    (∃ r, polled.store.get? (.part "mail" "smtp") = some r ∧ r.containerCount = 3) ∧
      (∃ r, polled.store.get? (.part "mail" "backup") = some r ∧ r.containerCount = 0) ∧
      total ((polled.store.children (.service "mail")).map fun e => e.2.containerCount) = 3 ∧
      (∃ r, polled.store.get? (.application "board") = some r ∧ r.containerCount = 1) ∧
      ∃ r, checked.store.get? (.application "shop") = some r ∧ r.containerCount = 3 := by
  intro inspect polled checked
  have hvalid : crowdFleet.settings.problems = [] := by decide
  obtain ⟨hpoll, -, hcheck, -⟩ := containers_counted hvalid backupFiles
  have hpolled := hpoll inspect shopSettings.servers.reverse (List.reverse_perm _)
  have hfirst := hpolled { name := "edge-1", host := "10.0.0.5" } (by decide) _ rfl
  have hsecond := hpolled { name := "edge-2", host := "10.0.0.6" } (by decide) _ rfl
  have hmail := hfirst.service crowdMail (by decide) rfl
  have hpart : ∀ sub, (sub ∈ ["backup"] ∨ (⟨some "mail", sub⟩ : Listed) ∈
      (Snapshot.observed (crowdShown "edge-1")).listed) →
        ∃ r, polled.store.get? (.part "mail" sub) = some r ∧
          r.containerCount = (Snapshot.observed (crowdShown "edge-1")).labelledAs "mail" sub := by
    intro sub hsub
    rw [← show (backupFiles.compose "backup.yml").services = ["backup"] by
      rw [compose_backupFiles]] at hsub
    obtain ⟨r, hr⟩ := Option.isSome_iff_exists.mp ((hmail.isSome_iff _
      (ResourceKey.part_isChildOf "mail" sub)).mpr ⟨sub, rfl, hsub⟩)
    exact ⟨r, hr, hmail.count_eq sub r hr⟩
  refine ⟨hpart "smtp" (by decide), hpart "backup" (by decide), hmail.total_eq, ?_, ?_⟩
  · exact hsecond.application crowdBoard (by decide) rfl
  · exact (hcheck inspect crowdShown crowdShop (by decide) rfl fun name _ server hserver => by
      rw [← Settings.name_of_server? hserver]).total_eq

end Fleet

end FleetWatch
