import FleetWatch.Proofs.Recording
import FleetWatch.Settings.Validation

/-! # Rounds of a collection

Valid settings give every resource an id of its own. The rounds of a collection then work on
different families, so what one of them leaves in its family is there when the collection ends.
-/

namespace FleetWatch

/-! ## Valid settings -/

namespace Settings

variable {isAddress : String → Bool} {s : Settings}

theorem repeated_eq_nil_iff {seen ids : List String} :
    repeated seen ids = [] ↔ ids.Nodup ∧ ∀ id ∈ ids, id ∉ seen := by
  induction ids generalizing seen with
  | nil => simp [repeated]
  | cons id rest ih =>
      rw [repeated, List.append_eq_nil_iff, ih, List.nodup_cons, List.forall_mem_cons]
      have hfirst : (if seen.contains id then [id] else []) = [] ↔ id ∉ seen := by simp
      rw [hfirst]
      constructor
      · rintro ⟨hid, hrest, hnew⟩
        refine ⟨⟨fun hmem => hnew id hmem List.mem_cons_self, hrest⟩, hid, fun other hother => ?_⟩
        exact fun hseen => hnew other hother (List.mem_cons_of_mem _ hseen)
      · rintro ⟨⟨hmem, hrest⟩, hid, hnew⟩
        refine ⟨hid, hrest, fun other hother hseen => ?_⟩
        rcases List.mem_cons.mp hseen with rfl | hseen
        · exact hmem hother
        · exact hnew other hother hseen

theorem nodup_of_problems (h : s.problemsWith isAddress = []) :
    (s.servers.map Server.name).Nodup ∧ (s.applications.map Application.id).Nodup ∧
      (s.services.map Service.id).Nodup := by
  simp only [problemsWith, duplicateProblems, List.append_eq_nil_iff,
    List.map_eq_nil_iff, repeated_eq_nil_iff] at h
  obtain ⟨⟨-, ⟨⟨hservers, -⟩, happlications, -⟩, hservices, -⟩, -⟩ := h
  exact ⟨hservers, happlications, hservices⟩

/-- In valid settings, applications with the same id are the same. -/
theorem application_eq_of_id (h : s.problems = []) {app app' : Application}
    (happ : app ∈ s.applications) (happ' : app' ∈ s.applications) (hid : app.id = app'.id) :
    app = app' :=
  List.inj_on_of_nodup_map (nodup_of_problems h).2.1 happ happ' hid

/-- In valid settings, services with the same id are the same. -/
theorem service_eq_of_id (h : s.problems = []) {service service' : Service}
    (hservice : service ∈ s.services) (hservice' : service' ∈ s.services)
    (hid : service.id = service'.id) : service = service' :=
  List.inj_on_of_nodup_map (nodup_of_problems h).2.2 hservice hservice' hid

theorem referenceProblems_of_problems (h : s.problemsWith isAddress = []) :
    s.referenceProblems = [] :=
  (List.append_eq_nil_iff.mp h).2

theorem server?_isSome_of_knows {name : String} (h : s.knows name = true) :
    (s.server? name).isSome := by
  rw [server?, List.find?_isSome]
  simpa [knows] using h

/-- In valid settings, the servers of an application are configured. -/
theorem server?_isSome_of_application (h : s.problemsWith isAddress = []) {app : Application}
    (happ : app ∈ s.applications) {name : String} (hname : name ∈ app.allServers) :
    (s.server? name).isSome := by
  have hreferences := referenceProblems_of_problems h
  simp only [referenceProblems, List.append_eq_nil_iff, List.flatMap_eq_nil_iff,
    List.map_eq_nil_iff, List.filter_eq_nil_iff] at hreferences
  exact server?_isSome_of_knows (by simpa using hreferences.1 app happ name hname)

/-- In valid settings, the server of a service is configured. -/
theorem server?_isSome_of_service (h : s.problemsWith isAddress = []) {service : Service}
    (hservice : service ∈ s.services) : (s.server? service.server).isSome := by
  have hreferences := referenceProblems_of_problems h
  simp only [referenceProblems, List.append_eq_nil_iff, List.map_eq_nil_iff,
    List.filter_eq_nil_iff] at hreferences
  exact server?_isSome_of_knows (by simpa using hreferences.2 service hservice)

theorem name_of_server? {name : String} {server : Server} (h : s.server? name = some server) :
    server.name = name := by
  simpa using List.find?_some h

theorem exists_server_of_isSome {name : String} (h : (s.server? name).isSome) :
    ∃ server ∈ s.servers, server.name = name := by
  obtain ⟨server, hserver⟩ := Option.isSome_iff_exists.mp h
  exact ⟨server, List.mem_of_find?_eq_some hserver, name_of_server? hserver⟩

end Settings

/-- Resources with ids of their own have keys of their own. -/
theorem ResourceKey.nodup_map_filter {α : Type} {key : String → ResourceKey}
    (hkey : Function.Injective key) {id : α → String} {xs : List α} (hxs : (xs.map id).Nodup)
    (p : α → Bool) : ((xs.filter p).map fun x => key (id x)).Nodup := by
  have hsublist : ((xs.filter p).map id).Sublist (xs.map id) := List.filter_sublist.map id
  have hids := (hxs.sublist hsublist).map hkey
  rwa [List.map_map] at hids

namespace Fleet

/-! ## Rounds on different families -/

section Rounds

variable {α : Type} {key : α → ResourceKey} {round : Fleet → α → Fleet}
  (hround : ∀ f x, Confined (key x) f (round f x))
include hround

theorem get?_foldl_of_ne {xs : List α} (f : Fleet) {k : ResourceKey}
    (hk : ∀ x ∈ xs, k.owner ≠ key x) : (xs.foldl round f).store.get? k = f.store.get? k := by
  induction xs generalizing f with
  | nil => rfl
  | cons x rest ih =>
      rw [List.foldl_cons, ih _ fun y hy => hk y (List.mem_cons_of_mem _ hy)]
      exact (hround f x).frame k (hk x List.mem_cons_self)

theorem deploying_foldl (xs : List α) (f : Fleet) :
    (xs.foldl round f).deploying = f.deploying := by
  induction xs generalizing f with
  | nil => rfl
  | cons x rest ih => exact (ih (round f x)).trans (hround f x).deploying

/-- A round whose family no other round works on finds it as it was and decides about it. -/
theorem foldl_isolated {xs : List α} (hxs : (xs.map key).Nodup) {x : α} (hx : x ∈ xs) (f : Fleet) :
    ∃ g : Fleet, g.settings = f.settings ∧ g.deploying = f.deploying ∧
      (∀ k, k.owner = key x → g.store.get? k = f.store.get? k) ∧
      ∀ k, k.owner = key x → (xs.foldl round f).store.get? k = (round g x).store.get? k := by
  induction xs generalizing f with
  | nil => exact absurd hx List.not_mem_nil
  | cons y rest ih =>
      rw [List.map_cons, List.nodup_cons] at hxs
      rcases List.mem_cons.mp hx with rfl | hx
      · refine ⟨f, rfl, rfl, fun _ _ => rfl, fun k hk => ?_⟩
        rw [List.foldl_cons]
        -- The rounds that follow work on other families.
        apply get?_foldl_of_ne hround
        intro z hz heq
        apply hxs.1
        rw [← hk, heq]
        exact List.mem_map_of_mem hz
      · obtain ⟨g, hsettings, hdeploying, hbefore, hg⟩ := ih hxs.2 hx (round f y)
        refine ⟨g, hsettings.trans (hround f y).settings,
          hdeploying.trans (hround f y).deploying, fun k hk => ?_, hg⟩
        rw [hbefore k hk, (hround f y).frame]
        rintro heq
        apply hxs.1
        rw [← heq, hk]
        exact List.mem_map_of_mem hx

end Rounds

/-! ## Snapshots -/

section Snapshot

variable {f : Fleet} (hvalid : f.settings.problems = []) (around : Surroundings) {server : String}
  (snapshot : Snapshot) (source : StatusSource)
include hvalid

/-- A snapshot decides about an application on its server in one round. -/
theorem applySnapshot_isolated_application {app : Application}
    (happ : app ∈ f.applicationsOn server) :
    ∃ g : Fleet, g.deploying = f.deploying ∧
      (∀ k, k.owner = .application app.id → g.store.get? k = f.store.get? k) ∧
      ∀ k, k.owner = .application app.id →
        (f.applySnapshot around server snapshot source).store.get? k =
          (recordApplication around (snapshot.containers app.id) source g app).store.get? k := by
  have hkeys := ResourceKey.nodup_map_filter (fun _ _ => ResourceKey.application_inj.mp)
    (Settings.nodup_of_problems hvalid).2.1 fun a => a.server == server && !a.isMultiServer
  obtain ⟨g, -, hdeploying, hbefore, hg⟩ := foldl_isolated (fun g (app : Application) =>
    recordApplication_confined around (snapshot.containers app.id) source g app) hkeys happ f
  refine ⟨g, hdeploying, hbefore, fun k hk => ?_⟩
  rw [← hg k hk]
  -- Services are recorded after all applications, each in a family of its own.
  apply get?_foldl_of_ne fun g (service : Service) =>
    recordService_confined around (snapshot.containers service.id) source g service
  intro service _
  rw [hk]
  exact ResourceKey.application_ne_service _ _

/-- A snapshot decides about a service on its server in one round. -/
theorem applySnapshot_isolated_service {service : Service}
    (hservice : service ∈ f.servicesOn server) :
    ∃ g : Fleet, g.deploying = f.deploying ∧
      (∀ k, k.owner = .service service.id → g.store.get? k = f.store.get? k) ∧
      ∀ k, k.owner = .service service.id →
        (f.applySnapshot around server snapshot source).store.get? k =
          (recordService around (snapshot.containers service.id) source g service).store.get? k := by
  have hkeys := ResourceKey.nodup_map_filter (fun _ _ => ResourceKey.service_inj.mp)
    (Settings.nodup_of_problems hvalid).2.2 (·.server == server)
  have hround := fun (f : Fleet) (app : Application) =>
    recordApplication_confined around (snapshot.containers app.id) source f app
  obtain ⟨g, -, hdeploying, hbefore, hg⟩ := foldl_isolated (fun g (service : Service) =>
    recordService_confined around (snapshot.containers service.id) source g service) hkeys
    hservice ((f.applicationsOn server).foldl (fun f app =>
      recordApplication around (snapshot.containers app.id) source f app) f)
  refine ⟨g, hdeploying.trans (deploying_foldl hround _ f), fun k hk => ?_, hg⟩
  rw [hbefore k hk]
  apply get?_foldl_of_ne hround
  intro app _
  rw [hk]
  exact ResourceKey.service_ne_application _ _

end Snapshot

/-! ## Checks -/

/-- A server that cannot be inspected leaves its name to the servers after it. -/
theorem lookup_snapshots_cons (inspect : Inspector) (server : Server) (rest : List Server)
    (name : String) :
    (snapshots inspect (server :: rest)).lookup name =
      if name = server.name then
        ((inspect server).toOption.map Snapshot.observed).or
          ((snapshots inspect rest).lookup name)
      else (snapshots inspect rest).lookup name := by
  cases hinspect : inspect server with
  | ok containers =>
      by_cases hname : name = server.name
      · simp [snapshots, hinspect, hname, Except.toOption]
      · have hne : (name == server.name) = false := by simpa using hname
        simp [snapshots, hinspect, hname, hne, List.lookup_cons]
  | error e => simp [snapshots, hinspect, Except.toOption]

/-- What a check sees under a name: the containers of the server with this name, if it is looked
at, configured and can be inspected. -/
theorem lookup_snapshots (f : Fleet) (inspect : Inspector) (name : String) :
    (snapshots inspect f.checkTargets).lookup name =
      if name ∈ f.wantedServers then
        (f.settings.server? name).bind fun server => (inspect server).toOption.map .observed
      else none := by
  rw [checkTargets]
  induction f.wantedServers with
  | nil => simp [snapshots]
  | cons first rest ih =>
      cases hserver : f.settings.server? first with
      | none =>
          rw [List.filterMap_cons_none hserver, ih]
          by_cases hname : name = first
          · subst hname
            simp [hserver]
          · simp [hname]
      | some server =>
          rw [List.filterMap_cons_some hserver, lookup_snapshots_cons, ih,
            Settings.name_of_server? hserver]
          by_cases hname : name = first
          · -- A name that comes again stands for the same server.
            subst hname
            simp only [if_true, hserver, List.mem_cons, true_or, Option.bind_some]
            split
            · exact Option.or_self
            · exact Option.or_none
          · simp [hname]

/-- The name stands among the servers of an application on more than one server that is not being
deployed. -/
def Lists (f : Fleet) (name : String) : Prop :=
  ∃ app ∈ f.settings.multiServerApplications,
    f.isDeploying (.application app.id) = false ∧ name ∈ app.allServers

instance (f : Fleet) (name : String) : Decidable (f.Lists name) :=
  inferInstanceAs (Decidable (∃ app ∈ _, _ ∧ _))

theorem mem_wantedServers_iff {f : Fleet} {name : String} :
    name ∈ f.wantedServers ↔ f.Lists name := by
  simp only [wantedServers, mem_distinctSorted, List.mem_flatMap, List.mem_filter, Lists,
    Bool.not_eq_true', and_assoc]

/-- The servers of an application that is not being deployed are looked at. -/
theorem mem_wantedServers {f : Fleet} {app : Application}
    (happ : app ∈ f.settings.multiServerApplications)
    (hdep : f.isDeploying (.application app.id) = false) {name : String}
    (hname : name ∈ app.allServers) : name ∈ f.wantedServers :=
  mem_wantedServers_iff.mpr ⟨app, happ, hdep, hname⟩

/-- A check decides about an application in one round. -/
theorem check_isolated {f : Fleet} (hvalid : f.settings.problems = []) (around : Surroundings)
    (inspect : Inspector) {app : Application} (happ : app ∈ f.settings.multiServerApplications) :
    ∃ g : Fleet, (∀ k, k.owner = .application app.id → g.store.get? k = f.store.get? k) ∧
      g.deploying = f.deploying ∧
      ∀ k, k.owner = .application app.id → (f.check around inspect).1.store.get? k =
        (checkApplication around (snapshots inspect f.checkTargets) g app).store.get? k := by
  have hkeys := ResourceKey.nodup_map_filter (fun _ _ => ResourceKey.application_inj.mp)
    (Settings.nodup_of_problems hvalid).2.1 (·.isMultiServer)
  have hnonempty : f.settings.multiServerApplications.isEmpty = false := by
    rw [List.isEmpty_eq_false_iff]
    exact List.ne_nil_of_mem happ
  obtain ⟨g, -, hdeploying, hbefore, hg⟩ := foldl_isolated
    (checkApplication_confined around (snapshots inspect f.checkTargets)) hkeys happ f
  refine ⟨g, hbefore, hdeploying, fun k hk => ?_⟩
  rw [← hg k hk, check]
  simp only [hnonempty]
  rfl

end Fleet

end FleetWatch
