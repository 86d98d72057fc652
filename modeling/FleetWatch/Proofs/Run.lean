import FleetWatch.Proofs.Recording
import Mathlib.Logic.Relation

/-! # Runs

A fleet starts with an empty store. It changes by collections, by deployments that begin or end and
by new settings, in any order. A collection is a sequence of updates, each of which records one
resource. What holds at the start and is kept by every update, by every begin or end of a deployment
and under every change of settings holds in all fleets that can be reached.
-/

namespace FleetWatch.Fleet

/-- One thing that a collector does: it records a resource or takes a measurement. -/
inductive Update : Fleet → Fleet → Prop
  | application {f : Fleet} (around : Surroundings) (containers : Containers)
      {source : StatusSource} {app : Application} (happ : app ∈ f.settings.applications)
      (hsingle : app.isMultiServer = false) (hsource : source = .ssh ∨ source = .agent) :
      Update f (recordApplication around containers source f app)
  | service {f : Fleet} (around : Surroundings) (containers : Containers)
      {source : StatusSource} {service : Service} (hservice : service ∈ f.settings.services)
      (hsource : source = .ssh ∨ source = .agent) :
      Update f (recordService around containers source f service)
  | placements {f : Fleet} (around : Surroundings) (seen : List (String × Snapshot))
      {app : Application} (happ : app ∈ f.settings.applications)
      (hmulti : app.isMultiServer = true)
      (hseen : ∀ e ∈ seen, ∃ containers, e.2 = .observed containers) :
      Update f (checkApplication around seen f app)
  | measurement (f : Fleet) (m : Measurement) : Update f (f.measure m)

/-- A poll of all servers, in the order in which they answer, the report of an agent, or a check of
the applications on more than one server. Any server may fail to answer. -/
inductive Collection (f : Fleet) : Fleet → Prop
  | poll (around : Surroundings) (inspect : Inspector) {order : List Server}
      (horder : order.Perm f.settings.servers) :
      Collection f (f.pollInOrder around inspect order).1
  | report (around : Surroundings) (r : AgentReport) : Collection f (f.report around r).1
  | check (around : Surroundings) (inspect : Inspector) : Collection f (f.check around inspect).1

/-- What can happen to a fleet. -/
inductive Step (f : Fleet) : Fleet → Prop
  | collect {g : Fleet} (hcollection : Collection f g) : Step f g
  | deploy (now : Nat) {key : ResourceKey} (hkey : key.isTopLevel = true) (on : Bool) :
      Step f (f.setDeploying now key on)
  | configure (settings : Settings) : Step f { f with settings }

/-- A fleet that comes about by steps from one with an empty store. -/
inductive Reachable : Fleet → Prop
  | start (settings : Settings) (storePath : Option String) : Reachable { settings, storePath }
  | step {f g : Fleet} (hf : Reachable f) (hfg : Step f g) : Reachable g

/-! ## What an update can do -/

namespace Update

variable {f g : Fleet}

/-- An update records one resource, and while that is being deployed it only records the
override. -/
theorem confined (h : Update f g) :
    (∃ m, g = f.measure m) ∨
      ∃ key, key.isTopLevel = true ∧ Confined key f g ∧
        (f.isDeploying key = true → ∃ count now, g = f.record key (.deploying count now)) := by
  cases h with
  | application around containers happ hsingle hsource =>
      exact .inr ⟨_, rfl, recordApplication_confined around containers _ f _,
        fun hdep => ⟨_, _, recordApplication_of_deploying around containers _ hdep⟩⟩
  | service around containers hservice hsource =>
      exact .inr ⟨_, rfl, recordService_confined around containers _ f _,
        fun hdep => ⟨_, _, recordService_of_deploying around containers _ hdep⟩⟩
  | placements around seen happ hmulti =>
      exact .inr ⟨_, rfl, checkApplication_confined around seen f _,
        fun hdep => ⟨_, _, checkApplication_of_deploying around seen hdep⟩⟩
  | measurement m => exact .inl ⟨m, rfl⟩

theorem settings_eq (h : Update f g) : g.settings = f.settings := by
  rcases h.confined with ⟨m, rfl⟩ | ⟨key, -, hconfined, -⟩
  · rfl
  · exact hconfined.settings

theorem deploying_eq (h : Update f g) : g.deploying = f.deploying := by
  rcases h.confined with ⟨m, rfl⟩ | ⟨key, -, hconfined, -⟩
  · rfl
  · exact hconfined.deploying

end Update

/-! ## Collections are updates -/

/-- One fleet comes from another by updates. -/
abbrev Updates : Fleet → Fleet → Prop := Relation.ReflTransGen Update

namespace Updates

variable {f g : Fleet}

/-- What every update keeps is kept by all of them. -/
theorem invariant {inv : Fleet → Prop} (hupdate : ∀ f g, inv f → Update f g → inv g)
    (h : Updates f g) (hf : inv f) : inv g := by
  induction h with
  | refl => exact hf
  | tail _ hlast ih => exact hupdate _ _ ih hlast

theorem settings_eq (h : Updates f g) : g.settings = f.settings :=
  h.invariant (fun _ _ hf hupdate => hupdate.settings_eq.trans hf) rfl

theorem deploying_eq (h : Updates f g) : g.deploying = f.deploying :=
  h.invariant (fun _ _ hf hupdate => hupdate.deploying_eq.trans hf) rfl

/-- A record that no update changes, as long as the settings and the deployments are the same, is
still there in the end. -/
theorem get?_eq (h : Updates f g) {k : ResourceKey}
    (hupdate : ∀ f₁ f₂, f₁.settings = f.settings → f₁.deploying = f.deploying → Update f₁ f₂ →
      f₂.store.get? k = f₁.store.get? k) : g.store.get? k = f.store.get? k := by
  induction h with
  | refl => rfl
  | tail hupdates hlast ih =>
      rw [hupdate _ _ (settings_eq hupdates) (deploying_eq hupdates) hlast, ih]

/-- A loop whose every round consists of updates consists of updates. -/
theorem foldl {α : Type} {round : Fleet → α → Fleet} {xs : List α}
    (hround : ∀ g, g.settings = f.settings → ∀ x ∈ xs, Updates g (round g x)) :
    Updates f (xs.foldl round f) := by
  induction xs generalizing f with
  | nil => exact .refl
  | cons x rest ih =>
      have hfirst := hround f rfl x List.mem_cons_self
      apply hfirst.trans
      apply ih
      intro g hg y hy
      exact hround g (hg.trans hfirst.settings_eq) y (List.mem_cons_of_mem _ hy)

end Updates

theorem applySnapshot_updates (f : Fleet) (around : Surroundings) (server : String)
    (snapshot : Snapshot) {source : StatusSource} (hsource : source = .ssh ∨ source = .agent) :
    Updates f (f.applySnapshot around server snapshot source) := by
  have happlications : Updates f ((f.applicationsOn server).foldl
      (fun f app => recordApplication around (snapshot.containers app.id) source f app) f) := by
    apply Updates.foldl
    intro g hg app happ
    apply Relation.ReflTransGen.single
    obtain ⟨hmem, -, hsingle⟩ := mem_applicationsOn.mp happ
    exact .application around _ (hg ▸ hmem) hsingle hsource
  apply happlications.trans
  apply Updates.foldl
  intro g hg service hservice
  apply Relation.ReflTransGen.single
  obtain ⟨hmem, -⟩ := mem_servicesOn.mp hservice
  exact .service around _ (hg.trans happlications.settings_eq ▸ hmem) hsource

theorem pollServer_updates (f : Fleet) (around : Surroundings) (inspect : Inspector)
    (server : Server) : Updates f (pollServer around inspect f server) := by
  unfold pollServer
  split
  · exact applySnapshot_updates f around server.name _ (.inl rfl)
  · exact .refl

theorem pollServers_updates (f : Fleet) (around : Surroundings) (inspect : Inspector)
    (order : List Server) : Updates f (order.foldl (pollServer around inspect) f) :=
  Updates.foldl fun g _ server _ => pollServer_updates g around inspect server

theorem poll_updates (f : Fleet) (around : Surroundings) (inspect : Inspector)
    (order : List Server) : Updates f (f.pollInOrder around inspect order).1 :=
  (pollServers_updates f around inspect order).tail (.measurement _ _)

theorem report_updates (f : Fleet) (around : Surroundings) (r : AgentReport) :
    Updates f (f.report around r).1 := by
  unfold report
  split
  · exact .single (.measurement _ _)
  · exact ((applySnapshot_updates f around r.server _ (.inr rfl)).tail
      (.measurement _ _)).tail (.measurement _ _)

/-- What a check sees has been observed, not reported. -/
theorem observed_of_mem_snapshots {inspect : Inspector} {servers : List Server}
    {e : String × Snapshot} (he : e ∈ snapshots inspect servers) :
    ∃ containers, e.2 = .observed containers := by
  obtain ⟨server, -, hserver⟩ := List.mem_filterMap.mp he
  cases hinspect : inspect server with
  | ok containers =>
      rw [hinspect] at hserver
      obtain rfl := Option.some.inj hserver
      exact ⟨containers, rfl⟩
  | error e =>
      rw [hinspect] at hserver
      cases hserver

theorem check_updates (f : Fleet) (around : Surroundings) (inspect : Inspector) :
    Updates f (f.check around inspect).1 := by
  unfold check
  dsimp only
  split
  · exact .refl
  · refine Relation.ReflTransGen.tail (Updates.foldl fun g hg app happ => .single ?_)
      (.measurement _ _)
    obtain ⟨hmem, hmulti⟩ := List.mem_filter.mp happ
    exact .placements around _ (hg ▸ hmem) hmulti fun _ => observed_of_mem_snapshots

theorem Collection.updates {f g : Fleet} (h : Collection f g) : Updates f g := by
  cases h with
  | poll around inspect horder => exact poll_updates f around inspect _
  | report around r => exact report_updates f around r
  | check around inspect => exact check_updates f around inspect

/-- An invariant holds in all fleets that can be reached. -/
theorem Reachable.invariant {inv : Fleet → Prop}
    (hstart : ∀ settings storePath, inv { settings, storePath })
    (hupdate : ∀ f g, inv f → Update f g → inv g)
    (hdeploy : ∀ f now key on, key.isTopLevel = true → inv f → inv (f.setDeploying now key on))
    (hconfigure : ∀ f settings, inv f → inv { f with settings })
    {f : Fleet} (hf : Reachable f) : inv f := by
  induction hf with
  | start settings storePath => exact hstart settings storePath
  | @step f g _ hfg ih =>
      cases hfg with
      | collect hcollection =>
          exact hcollection.updates.invariant hupdate ih
      | deploy now hkey on => exact hdeploy _ _ _ _ hkey ih
      | configure settings => exact hconfigure _ _ ih

/-! ## A small fleet -/

/-- No file can be read. -/
def noFiles : Surroundings := ⟨fun _ => none, 0⟩

/-- One application, on two servers, and one service. -/
def shopSettings : Settings where
  servers := [{ name := "edge-1", host := "10.0.0.5" }, { name := "edge-2", host := "10.0.0.6" }]
  applications := [{ id := "shop", server := "edge-1", additionalServers := ["edge-2"] }]
  services := [{ id := "mail", server := "edge-1", composePath := "mail.yml" }]

/-- The one container of the application. -/
def shopContainer : Observation where
  name := "shop-1"
  state := .running
  health := some .healthy
  labels := [(resourceLabel, "shop")]

/-- The one container of the service. -/
def mailContainer : Observation where
  name := "mail-1"
  service := some "smtp"
  state := .running
  health := some .healthy
  labels := [(resourceLabel, "mail"), (composeServiceLabel, "smtp")]

/-- Every server shows both containers. -/
def shopInspector : Inspector := fun _ => .ok [shopContainer, mailContainer]

/-- The fleet after a first check. -/
def shopChecked : Fleet :=
  (({ settings := shopSettings } : Fleet).check noFiles shopInspector).1

theorem shopChecked_reachable : Reachable shopChecked :=
  .step (.start shopSettings none) (.collect (.check _ _))

end FleetWatch.Fleet
