import FleetWatch.Proofs.Counting

/-! # The inspections of a check

A check asks servers for what they show. When every question is noted, the notes say which servers
are inspected: each one once that is configured and listed by an application whose turn it is,
however often it is listed or configured. The outcome that is counted says whether all listed
servers have answered.
-/

namespace FleetWatch.Fleet

/-! ## Asking -/

section Asking

variable {m : Type → Type} [Monad m] (ask : Server → m (Except InspectError (List Observation)))

/-- Asks the servers with the given names, as far as they are configured. -/
def askSnapshots (s : Settings) : List String → m (List (String × Snapshot))
  | [] => pure []
  | name :: rest =>
      match s.server? name with
      | none => askSnapshots s rest
      | some server => do
          let answer ← ask server
          let seen ← askSnapshots s rest
          match answer with
          | .ok containers => pure ((server.name, .observed containers) :: seen)
          | .error _ => pure seen

/-- A check that asks servers for what they show. -/
def askCheck (f : Fleet) (around : Surroundings) : m (Fleet × Nat) :=
  let apps := f.settings.multiServerApplications
  if apps.isEmpty then pure (f, 0)
  else do
    let seen ← askSnapshots ask f.settings f.wantedServers
    let outcome : Outcome :=
      if seen.length = f.wantedServers.length then .success else .incomplete
    let checked := apps.foldl (checkApplication around seen) f
    pure (checked.measure (.collected .complex outcome), apps.length)

end Asking

/-- Asks a server and notes that it has been asked. -/
def noted (inspect : Inspector) (server : Server) :
    StateM (List Server) (Except InspectError (List Observation)) := do
  modify (· ++ [server])
  return inspect server

theorem run_askSnapshots_noted (inspect : Inspector) (s : Settings) (names : List String)
    (asked : List Server) :
    Id.run ((askSnapshots (noted inspect) s names).run asked) =
      (snapshots inspect (names.filterMap s.server?), asked ++ names.filterMap s.server?) := by
  induction names generalizing asked with
  | nil => simp [askSnapshots, snapshots]
  | cons name rest ih =>
      cases hserver : s.server? name with
      | none =>
          rw [askSnapshots, hserver, List.filterMap_cons_none hserver]
          exact ih asked
      | some server =>
          rw [askSnapshots, hserver, List.filterMap_cons_some hserver]
          -- The servers after this one are asked when it has been noted.
          have hrest := ih (asked ++ [server])
          cases hinspect : inspect server <;>
            simp [noted, hinspect, hrest, snapshots]

/-! ## Servers that are asked -/

section Targets

variable (f : Fleet)

theorem map_name_checkTargets :
    f.checkTargets.map Server.name =
      f.wantedServers.filter fun name => (f.settings.server? name).isSome := by
  rw [checkTargets]
  induction f.wantedServers with
  | nil => rfl
  | cons name rest ih =>
      cases hserver : f.settings.server? name with
      | none => simp [hserver, ih]
      | some server => simp [hserver, ih, Settings.name_of_server? hserver]

theorem server?_of_mem_checkTargets {server : Server} (h : server ∈ f.checkTargets) :
    f.settings.server? server.name = some server := by
  obtain ⟨name, -, hserver⟩ := List.mem_filterMap.mp h
  rw [Settings.name_of_server? hserver, hserver]

theorem count_name_checkTargets (name : String) :
    (f.checkTargets.map Server.name).count name =
      if (f.settings.server? name).isSome ∧ f.Lists name then 1 else 0 := by
  have hnodup : f.wantedServers.Nodup := nodup_distinctSorted _
  rw [map_name_checkTargets, (hnodup.filter _).count]
  simp only [List.mem_filter, mem_wantedServers_iff, and_comm]

theorem wantedServers_of_no_applications (h : f.settings.multiServerApplications = []) :
    f.wantedServers = [] := by
  rw [wantedServers, h]
  rfl

end Targets

theorem run_askCheck_noted (f : Fleet) (around : Surroundings) (inspect : Inspector)
    (asked : List Server) :
    Id.run ((askCheck (noted inspect) f around).run asked) =
      (f.check around inspect, asked ++ f.checkTargets) := by
  unfold askCheck check
  dsimp only
  split
  next hnone =>
    have htargets : f.checkTargets = [] := by
      rw [checkTargets, wantedServers_of_no_applications f (List.isEmpty_iff.mp hnone)]
      rfl
    simp [htargets]
  next =>
    have hseen := run_askSnapshots_noted inspect f.settings f.wantedServers asked
    simp only [bind_pure_comp, StateT.run_map, Id.run_map, hseen, checkTargets]
    rfl

/-! ## Collections that are counted -/

/-- The collections that have been counted, the latest first. -/
def collections (log : List Measurement) : List (Collector × Outcome) :=
  log.filterMap fun
    | .collected collector outcome => some (collector, outcome)
    | _ => none

section Collections

variable (around : Surroundings)

theorem collections_recordAll (f : Fleet) (batch : List StoreEntry) :
    collections (f.recordAll batch).log = collections f.log := by
  induction batch generalizing f with
  | nil => rfl
  | cons e rest ih => exact ih (f.record e.1 e.2)

theorem collections_checkApplication (seen : List (String × Snapshot)) (f : Fleet)
    (app : Application) :
    collections (checkApplication around seen f app).log = collections f.log := by
  unfold checkApplication
  dsimp only
  split
  next => rfl
  next =>
    -- Recording tells of records and of their number, not of collections.
    have hplaced := collections_recordAll f
      (placementRecords (around.composeOptional app.composePath) seen around.now app)
    split
    next => exact hplaced
    next => exact hplaced

/-- A check counts one collection, after its rounds. -/
theorem collections_check {f : Fleet} (h : f.settings.multiServerApplications ≠ [])
    (inspect : Inspector) :
    collections (f.check around inspect).1.log =
      (.complex,
        if (snapshots inspect f.checkTargets).length = f.wantedServers.length then .success
        else .incomplete) :: collections f.log := by
  have hrounds : ∀ (apps : List Application) (g : Fleet),
      collections (apps.foldl (checkApplication around (snapshots inspect f.checkTargets)) g).log =
        collections g.log := by
    intro apps
    induction apps with
    | nil => exact fun g => rfl
    | cons app rest ih =>
        exact fun g => (ih _).trans (collections_checkApplication around _ g app)
  unfold check
  dsimp only
  rw [if_neg (by simpa using h), ← hrounds f.settings.multiServerApplications f]
  rfl

end Collections

/-- As many servers are seen as are listed if each listed one is configured and answers. -/
theorem length_snapshots_eq_iff (f : Fleet) (inspect : Inspector) :
    (snapshots inspect f.checkTargets).length = f.wantedServers.length ↔
      ∀ name, f.Lists name →
        ∃ server shown, f.settings.server? name = some server ∧ inspect server = .ok shown := by
  rw [snapshots, checkTargets, List.filterMap_filterMap, List.filterMap_length_eq_length]
  apply forall_congr'
  intro name
  rw [mem_wantedServers_iff]
  apply imp_congr_right
  intro _
  cases f.settings.server? name with
  | none => simp
  | some server => cases hinspect : inspect server <;> simp [hinspect]

/-- However servers and applications are set up, the servers that a check asks are those that it is
known to inspect, the first one that is configured under each name. A name comes once among them if
it is configured and listed by an application on more than one server that is not being deployed,
and not at all otherwise. The check counts one collection, a success if and only if all listed names
are configured and have answered. Without any application on more than one server it asks nobody and
leaves everything as it was. -/
theorem listed_servers_inspected_once (f : Fleet) (around : Surroundings) (inspect : Inspector) :
    let run := Id.run ((askCheck (noted inspect) f around).run [])
    let asked := run.2
    (run.1 = f.check around inspect ∧ asked = (f.cycle around inspect .checking).2) ∧
    (∀ server ∈ asked, f.settings.server? server.name = some server) ∧
    (∀ name, (asked.map Server.name).count name =
      if (f.settings.server? name).isSome ∧ f.Lists name then 1 else 0) ∧
    (f.settings.multiServerApplications ≠ [] →
      ∃ outcome, collections run.1.1.log = (.complex, outcome) :: collections f.log ∧
        (outcome = .success ↔ ∀ name, f.Lists name →
          ∃ server shown, f.settings.server? name = some server ∧
            inspect server = .ok shown)) ∧
    (f.settings.multiServerApplications = [] → run = ((f, 0), [])) := by
  intro run asked
  have hrun : run = (f.check around inspect, f.checkTargets) :=
    run_askCheck_noted f around inspect []
  dsimp only [asked]
  rw [hrun]
  refine ⟨⟨rfl, rfl⟩, fun server => server?_of_mem_checkTargets f, count_name_checkTargets f,
    fun happs => ⟨_, collections_check around happs inspect, ?_⟩, fun hnone => ?_⟩
  · rw [← length_snapshots_eq_iff]
    split
    next hlength => exact iff_of_true rfl hlength
    next hlength => exact iff_of_false Outcome.noConfusion hlength
  · rw [checkTargets, wantedServers_of_no_applications f hnone, check, hnone]
    rfl

/-- One server is configured twice, the shop is there twice and lists that server three times beside
one that is not configured, and the board is being deployed. -/
def crossedFleet : Fleet where
  settings :=
    { servers :=
        [{ name := "edge-1", host := "10.0.0.5" }, { name := "edge-1", host := "10.0.0.9" },
          { name := "edge-3", host := "10.0.0.7" }]
      applications :=
        [{ id := "shop", server := "edge-1", additionalServers := ["edge-2"] },
          { id := "shop", server := "edge-1", additionalServers := ["edge-1"] },
          { id := "board", server := "edge-3", additionalServers := ["edge-1"] }] }
  deploying := [.application "board"]

/-- The first server is asked once, and the collection is incomplete for the second one. -/
theorem listed_servers_inspected_once_crossed :
    let run := Id.run ((askCheck (noted shopInspector) crossedFleet noFiles).run [])
    let asked (name : String) := (run.2.map Server.name).count name
    run.1 = crossedFleet.check noFiles shopInspector ∧
      crossedFleet.settings.multiServerApplications ≠ [] ∧
      (asked "edge-1" = 1 ∧ asked "edge-2" = 0 ∧ asked "edge-3" = 0) ∧
      collections run.1.1.log = [(.complex, .incomplete)] := by
  intro run asked
  obtain ⟨⟨hcheck, -⟩, -, hcount, hcounted, -⟩ :=
    listed_servers_inspected_once crossedFleet noFiles shopInspector
  have happs : crossedFleet.settings.multiServerApplications ≠ [] := by decide
  obtain ⟨outcome, hlog, hsuccess⟩ := hcounted happs
  have hlists : crossedFleet.Lists "edge-2" := by decide
  have hincomplete : outcome ≠ .success := by
    intro houtcome
    obtain ⟨server, shown, hserver, -⟩ := hsuccess.mp houtcome "edge-2" hlists
    exact absurd hserver (by simp [crossedFleet, Settings.server?])
  have houtcome : outcome = .incomplete := by
    cases outcome with
    | success => exact absurd rfl hincomplete
    | incomplete => rfl
  refine ⟨hcheck, happs, ⟨(hcount _).trans ?_, (hcount _).trans ?_, (hcount _).trans ?_⟩, ?_⟩
  · decide
  · decide
  · decide
  · rw [hlog, houtcome]
    rfl

end FleetWatch.Fleet
