import FleetWatch.Proofs.Rounds

/-! # Placements where every server answers

When all servers of an application can be inspected, a check replaces its placements: what is stored
afterwards is what the servers have shown, and the application is rolled up from nothing else. A
placement of which all containers are excluded does not count in the rollup.
-/

namespace FleetWatch.Fleet

/-- With one record for each server, a placement counts unless it is excluded as a whole. -/
theorem not_mem_excludedServers_iff {placements : List (String × StatusRecord)}
    (hkey : ∀ p ∈ placements, ∀ q ∈ placements, p.1 = q.1 → p.2 = q.2)
    {p : String × StatusRecord} (hp : p ∈ placements) :
    p.1 ∉ (placements.filter fun (_, r) => r.allExcluded).map Prod.fst ↔
      p.2.allExcluded = false := by
  rw [← Bool.not_eq_true, not_iff_not, List.mem_map]
  constructor
  · rintro ⟨q, hq, hqp⟩
    obtain ⟨hq, hexcluded⟩ := List.mem_filter.mp hq
    rw [hkey p hp q hq hqp.symm]
    exact hexcluded
  · exact fun hexcluded => ⟨p, List.mem_filter.mpr ⟨hp, hexcluded⟩, rfl⟩

/-- Where every server shows something, what is stored is what this check has recorded. -/
theorem mem_placements_of_seen (around : Surroundings) {seen : List (String × Snapshot)}
    {shown : String → Snapshot} {f : Fleet} {app : Application}
    (hdep : f.isDeploying (.application app.id) = false)
    (hseen : ∀ server ∈ app.allServers, seen.lookup server = some (shown server))
    (server : String) (r : StatusRecord) :
    (server, r) ∈ (checkApplication around seen f app).placements app.id ↔
      server ∈ app.allServers ∧ r = placementRecord (around.composeOptional app.composePath)
        (shown server) around.now app := by
  rw [mem_placements_checkApplication around seen hdep]
  apply and_congr_right
  intro hserver
  rw [hseen server hserver]
  simp

/-- Every server of an application can be inspected, and this is what they show. -/
def Inspected (f : Fleet) (inspect : Inspector) (app : Application)
    (shown : String → List Observation) : Prop :=
  ∀ name ∈ app.allServers, ∀ server, f.settings.server? name = some server →
    inspect server = .ok (shown name)

theorem exists_of_answers {inspect : Inspector} {server : Server}
    (h : answers inspect server = true) : ∃ shown, inspect server = .ok shown := by
  cases hinspect : inspect server with
  | ok shown => exact ⟨shown, rfl⟩
  | error e => simp [answers, hinspect] at h

/-- Where all configured servers answer, those of an application do. -/
theorem exists_inspected {f : Fleet} {inspect : Inspector}
    (hanswers : ∀ server ∈ f.settings.servers, answers inspect server = true)
    (app : Application) : ∃ shown, f.Inspected inspect app shown := by
  refine ⟨fun name =>
    ((f.settings.server? name).bind fun server => (inspect server).toOption).getD [], ?_⟩
  intro name _ server hserver
  obtain ⟨containers, hinspect⟩ :=
    exists_of_answers (hanswers server (List.mem_of_find?_eq_some hserver))
  simp [hserver, hinspect, Except.toOption]

section Inspected

variable {f : Fleet} (hvalid : f.settings.problems = []) (around : Surroundings)
  {inspect : Inspector} {app : Application} (happ : app ∈ f.settings.multiServerApplications)
  (hdep : f.isDeploying (.application app.id) = false) {shown : String → List Observation}
  (hshown : f.Inspected inspect app shown)
include hvalid happ hdep hshown

theorem lookup_snapshots_of_inspected {name : String} (hname : name ∈ app.allServers) :
    (snapshots inspect f.checkTargets).lookup name = some (.observed (shown name)) := by
  have hconfigured := Settings.server?_isSome_of_application hvalid
    (List.mem_filter.mp happ).1 hname
  obtain ⟨server, hserver⟩ := Option.isSome_iff_exists.mp hconfigured
  rw [lookup_snapshots, if_pos (mem_wantedServers happ hdep hname), hserver, Option.bind_some,
    hshown name hname server hserver]
  rfl

/-- The placements that are stored are those that the servers show. -/
theorem mem_placements_check_of_inspected (server : String) (r : StatusRecord) :
    (server, r) ∈ (f.check around inspect).1.placements app.id ↔ server ∈ app.allServers ∧
      r = placementRecord (around.composeOptional app.composePath) (.observed (shown server))
        around.now app := by
  obtain ⟨g, -, hdeploying, hg⟩ := check_isolated hvalid around inspect happ
  have hdep' := (isDeploying_congr hdeploying (.application app.id)).trans hdep
  have hchildren := Store.children_congr_of_family rfl hg
  rw [placements, hchildren]
  exact mem_placements_of_seen around hdep' (fun server hserver =>
    lookup_snapshots_of_inspected hvalid happ hdep hshown hserver) server r

/-- The application is recorded from the placements that are stored then. -/
theorem get?_check_self_of_inspected :
    let g := (f.check around inspect).1
    g.store.get? (.application app.id) =
      some
        { status := placedStatus (g.placements app.id)
          source := .complex
          containerCount := total
            ((g.store.children (.application app.id)).map fun (_, r) => r.containerCount)
          updatedAt := around.now } := by
  intro g
  have hplaced := List.ne_nil_of_mem ((mem_placements_check_of_inspected hvalid around happ hdep
    hshown app.server _).mpr ⟨List.mem_cons_self, rfl⟩)
  obtain ⟨g', -, hdeploying, hg'⟩ := check_isolated hvalid around inspect happ
  have hdep' := (isDeploying_congr hdeploying (.application app.id)).trans hdep
  have hchildren := Store.children_congr_of_family rfl hg'
  simp only [g, placements, hchildren] at hplaced ⊢
  rw [hg' _ rfl]
  exact get?_checkApplication_self around _ hdep' hplaced

/-- The application is rolled up from what its servers show. -/
theorem check_status_of_inspected :
    ∃ placements : List (String × StatusRecord),
      (∀ server r, (server, r) ∈ placements ↔ server ∈ app.allServers ∧
        r = placementRecord (around.composeOptional app.composePath) (.observed (shown server))
          around.now app) ∧
      ∃ r, (f.check around inspect).1.store.get? (.application app.id) = some r ∧
        r.status = placedStatus placements :=
  ⟨_, mem_placements_check_of_inspected hvalid around happ hdep hshown, _,
    get?_check_self_of_inspected hvalid around happ hdep hshown, rfl⟩

/-- The children that are left are the placements that the servers show. -/
theorem get?_check_child_of_inspected {k : ResourceKey}
    (hk : k.isChildOf (.application app.id) = true) {r : StatusRecord} :
    (f.check around inspect).1.store.get? k = some r ↔
      ∃ server ∈ app.allServers, k = .placement app.id server ∧
        r = placementRecord (around.composeOptional app.composePath) (.observed (shown server))
          around.now app := by
  obtain ⟨g, -, hdeploying, hg⟩ := check_isolated hvalid around inspect happ
  have hdep' := (isDeploying_congr hdeploying (.application app.id)).trans hdep
  rw [hg k (ResourceKey.isChildOf_iff.mp hk).2,
    get?_checkApplication_child_eq_some_iff around _ hdep' hk]
  refine exists_congr fun server => and_congr_right fun hserver => and_congr_right fun _ => ?_
  rw [lookup_snapshots_of_inspected hvalid happ hdep hshown hserver]
  simp

end Inspected

end FleetWatch.Fleet
