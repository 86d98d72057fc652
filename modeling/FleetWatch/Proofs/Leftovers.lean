import FleetWatch.Proofs.Placements
import FleetWatch.Proofs.Run

/-! # Placements that are left over

A check drops the placements of an application that are not on its servers any more. Only
applications on more than one server are checked, though, and nothing else drops a placement. An
application that comes to have one server keeps the placements that it had before.
-/

namespace FleetWatch.Fleet

/-! ## Applications on one server -/

section Single

variable {f g : Fleet} (hvalid : f.settings.problems = []) {app : Application}
  (happ : app ∈ f.settings.applications) (hsingle : app.isMultiServer = false)
  {k : ResourceKey} (hk : k.isChildOf (.application app.id) = true)
include hvalid happ hsingle hk

/-- An update leaves the placements of an application on one server alone. -/
theorem Update.get?_child_of_single (h : Update f g) : g.store.get? k = f.store.get? k := by
  have howner : k.owner = .application app.id := (ResourceKey.isChildOf_iff.mp hk).2
  cases h with
  | @application around containers source app' _ _ _ =>
      exact get?_recordApplication_of_ne around containers source f app'
        (ResourceKey.ne_of_isChildOf hk rfl)
  | @service around containers source service _ _ =>
      apply (recordService_confined around containers source f service).frame
      rw [howner]
      exact ResourceKey.application_ne_service _ _
  | @placements around seen app' happ' hmulti =>
      apply (checkApplication_confined around seen f app').frame
      rw [howner]
      intro hkey
      -- The application that is checked would be the one on one server.
      obtain rfl :=
        Settings.application_eq_of_id hvalid happ happ' (ResourceKey.application_inj.mp hkey)
      exact Bool.false_ne_true (hsingle.symm.trans hmulti)
  | measurement m => rfl

theorem Updates.get?_child_of_single (h : Updates f g) : g.store.get? k = f.store.get? k := by
  apply h.get?_eq
  intro f₁ f₂ hsettings _ hupdate
  rw [← hsettings] at hvalid happ
  exact hupdate.get?_child_of_single hvalid happ hsingle hk

end Single

theorem updates_of_collections {f g : Fleet} (h : Relation.ReflTransGen Collection f g) :
    Updates f g := by
  induction h with
  | refl => exact .refl
  | tail _ hlast ih => exact ih.trans hlast.updates

/-! ## All applications -/

/-- After a poll and a check in which all servers answer, the stored placements of an application on
more than one server are those on its servers. An application on one server has those that were
stored before: no run of polls, reports and checks ever changes one of them. -/
theorem placements_after_collection {f : Fleet} (hvalid : f.settings.problems = [])
    {app : Application} (happ : app ∈ f.settings.applications)
    (hdep : f.isDeploying (.application app.id) = false) (around around' : Surroundings)
    (inspect : Inspector) {inspect' : Inspector} {order : List Server}
    (horder : order.Perm f.settings.servers)
    (hanswers : ∀ server ∈ f.settings.servers, answers inspect' server = true)
    (server : String) :
    let key := ResourceKey.placement app.id server
    let g := ((f.pollInOrder around inspect order).1.check around' inspect').1
    ((g.store.get? key).isSome ↔
      if app.isMultiServer then server ∈ app.allServers else (f.store.get? key).isSome) ∧
    (app.isMultiServer = false → ∀ h, Relation.ReflTransGen Collection f h →
      h.store.get? key = f.store.get? key) := by
  intro key g
  have hkey : key.isChildOf (.application app.id) = true := ResourceKey.placement_isChildOf _ _
  have hkept : app.isMultiServer = false → ∀ h, Relation.ReflTransGen Collection f h →
      h.store.get? key = f.store.get? key := fun hsingle h hcollections =>
    (updates_of_collections hcollections).get?_child_of_single hvalid happ hsingle hkey
  refine ⟨?_, hkept⟩
  cases hmulti : app.isMultiServer with
  | false =>
      have hcollections : Relation.ReflTransGen Collection f g :=
        .tail (.single (.poll around inspect horder)) (.check around' inspect')
      rw [hkept hmulti g hcollections]
      simp
  | true =>
      -- The poll leaves the check to find the same settings and deployments.
      have hpolled := poll_updates f around inspect order
      rw [← hpolled.settings_eq] at hvalid happ hanswers
      rw [isDeploying, ← hpolled.deploying_eq] at hdep
      obtain ⟨shown, hshown⟩ := exists_inspected hanswers app
      have happ' := List.mem_filter.mpr ⟨happ, hmulti⟩
      rw [Option.isSome_iff_exists, if_pos rfl]
      simp only [g, get?_check_child_of_inspected hvalid around' happ' hdep hshown hkey]
      constructor
      · rintro ⟨_, server', hserver', hplacement, -⟩
        rwa [(ResourceKey.placement_inj.mp hplacement).2]
      · exact fun hserver => ⟨_, server, hserver, rfl, rfl⟩

/-- The settings of the shop when it has been moved. -/
def movedSettings (server : String) (additionalServers : List String) : Settings :=
  { shopSettings with
    servers := { name := "edge-3", host := "10.0.0.7" } :: shopSettings.servers
    applications := [{ id := "shop", server, additionalServers }] }

/-- The shop was on two servers. Moved to the second and a third one, it loses its placement on the
first at the next check; left on the first one alone, it keeps both. -/
theorem placements_after_collection_shop :
    let moved : Fleet := { shopChecked with settings := movedSettings "edge-2" ["edge-3"] }
    let left : Fleet := { shopChecked with settings := movedSettings "edge-1" [] }
    let collected (f : Fleet) := ((f.poll noFiles shopInspector).1.check noFiles shopInspector).1
    let placed (f : Fleet) (server : String) := (f.store.get? (.placement "shop" server)).isSome
    placed (collected moved) "edge-1" = false ∧ placed (collected moved) "edge-3" = true ∧
      placed (collected left) "edge-2" = true ∧
      ∀ h, Relation.ReflTransGen Collection left h → placed h "edge-2" = true := by
  intro moved left collected placed
  have hanswers (f : Fleet) : ∀ server ∈ f.settings.servers, answers shopInspector server = true :=
    fun _ _ => rfl
  have hmoved := placements_after_collection (f := moved) (by decide) (List.mem_singleton_self _)
    rfl noFiles noFiles shopInspector (.refl _) (hanswers moved)
  have hleft := placements_after_collection (f := left) (by decide) (List.mem_singleton_self _)
    rfl noFiles noFiles shopInspector (.refl _) (hanswers left)
  refine ⟨?_, ?_, ?_, ?_⟩
  · rw [Bool.eq_false_iff]
    exact mt (hmoved "edge-1").1.mp (by decide)
  · exact (hmoved "edge-3").1.mpr (by decide)
  · exact (hleft "edge-2").1.mpr (by decide)
  · intro h hcollections
    simp only [placed, (hleft "edge-2").2 rfl h hcollections]
    rfl

/-- The shop is on two servers, is checked, and is left on the first one alone. Both servers answer
to a poll and to a check, and its placement on the second one is still stored. -/
theorem left_over_placement_shop :
    let app : Application := { id := "shop", server := "edge-1" }
    let f : Fleet := { shopChecked with settings := movedSettings "edge-1" [] }
    let g := ((f.poll noFiles shopInspector).1.check noFiles shopInspector).1
    (Reachable f ∧ shopSettings.problems = [] ∧ f.settings.problems = [] ∧
      app ∈ f.settings.applications ∧ f.deploying = [] ∧
      ∀ server ∈ f.settings.servers, answers shopInspector server = true) ∧
    (g.store.get? (.placement app.id "edge-2")).isSome = true ∧ "edge-2" ∉ app.allServers := by
  intro app f g
  refine ⟨⟨?_, by decide, by decide, by decide, rfl, fun _ _ => rfl⟩, by decide, by decide⟩
  exact .step shopChecked_reachable (.configure (movedSettings "edge-1" []))

end FleetWatch.Fleet
