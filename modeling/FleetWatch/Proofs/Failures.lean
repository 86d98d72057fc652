import FleetWatch.Proofs.Forgetting

/-! # What is kept where an inspection fails

A server that cannot be inspected has nothing recorded: a poll writes under the keys of the servers
that answer, and a check keeps the placement that was stored before. An application of which no
placement is known after a check keeps the record that it had, so that nothing is told of it that
was not seen.
-/

namespace FleetWatch.Fleet

/-- A server of this name is configured and can be inspected. -/
def Answered (f : Fleet) (inspect : Inspector) (name : String) : Prop :=
  ∃ server ∈ f.settings.servers, server.name = name ∧ answers inspect server = true

/-- A check sees nothing of a server that cannot be inspected. -/
theorem lookup_snapshots_eq_none {f : Fleet} {inspect : Inspector} {name : String}
    (h : ¬ f.Answered inspect name) : (snapshots inspect f.checkTargets).lookup name = none := by
  rw [lookup_snapshots]
  split
  · cases hserver : f.settings.server? name with
    | none => rfl
    | some server =>
        cases hinspect : inspect server with
        | error e => simp [hinspect, Except.toOption]
        | ok containers =>
            exact absurd ⟨server, List.mem_of_find?_eq_some hserver,
              Settings.name_of_server? hserver, by simp [answers, hinspect]⟩ h
  · rfl

/-- A poll writes nothing but what the servers that answer have to themselves. -/
theorem written_of_get?_pollInOrder_ne {f : Fleet} {around : Surroundings} {inspect : Inspector}
    {order : List Server} (horder : order.Perm f.settings.servers) {k : ResourceKey}
    (hk : (f.pollInOrder around inspect order).1.store.get? k ≠ f.store.get? k) :
    ∃ name, f.Answered inspect name ∧ f.settings.WrittenWith name k := by
  by_contra hnot
  apply hk
  apply (pollInOrder_decides f.settings around inspect order).frame around.now f k rfl
  rintro ⟨server, hserver, hanswers, hwritten⟩
  exact hnot ⟨server.name, ⟨server, horder.mem_iff.mp hserver, rfl, hanswers⟩, hwritten⟩

/-- The report of an agent writes nothing but what its server has to itself. -/
theorem written_of_get?_report_ne {f : Fleet} {around : Surroundings} {r : AgentReport}
    {k : ResourceKey} (hk : (f.report around r).1.store.get? k ≠ f.store.get? k) :
    f.settings.WrittenWith r.server k := by
  by_contra hnot
  apply hk
  unfold report
  split
  · rfl
  · exact (applySnapshot_decides f.settings around r.server _ .agent).frame around.now f k rfl hnot

/-- A check writes nothing but the applications on more than one server. -/
theorem checked_of_get?_check_ne {f : Fleet} {around : Surroundings} {inspect : Inspector}
    {k : ResourceKey} (hk : (f.check around inspect).1.store.get? k ≠ f.store.get? k) :
    f.settings.Checked k.owner := by
  by_contra hnot
  exact hk ((check_local around inspect).frame around.now f k hnot)

section Check

variable {f : Fleet} (hvalid : f.settings.problems = []) (around : Surroundings)
  (inspect : Inspector) {app : Application} (happ : app ∈ f.settings.multiServerApplications)
  (hdep : f.isDeploying (.application app.id) = false)
include hvalid happ hdep

theorem get?_check_placement_of_not_answered {name : String} (hname : name ∈ app.allServers)
    (hfailed : ¬ f.Answered inspect name) :
    (f.check around inspect).1.store.get? (.placement app.id name) =
      f.store.get? (.placement app.id name) := by
  obtain ⟨g, hbefore, hdeploying, hg⟩ := check_isolated hvalid around inspect happ
  have hdep' := (isDeploying_congr hdeploying (.application app.id)).trans hdep
  rw [hg _ (ResourceKey.owner_placement _ _), ← hbefore _ (ResourceKey.owner_placement _ _)]
  exact get?_checkApplication_placement_of_not_seen around _ hdep' hname
    (lookup_snapshots_eq_none hfailed)

theorem get?_check_application_of_unplaced
    (hunplaced : ∀ name,
      (f.check around inspect).1.store.get? (.placement app.id name) = none) :
    (f.check around inspect).1.store.get? (.application app.id) =
      f.store.get? (.application app.id) := by
  obtain ⟨g, hbefore, hdeploying, hg⟩ := check_isolated hvalid around inspect happ
  have hdep' := (isDeploying_congr hdeploying (.application app.id)).trans hdep
  rw [hg _ rfl, ← hbefore _ rfl]
  apply get?_checkApplication_self_of_unplaced around _ hdep'
  rw [List.eq_nil_iff_forall_not_mem]
  rintro ⟨name, r⟩ hplacement
  obtain ⟨hname, hr⟩ := (mem_placements_checkApplication around _ hdep').mp hplacement
  have hstored := (get?_checkApplication_child_eq_some_iff around _ hdep'
    (ResourceKey.placement_isChildOf app.id name)).mpr ⟨name, hname, rfl, hr⟩
  rw [← hg _ (ResourceKey.owner_placement _ _), hunplaced name] at hstored
  cases hstored

end Check

/-- In valid settings, whichever servers cannot be inspected, a poll changes nothing but the records
of applications on one server that answers and the records and children of services on a server
that answers. A check changes nothing but applications on more than one server and their children.
Unless such an application is being deployed, its placements on servers that cannot be inspected
stay as they were, and so does its own record when no placement is stored afterwards. -/
theorem failures_keep_records {f : Fleet} (hvalid : f.settings.problems = [])
    (around : Surroundings) (inspect : Inspector) :
    (∀ order : List Server, order.Perm f.settings.servers → ∀ k,
      (f.pollInOrder around inspect order).1.store.get? k ≠ f.store.get? k →
        (∃ app ∈ f.settings.applications, app.isMultiServer = false ∧
          f.Answered inspect app.server ∧ k = .application app.id) ∨
        ∃ service ∈ f.settings.services, f.Answered inspect service.server ∧
          (k = .service service.id ∨ k.isChildOf (.service service.id) = true)) ∧
    let g := (f.check around inspect).1
    (∀ k, g.store.get? k ≠ f.store.get? k →
      ∃ app ∈ f.settings.multiServerApplications,
        k = .application app.id ∨ k.isChildOf (.application app.id) = true) ∧
    ∀ app ∈ f.settings.multiServerApplications, f.isDeploying (.application app.id) = false →
      (∀ name ∈ app.allServers, ¬ f.Answered inspect name →
        g.store.get? (.placement app.id name) = f.store.get? (.placement app.id name)) ∧
      ((∀ name, g.store.get? (.placement app.id name) = none) →
        g.store.get? (.application app.id) = f.store.get? (.application app.id)) := by
  refine ⟨fun order horder k hk => ?_, fun k hk => ?_, fun app happ hdep => ⟨?_, ?_⟩⟩
  · obtain ⟨name, hanswered, hwritten⟩ := written_of_get?_pollInOrder_ne horder hk
    rcases hwritten with ⟨app, happ, ⟨rfl, hsingle⟩, hkey⟩ | ⟨service, hservice, rfl, hkey⟩
    · exact .inl ⟨app, happ, hsingle, hanswered, hkey⟩
    · exact .inr ⟨service, hservice, hanswered,
        (ResourceKey.owner_eq_iff (ResourceKey.isTopLevel_service _)).mp hkey⟩
  · obtain ⟨app, happ, hkey⟩ := checked_of_get?_check_ne hk
    exact ⟨app, happ, (ResourceKey.owner_eq_iff (ResourceKey.isTopLevel_application _)).mp hkey⟩
  · exact fun name => get?_check_placement_of_not_answered hvalid around inspect happ hdep
  · exact get?_check_application_of_unplaced hvalid around inspect happ hdep

/-- One server of the shop can not be inspected, and the other one has nothing to show. -/
def halfInspector : Inspector := fun server =>
  if server.name = "edge-2" then .error (.timeout server.name 30) else .ok []

theorem not_answered_halfInspector : ¬ shopChecked.Answered halfInspector "edge-2" := by
  rintro ⟨server, -, hname, hanswers⟩
  simp [answers, halfInspector, hname] at hanswers

/-- The placement on the second server is kept, with its one container, while the first one is found
to be empty; a poll that no server answers changes nothing; and an application of which no placement
is known keeps its record in a check that no server answers. -/
theorem failures_keep_records_shop :
    let f := shopChecked
    let g := (f.check noFiles halfInspector).1
    let dark : Inspector := fun server => .error (.timeout server.name 30)
    let known : StatusRecord :=
      { status := .paused, source := .ssh, containerCount := 1, updatedAt := 5 }
    let moved : Fleet :=
      { settings := shopSettings, store := .ofList [(.application "shop", known)] }
    (g.store.get? (.placement "shop" "edge-2") = f.store.get? (.placement "shop" "edge-2") ∧
      (g.store.get? (.placement "shop" "edge-2")).map StatusRecord.containerCount = some 1 ∧
      (g.store.get? (.placement "shop" "edge-1")).map StatusRecord.containerCount = some 0) ∧
    (∀ k, (f.pollInOrder noFiles dark shopSettings.servers).1.store.get? k = f.store.get? k) ∧
    (moved.check noFiles dark).1.store.get? (.application "shop") = some known := by
  intro f g dark known moved
  have hvalid : f.settings.problems = [] := by decide
  let shop : Application := { id := "shop", server := "edge-1", additionalServers := ["edge-2"] }
  have hshop : shop ∈ f.settings.multiServerApplications := by decide
  obtain ⟨-, -, hcheck⟩ := failures_keep_records hvalid noFiles halfInspector
  obtain ⟨hpoll, -, -⟩ := failures_keep_records hvalid noFiles dark
  obtain ⟨-, -, hmoved⟩ := failures_keep_records (f := moved) hvalid noFiles dark
  refine ⟨⟨?_, by decide, by decide⟩, fun k => ?_, ?_⟩
  · exact (hcheck shop hshop rfl).1 "edge-2" (by decide) not_answered_halfInspector
  · have hdark : ∀ name, ¬ f.Answered dark name := by
      rintro name ⟨server, -, -, hanswers⟩
      cases hanswers
    by_contra hk
    rcases hpoll _ (.refl _) k hk with ⟨app, -, -, hanswered, -⟩ | ⟨service, -, hanswered, -⟩
    · exact hdark app.server hanswered
    · exact hdark service.server hanswered
  · have hentries :
        (moved.check noFiles dark).1.store.entries = [(.application "shop", known)] := by decide
    refine (hmoved shop hshop rfl).2 fun name => ?_
    have hne : ResourceKey.placement "shop" name ≠ .application "shop" :=
      ResourceKey.ne_of_isChildOf (ResourceKey.placement_isChildOf "shop" name) rfl
    rw [Store.get?, hentries, Store.lookup_entry_cons, if_neg hne]
    rfl

end FleetWatch.Fleet
