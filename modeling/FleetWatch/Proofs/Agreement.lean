import FleetWatch.Proofs.Run

/-! # Polls and reports agree

What an agent reports of a server may be ordered and spelled in its own way. As long as it reports
the containers that an inspection shows, taking in the report leaves the store that a poll leaves,
but for the sources and the times of what is recorded.
-/

namespace FleetWatch

/-! ## What is seen of a report -/

/-- An agent reports a container as it is observed, with any spelling of its status. -/
structure AgentContainer.Reports (a : AgentContainer) (c : Observation) : Prop where
  name : a.name = c.name
  labels : ∀ label, a.labels.get? label = c.labels.get? label
  restartCount : a.restartCount = c.restartCount
  status : StatusToken.parse? a.status = some c.token

/-- An agent reports the containers that are observed, in an order of its own. -/
def AgentReport.Covers (r : AgentReport) (os : List Observation) : Prop :=
  ∃ seen : List Observation, seen.Perm os ∧ List.Forall₂ AgentContainer.Reports r.containers seen

/-- An inspection takes the service of a container from its labels. -/
theorem Inspect.Record.service_of_observation? {record : Inspect.Record} {c : Observation}
    (h : record.observation? = some c) : c.service = c.labels.get? composeServiceLabel := by
  obtain ⟨state, -, rfl⟩ := Option.map_eq_some_iff.mp h
  rfl

/-- The same is seen of a container, whether it is reported or observed. -/
theorem AgentContainer.Reports.sighting_eq {a : AgentContainer} {c : Observation}
    (h : a.Reports c) (hservice : c.service = c.labels.get? composeServiceLabel) :
    a.named.sighting = c.sighting := by
  rw [NamedStatus.sighting, Observation.sighting, Observation.exclusionKey, hservice]
  simp only [named, h.name, h.labels, h.restartCount, h.status]

theorem Snapshot.sightings_of_reports {reports : List AgentContainer} {os : List Observation}
    (hreports : List.Forall₂ AgentContainer.Reports reports os)
    (hos : ∀ c ∈ os, c.service = c.labels.get? composeServiceLabel) (id : String) :
    ((reported reports).containers id).sightings = ((observed os).containers id).sightings := by
  simp only [containers, Containers.sightings, List.map_map]
  induction hreports with
  | nil => rfl
  | @cons a c rest os hac _ ih =>
      have ih := ih fun c' hc' => hos c' (List.mem_cons_of_mem _ hc')
      rw [List.filter_cons, List.filter_cons, hac.labels]
      split
      · rw [List.map_cons, List.map_cons, ih, Function.comp_apply,
          hac.sighting_eq (hos c List.mem_cons_self)]
      · exact ih

/-- A report shows the same of every resource as the observations that it covers. -/
theorem Snapshot.alike_of_covers {r : AgentReport} {os : List Observation} (hcovers : r.Covers os)
    (hos : ∀ c ∈ os, c.service = c.labels.get? composeServiceLabel) (id : String) :
    ((observed os).containers id).Alike ((reported r.containers).containers id) := by
  obtain ⟨seen, hperm, hreports⟩ := hcovers
  rw [Containers.Alike,
    sightings_of_reports hreports fun c hc => hos c (hperm.mem_iff.mp hc)]
  exact (hperm.symm.filter _).map _

/-- What a record says, apart from where it comes from and when it was taken. -/
def StatusRecord.content (r : StatusRecord) : Status × Nat × Bool :=
  (r.status, r.containerCount, r.allExcluded)

namespace Fleet

/-- The source of what is recorded under a key: the override has a source of its own. -/
def sourceOf (f : Fleet) (key : ResourceKey) (source : StatusSource) : StatusSource :=
  if key.isTopLevel && f.isDeploying key then .deployment else source

/-- What two collections leave under a key: both keep what was there, both drop it, or both record
the same content, each with its own source. -/
inductive Agree (f : Fleet) (source source' : StatusSource) (key : ResourceKey) :
    Option StatusRecord → Option StatusRecord → Prop
  | kept : Agree f source source' key (f.store.get? key) (f.store.get? key)
  | dropped : Agree f source source' key none none
  | written {r r' : StatusRecord} (hcontent : r.content = r'.content)
      (hsource : r.source = f.sourceOf key source) (hsource' : r'.source = f.sourceOf key source') :
      Agree f source source' key (some r) (some r')

theorem Agree.map_content {f : Fleet} {source source' : StatusSource} {key : ResourceKey}
    {r r' : Option StatusRecord} (h : Agree f source source' key r r') :
    r.map StatusRecord.content = r'.map StatusRecord.content := by
  cases h with
  | kept => rfl
  | dropped => rfl
  | written hcontent _ _ => exact congrArg some hcontent

theorem Agree.map_status {f : Fleet} {source source' : StatusSource} {key : ResourceKey}
    {r r' : Option StatusRecord} (h : Agree f source source' key r r') :
    r.map StatusRecord.status = r'.map StatusRecord.status := by
  have hcontent := congrArg (Option.map Prod.fst) h.map_content
  rwa [Option.map_map, Option.map_map] at hcontent

/-- Two fleets that came from one by collections that agree so far. -/
structure Twin (f : Fleet) (source source' : StatusSource) (g h : Fleet) : Prop where
  deploying : g.deploying = f.deploying
  deploying' : h.deploying = f.deploying
  agree : ∀ key, Agree f source source' key (g.store.get? key) (h.store.get? key)

section Rounds

variable {f g h : Fleet} {source source' : StatusSource}

namespace Twin

theorem refl (f : Fleet) (source source' : StatusSource) : Twin f source source' f f :=
  ⟨rfl, rfl, fun _ => .kept⟩

theorem isDeploying (hgh : Twin f source source' g h) (key : ResourceKey) :
    g.isDeploying key = f.isDeploying key ∧ h.isDeploying key = f.isDeploying key := by
  rw [Fleet.isDeploying, Fleet.isDeploying, Fleet.isDeploying, hgh.deploying, hgh.deploying']
  exact ⟨rfl, rfl⟩

theorem record (hgh : Twin f source source' g h) {key : ResourceKey} {r r' : StatusRecord}
    (hcontent : r.content = r'.content) (hsource : r.source = f.sourceOf key source)
    (hsource' : r'.source = f.sourceOf key source') :
    Twin f source source' (g.record key r) (h.record key r') := by
  refine ⟨hgh.deploying, hgh.deploying', fun k => ?_⟩
  rw [store_record, store_record, Store.get?_insert, Store.get?_insert]
  by_cases hk : k = key
  · subst hk
    rw [if_pos rfl, if_pos rfl]
    exact .written hcontent hsource hsource'
  · rw [if_neg hk, if_neg hk]
    exact hgh.agree k

/-- The override does not depend on the way of collection. -/
theorem record_deploying (hgh : Twin f source source' g h) {key : ResourceKey}
    (hkey : key.isTopLevel = true) (hdep : f.isDeploying key = true) (count now now' : Nat) :
    Twin f source source' (g.record key (.deploying count now))
      (h.record key (.deploying count now')) := by
  refine hgh.record rfl ?_ ?_ <;> simp [sourceOf, hkey, hdep, StatusRecord.deploying]

/-- A round agrees when it leaves the same under the keys of one family and touches no others. -/
theorem round (hgh : Twin f source source' g h) {g' h' : Fleet} {key : ResourceKey}
    (hg : Confined key g g') (hh : Confined key h h')
    (hfamily : ∀ k, k.owner = key →
      Agree f source source' k (g'.store.get? k) (h'.store.get? k)) :
    Twin f source source' g' h' := by
  refine ⟨hg.deploying.trans hgh.deploying, hh.deploying.trans hgh.deploying', fun k => ?_⟩
  by_cases hk : k.owner = key
  · exact hfamily k hk
  · rw [hg.frame k hk, hh.frame k hk]
    exact hgh.agree k

end Twin

variable {cs ds : Containers} (hcs : cs.Alike ds) (around : Surroundings) (now' : Nat)
include hcs

theorem Twin.recordApplication (hgh : Twin f source source' g h) (app : Application) :
    Twin f source source' (Fleet.recordApplication around cs source g app)
      (Fleet.recordApplication { around with now := now' } ds source' h app) := by
  obtain ⟨hg, hh⟩ := hgh.isDeploying (.application app.id)
  cases hdep : f.isDeploying (.application app.id) with
  | true =>
      rw [recordApplication_of_deploying _ _ _ (hg.trans hdep),
        recordApplication_of_deploying _ _ _ (hh.trans hdep), hcs.count_eq]
      exact hgh.record_deploying rfl hdep _ _ _
  | false =>
      rw [recordApplication_of_not_deploying _ _ _ (hg.trans hdep),
        recordApplication_of_not_deploying _ _ _ (hh.trans hdep), hcs.count_eq, hcs.evaluate_eq]
      exact hgh.record rfl (by simp [sourceOf, hdep]) (by simp [sourceOf, hdep])

theorem mem_partNames_alike (compose : ComposeFile) (sub : String) :
    sub ∈ partNames compose cs ↔ sub ∈ partNames compose ds := by
  simp only [mem_partNames, hcs.mem_iff]

theorem partRecord_content (compose : ComposeFile) (now : Nat) (sub : String) :
    (partRecord compose cs source now sub).content =
      (partRecord compose ds source' now' sub).content := by
  have hnamed := hcs.named sub
  simp only [partRecord, StatusRecord.content, hnamed.count_eq, hnamed.evaluate_eq,
    hnamed.evaluateExcluded_eq]

/-- Either way, the stored parts of a service are those that were made up, and they were made up
alike. -/
theorem agree_recordService_child {service : Service}
    (hg : g.isDeploying (.service service.id) = false)
    (hh : h.isDeploying (.service service.id) = false) {k : ResourceKey}
    (hk : k.isChildOf (.service service.id) = true) :
    Agree f source source' k ((recordService around cs source g service).store.get? k)
      ((recordService { around with now := now' } ds source' h service).store.get? k) := by
  let compose := around.compose service.composePath
  have hnames := mem_partNames_alike hcs compose
  by_cases hmade : ∃ sub ∈ partNames compose cs, k = .part service.id sub
  · obtain ⟨sub, hsub, rfl⟩ := hmade
    rw [get?_recordService_part around cs source hg hsub,
      get?_recordService_part { around with now := now' } ds source' hh ((hnames sub).mp hsub)]
    exact .written (partRecord_content hcs now' compose _ sub) rfl rfl
  · rw [get?_recordService_child_eq_none _ _ _ hg hk, get?_recordService_child_eq_none _ _ _ hh hk]
    · exact .dropped
    · exact fun sub hsub heq => hmade ⟨sub, (hnames sub).mpr hsub, heq⟩
    · exact fun sub hsub heq => hmade ⟨sub, hsub, heq⟩

theorem Twin.recordService (hgh : Twin f source source' g h) (service : Service) :
    Twin f source source' (Fleet.recordService around cs source g service)
      (Fleet.recordService { around with now := now' } ds source' h service) := by
  obtain ⟨hg, hh⟩ := hgh.isDeploying (.service service.id)
  cases hdep : f.isDeploying (.service service.id) with
  | true =>
      rw [recordService_of_deploying _ _ _ (hg.trans hdep),
        recordService_of_deploying _ _ _ (hh.trans hdep), hcs.count_eq]
      exact hgh.record_deploying rfl hdep _ _ _
  | false =>
      rw [hdep] at hg hh
      have hchild : ∀ k, k.isChildOf (.service service.id) = true → Agree f source source' k
          ((Fleet.recordService around cs source g service).store.get? k)
          ((Fleet.recordService { around with now := now' } ds source' h service).store.get? k) :=
        fun k hk => agree_recordService_child hcs around now' hg hh hk
      refine hgh.round (recordService_confined around cs source g service)
        (recordService_confined _ ds source' h service) fun k hk => ?_
      cases htop : k.isTopLevel with
      | false => exact hchild k (ResourceKey.isChildOf_iff.mpr ⟨htop, hk⟩)
      | true =>
          -- The stored parts say the same, and the service is rolled up from them.
          obtain rfl := (ResourceKey.isTopLevel_iff.mp htop).symm.trans hk
          have hparts := parts_congr fun k hk => (hchild k hk).map_status
          rw [get?_recordService_self _ _ _ hg, get?_recordService_self _ _ _ hh, hparts]
          exact .written rfl (by simp [sourceOf, hdep]) (by simp [sourceOf, hdep])

end Rounds

/-- Snapshots that show the same of every resource are taken in alike. -/
theorem applySnapshot_twin (f : Fleet) (source source' : StatusSource) (around : Surroundings)
    (now' : Nat) (server : String) {shown reported : Snapshot}
    (halike : ∀ id, (shown.containers id).Alike (reported.containers id)) :
    Twin f source source' (f.applySnapshot around server shown source)
      (f.applySnapshot { around with now := now' } server reported source') := by
  unfold applySnapshot
  refine List.foldl_rel (List.foldl_rel (.refl f source source') ?_) ?_
  · exact fun app _ _ _ hgh => Twin.recordApplication (halike app.id) around now' hgh app
  · exact fun service _ _ _ hgh => Twin.recordService (halike service.id) around now' hgh service

/-- What an inspection shows of a server and what its agent reports of it are taken in alike: the
stores hold the same keys with the same status, count and flag, and whatever is written differs in
nothing but its source and its time. -/
theorem report_agrees_with_inspection {f : Fleet} {r : AgentReport} {os : List Observation}
    (hserver : (f.settings.server? r.server).isSome)
    (hos : ∀ c ∈ os, ∃ record : Inspect.Record, record.observation? = some c)
    (hcovers : r.Covers os) (around : Surroundings) (now' : Nat) (source : StatusSource) :
    let inspected := f.applySnapshot around r.server (.observed os) source
    let reported := (f.report { around with now := now' } r).1
    (∀ key, (inspected.store.get? key).map StatusRecord.content =
      (reported.store.get? key).map StatusRecord.content) ∧
    ∀ key, Agree f source .agent key (inspected.store.get? key) (reported.store.get? key) := by
  intro inspected reported
  have hservice : ∀ c ∈ os, c.service = c.labels.get? composeServiceLabel := by
    intro c hc
    obtain ⟨record, hrecord⟩ := hos c hc
    exact Inspect.Record.service_of_observation? hrecord
  have htwin := applySnapshot_twin f source .agent around now' r.server
    (Snapshot.alike_of_covers hcovers hservice)
  have hreported : reported.store =
      (f.applySnapshot { around with now := now' } r.server (.reported r.containers)
        .agent).store := by
    obtain ⟨server, hserver⟩ := Option.isSome_iff_exists.mp hserver
    simp only [reported, report, hserver, store_measure]
  rw [hreported]
  exact ⟨fun key => (htwin.agree key).map_content, htwin.agree⟩

/-- An agent lists two containers of the service in another order and with its own spellings. Its
report is taken in like the inspection, which finds one part running and the other one stopped. -/
theorem report_agrees_with_inspection_shop :
    let f : Fleet := { settings := shopSettings }
    let spoolContainer : Observation :=
      { name := "spool-1", state := .exited, labels := [(resourceLabel, "mail")] }
    let r : AgentReport :=
      { server := "edge-1"
        containers :=
          [{ name := "spool-1", status := " Exited:none", labels := spoolContainer.labels },
            { name := "mail-1", status := "Running (healthy)", labels := mailContainer.labels }] }
    ((f.report noFiles r).1.store.get? (.service "mail")).map StatusRecord.content =
      some (.degraded, 2, false) := by
  intro f spoolContainer r
  have hserver : (f.settings.server? r.server).isSome := rfl
  have hos : ∀ c ∈ [mailContainer, spoolContainer],
      ∃ record : Inspect.Record, record.observation? = some c := by
    simp only [List.forall_mem_cons]
    refine ⟨⟨{
      name := some "/mail-1"
      state := some
        { status := some (some "running")
          health := some (some { status := some (some "healthy") }) }
      config := some (some { labels := some (some mailContainer.labels) }) }, by decide⟩,
      ⟨{
        name := some "/spool-1"
        state := some { status := some (some "exited") }
        config := some (some { labels := some (some spoolContainer.labels) }) }, by decide⟩,
      fun c hc => absurd hc List.not_mem_nil⟩
  have hcovers : r.Covers [mailContainer, spoolContainer] :=
    ⟨[spoolContainer, mailContainer], .swap _ _ _,
      .cons ⟨rfl, fun _ => rfl, rfl, by decide⟩ (.cons ⟨rfl, fun _ => rfl, rfl, by decide⟩ .nil)⟩
  have hagree := (report_agrees_with_inspection hserver hos hcovers noFiles 0 .ssh).1
  exact (hagree (.service "mail")).symm.trans (by decide)

end Fleet

end FleetWatch
