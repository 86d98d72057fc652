import FleetWatch.Proofs.Forgetting
import FleetWatch.Proofs.Gauge

/-! # Repeating a cycle

A cycle that is taken again, with nothing new to be seen, changes nothing but times. The second time
it starts from the records that the first one left: placements on servers that were not seen are
still those from before, the override counts what it has written itself, and what is read back from
the store is what was stored there. Each round finds its own family as it left it, since with valid
settings no other round has worked on it.
-/

namespace FleetWatch

theorem Store.SameButTimes.map_status {s t : Store} (h : s.SameButTimes t) (k : ResourceKey) :
    (s.get? k).map StatusRecord.status = (t.get? k).map StatusRecord.status :=
  StatusRecord.map_eq_of_undated (fun _ => rfl) (h k)

namespace Fleet

/-- Rounds on the families of some resources work on these resources. -/
theorem Local.foldl_keys {α : Type} {key : α → ResourceKey} {round : α → Nat → Fleet → Fleet}
    (hlocal : ∀ x, Local (fun _ => (· = key x)) (round x)) (xs : List α) :
    Local (fun _ k => k ∈ xs.map key) fun now f => xs.foldl (fun f x => round x now f) f :=
  .foldl fun x hx => (hlocal x).mono fun _ _ hk => hk ▸ List.mem_map_of_mem hx

/-! ## Steps that may be repeated -/

/-- Taken a second time, whenever that is, the step changes nothing but times. -/
def Repeatable (step : Nat → Fleet → Fleet) : Prop :=
  ∀ now now' f, (step now' (step now f)).Alike (step now f)

namespace Repeatable

variable {step step' : Nat → Fleet → Fleet}

/-- Of two steps that work on different resources, neither undoes what the other has settled. -/
theorem comp {foot foot' : Settings → ResourceKey → Prop} (h : Repeatable step)
    (h' : Repeatable step') (hlocal : Local foot step) (hlocal' : Local foot' step')
    (hdisjoint : ∀ s key, foot s key → ¬ foot' s key) :
    Repeatable fun now f => step' now (step now f) := by
  intro now now' f
  have hcongr : ∀ {g g' : Fleet}, g.Alike g' → ∀ t, (step' t g).Alike (step' t g') :=
    fun hg t => hlocal'.alikeOn hg (fun _ _ => trivial) t t
  have hswap := hlocal.comm hlocal' (hdisjoint (step now f).settings) now' now now now'
  -- The first step is settled already, and still is after the second one.
  have hfirst : (step now' (step' now (step now f))).Alike (step' now (step now f)) :=
    hswap.symm.trans (hcongr (h now now' f) now)
  exact (hcongr hfirst now').trans (h' now now' (step now f))

theorem foldl {α : Type} {key : α → ResourceKey} {round : α → Nat → Fleet → Fleet}
    (h : ∀ x, Repeatable (round x)) (hlocal : ∀ x, Local (fun _ => (· = key x)) (round x))
    {xs : List α} (hkeys : (xs.map key).Nodup) :
    Repeatable fun now f => xs.foldl (fun f x => round x now f) f := by
  induction xs with
  | nil => exact fun now now' f => .refl _ f
  | cons x rest ih =>
      obtain ⟨hx, hrest⟩ := List.nodup_cons.mp hkeys
      exact (h x).comp (ih hrest) (hlocal x) (.foldl_keys hlocal rest)
        fun _ _ hk hmem => hx (hk ▸ hmem)

/-- A step that writes the family of a resource may be repeated, if it finds this family settled. -/
theorem ofConfined {key : ResourceKey} (hconfined : ∀ now f, Confined key f (step now f))
    (hfamily : ∀ now now' f k, k.owner = key →
      ((step now' (step now f)).store.get? k).map StatusRecord.undated =
        ((step now f).store.get? k).map StatusRecord.undated) : Repeatable step := by
  intro now now' f
  have hagain := hconfined now' (step now f)
  refine ⟨hagain.settings, hagain.deploying, fun k _ => ?_⟩
  by_cases hk : k.owner = key
  · exact hfamily now now' f k hk
  · rw [hagain.frame k hk]

end Repeatable

/-- A record in place of one that differs in its time. -/
theorem get?_record_record {f : Fleet} {key : ResourceKey} {r r' : StatusRecord}
    (h : r'.undated = r.undated) (k : ResourceKey) :
    (((f.record key r).record key r').store.get? k).map StatusRecord.undated =
      ((f.record key r).store.get? k).map StatusRecord.undated := by
  simp only [store_record, Store.get?_insert]
  split
  · exact congrArg some h
  · rfl

theorem countOf_record (f : Fleet) (key : ResourceKey) (r : StatusRecord) :
    (f.record key r).countOf key = r.containerCount := by
  rw [countOf, store_record, Store.get?_insert_self]
  rfl

/-! ## Rounds -/

section Rounds

variable (around : Surroundings)

theorem recordApplication_repeatable (containers : Containers) (source : StatusSource)
    (app : Application) :
    Repeatable fun now f => recordApplication { around with now } containers source f app := by
  have hconfined := fun now f =>
    recordApplication_confined { around with now } containers source f app
  apply Repeatable.ofConfined hconfined
  intro now now' f k _
  have hdep := (hconfined now f).isDeploying (.application app.id)
  cases hf : f.isDeploying (.application app.id) with
  | true =>
      rw [recordApplication_of_deploying _ _ _ (hdep.trans hf),
        recordApplication_of_deploying _ _ _ hf]
      apply get?_record_record
      rfl
  | false =>
      rw [recordApplication_of_not_deploying _ _ _ (hdep.trans hf),
        recordApplication_of_not_deploying _ _ _ hf]
      apply get?_record_record
      rfl

theorem recordService_repeatable (containers : Containers) (source : StatusSource)
    (service : Service) :
    Repeatable fun now f => recordService { around with now } containers source f service := by
  have hconfined := fun now f =>
    recordService_confined { around with now } containers source f service
  apply Repeatable.ofConfined hconfined
  intro now now' f k hk
  have hdep := (hconfined now f).isDeploying (.service service.id)
  cases hf : f.isDeploying (.service service.id) with
  | true =>
      rw [recordService_of_deploying _ _ _ (hdep.trans hf), recordService_of_deploying _ _ _ hf]
      apply get?_record_record
      rfl
  | false =>
      have hagain := hdep.trans hf
      have halike := recordService_childrenAlike around containers source service hagain hf now' now
      rcases (ResourceKey.owner_eq_iff (ResourceKey.isTopLevel_service _)).mp hk with rfl | hchild
      · rw [get?_recordService_self _ _ _ hagain, get?_recordService_self _ _ _ hf,
          halike.parts_eq]
        rfl
      · exact halike k hchild

/-- A second check stores the same placements again, and finds those it kept where it left them. -/
theorem checkApplication_again_childrenAlike (seen : List (String × Snapshot)) (app : Application)
    {f g : Fleet} (hf : f.isDeploying (.application app.id) = false) {now : Nat}
    (hg : checkApplication { around with now } seen f app = g)
    (hagain : g.isDeploying (.application app.id) = false) (now' : Nat) :
    ChildrenAlike (.application app.id)
      (checkApplication { around with now := now' } seen g app) g := by
  intro k hk
  by_cases hplacement : ∃ server ∈ app.allServers, k = .placement app.id server
  · obtain ⟨server, hserver, rfl⟩ := hplacement
    cases hseen : seen.lookup server with
    | some snapshot =>
        rw [get?_checkApplication_placement _ _ hagain hserver hseen, ← hg,
          get?_checkApplication_placement _ _ hf hserver hseen]
        rfl
    | none =>
        rw [get?_checkApplication_placement_of_not_seen _ _ hagain hserver hseen]
  · have hnot : ∀ server ∈ app.allServers, k ≠ .placement app.id server :=
      fun server hserver heq => hplacement ⟨server, hserver, heq⟩
    rw [get?_checkApplication_child_eq_none _ _ hagain hk hnot, ← hg,
      get?_checkApplication_child_eq_none _ _ hf hk hnot]

theorem checkApplication_repeatable (seen : List (String × Snapshot)) (app : Application) :
    Repeatable fun now f => checkApplication { around with now } seen f app := by
  have hconfined := fun now f => checkApplication_confined { around with now } seen f app
  apply Repeatable.ofConfined hconfined
  intro now now' f k hk
  have hdep := (hconfined now f).isDeploying (.application app.id)
  cases hf : f.isDeploying (.application app.id) with
  | true =>
      rw [checkApplication_of_deploying _ _ (hdep.trans hf), checkApplication_of_deploying _ _ hf]
      -- The override counts what the record before it has counted.
      apply get?_record_record
      rw [countOf_record]
      rfl
  | false =>
      have hagain := hdep.trans hf
      have halike := checkApplication_again_childrenAlike around seen app hf rfl hagain now'
      rcases (ResourceKey.owner_eq_iff (ResourceKey.isTopLevel_application _)).mp hk with
        rfl | hchild
      · have hempty := halike.isEmpty_placements_eq
        by_cases hplaced : (checkApplication { around with now } seen f app).placements app.id = []
        · rw [hplaced] at hempty
          rw [get?_checkApplication_self_of_unplaced _ _ hagain (List.isEmpty_iff.mp hempty)]
        · rw [List.isEmpty_eq_false_iff.mpr hplaced] at hempty
          rw [get?_checkApplication_self _ _ hagain (List.isEmpty_eq_false_iff.mp hempty),
            get?_checkApplication_self _ _ hf hplaced, halike.placedStatus_eq, halike.counts_eq]
          rfl
      · exact halike k hchild

/-- The rounds of a snapshot, in which every resource comes once. -/
theorem snapshotRounds_repeatable (snapshot : Snapshot) (source : StatusSource)
    {apps : List Application} {services : List Service}
    (happs : (apps.map fun app => ResourceKey.application app.id).Nodup)
    (hservices : (services.map fun service => ResourceKey.service service.id).Nodup) :
    Repeatable fun now f =>
      services.foldl
        (fun f service =>
          recordService { around with now } (snapshot.containers service.id) source f service)
        (apps.foldl (fun f app =>
          recordApplication { around with now } (snapshot.containers app.id) source f app) f) := by
  have happlication : ∀ app : Application, Local (fun _ => (· = .application app.id)) fun now f =>
      recordApplication { around with now } (snapshot.containers app.id) source f app :=
    fun app => recordApplication_local around _ source app
  have hservice : ∀ service : Service, Local (fun _ => (· = .service service.id)) fun now f =>
      recordService { around with now } (snapshot.containers service.id) source f service :=
    fun service => recordService_local around _ source service
  have hfirst := Repeatable.foldl
    (fun app => recordApplication_repeatable around _ source app) happlication happs
  have hsecond := Repeatable.foldl
    (fun service => recordService_repeatable around _ source service) hservice hservices
  refine hfirst.comp hsecond (.foldl_keys happlication apps) (.foldl_keys hservice services) ?_
  rintro - k hk hk'
  obtain ⟨app, -, rfl⟩ := List.mem_map.mp hk
  obtain ⟨service, -, hkey⟩ := List.mem_map.mp hk'
  exact ResourceKey.service_ne_application _ _ hkey

end Rounds

/-! ## Collections -/

section Collections

variable {f : Fleet} (hvalid : f.settings.problems = []) (around : Surroundings) (now now' : Nat)
include hvalid

theorem applySnapshot_repeated (server : String) (snapshot : Snapshot) (source : StatusSource) :
    let once := f.applySnapshot { around with now } server snapshot source
    (once.applySnapshot { around with now := now' } server snapshot source).Alike once := by
  intro once
  obtain ⟨-, happs, hservices⟩ := Settings.nodup_of_problems hvalid
  have hrounds := snapshotRounds_repeatable around snapshot source
    (ResourceKey.nodup_map_filter (fun _ _ => ResourceKey.application_inj.mp) happs
      fun a => a.server == server && !a.isMultiServer)
    (ResourceKey.nodup_map_filter (fun _ _ => ResourceKey.service_inj.mp) hservices
      (·.server == server))
  have hsettings : once.settings = f.settings :=
    (applySnapshot_local around server snapshot source).settings now f
  -- The second time, the same resources are found on the server.
  rw [applySnapshot, applicationsOn, servicesOn, hsettings]
  exact hrounds now now' f

theorem check_repeated (inspect : Inspector) :
    let once := (f.check { around with now } inspect).1
    (once.check { around with now := now' } inspect).1.store.SameButTimes once.store := by
  intro once
  let apps := f.settings.multiServerApplications
  let round (app : Application) (now : Nat) (g : Fleet) : Fleet :=
    checkApplication { around with now } (snapshots inspect f.checkTargets) g app
  let rounds (now : Nat) (g : Fleet) : Fleet := apps.foldl (fun g app => round app now g) g
  have hlocal := check_local around inspect
  have hsettings : once.settings = f.settings := hlocal.settings now f
  have hdeploying : once.deploying = f.deploying := hlocal.deploying now f
  have htargets : once.checkTargets = f.checkTargets := by
    simp only [checkTargets, wantedServers, isDeploying, hsettings, hdeploying]
  have hstore : ∀ t (g : Fleet), g.settings = f.settings → g.checkTargets = f.checkTargets →
      (g.check { around with now := t } inspect).1.store = (rounds t g).store := by
    intro t g hsettings htargets
    rw [(check_eq_foldl g _ inspect).1, hsettings, htargets]
  have hround : ∀ app, Local (fun _ => (· = .application app.id)) (round app) :=
    checkApplication_local around _
  have hrounds : Local (fun _ _ => True) rounds :=
    .foldl fun app _ => (hround app).mono fun _ _ _ => trivial
  have hkeys := ResourceKey.nodup_map_filter (fun _ _ => ResourceKey.application_inj.mp)
    (Settings.nodup_of_problems hvalid).2.1 Application.isMultiServer
  have hrepeatable : Repeatable rounds :=
    .foldl (checkApplication_repeatable around _) hround hkeys
  -- Beside the rounds, a check only takes a measurement.
  have honce : once.Alike (rounds now f) := by
    refine ⟨hsettings.trans (hrounds.settings now f).symm,
      hdeploying.trans (hrounds.deploying now f).symm, fun k _ => ?_⟩
    rw [← hstore now f rfl rfl]
  intro k
  rw [hstore now' once hsettings htargets]
  have hagain := (hrounds.congr now' now' _ _ honce).trans (hrepeatable now now' f)
  exact (hagain.trans honce.symm).store k

end Collections

/-- With valid settings, a collection that is taken again leaves what it has left the first time:
what a server shows may be recorded twice, and a check may be taken twice. Whatever was stored or
being deployed before, only the times of records change. -/
theorem repeating_changes_nothing {f : Fleet} (hvalid : f.settings.problems = [])
    (around : Surroundings) (now now' : Nat) :
    (∀ server snapshot source,
      let once := f.applySnapshot { around with now } server snapshot source
      let twice := once.applySnapshot { around with now := now' } server snapshot source
      twice.store.SameButTimes once.store) ∧
    ∀ inspect,
      let once := (f.check { around with now } inspect).1
      let twice := (once.check { around with now := now' } inspect).1
      twice.store.SameButTimes once.store :=
  ⟨fun server snapshot source =>
    (applySnapshot_repeated hvalid around now now' server snapshot source).store,
    check_repeated hvalid around now now'⟩

/-- The shop is listed twice on its first server, and the board is on both servers as well. -/
def doubledSettings : Settings :=
  { shopSettings with
    applications :=
      [{ id := "shop", server := "edge-1", additionalServers := ["edge-2", "edge-1"] },
        { id := "board", server := "edge-1", additionalServers := ["edge-2"] }] }

/-- Only the first server can be inspected. -/
def dimInspector : Inspector := fun server =>
  if server.name = "edge-1" then shopInspector server else .error (.timeout server.name 30)

/-- Both servers have been checked, and then the board is deployed. -/
def doubledFleet : Fleet :=
  (({ settings := doubledSettings } : Fleet).check noFiles shopInspector).1.setDeploying 0
    (.application "board") true

/-- After the second server has gone dark, two checks leave the shop with the placement it had
there, and the board with its override, as one does. -/
theorem repeating_changes_nothing_shop :
    let once := (doubledFleet.check { noFiles with now := 0 } dimInspector).1
    let twice := (once.check { noFiles with now := 60 } dimInspector).1
    let status (key : ResourceKey) := (twice.store.get? key).map StatusRecord.status
    doubledFleet.settings.problems = [] ∧ twice.store.SameButTimes once.store ∧
      status (.placement "shop" "edge-2") = some (.running .healthy) ∧
      status (.application "shop") = some (.running .healthy) ∧
      status (.application "board") = some .deploying := by
  have hvalid : doubledFleet.settings.problems = [] := by decide
  have htwice := (repeating_changes_nothing hvalid noFiles 0 60).2 dimInspector
  refine ⟨hvalid, htwice, ?_, ?_, ?_⟩
  · exact (htwice.map_status _).trans (by decide)
  · exact (htwice.map_status _).trans (by decide)
  · exact (htwice.map_status _).trans (by decide)

end Fleet

end FleetWatch
