import FleetWatch.Proofs.Run
import FleetWatch.Settings.Validation
import Mathlib.Tactic.ByContra
import Mathlib.Tactic.Tauto

/-! # The number of tracked resources

The number of records in the store is measured whenever something is recorded, but not when records
are dropped. A service whose parts are dropped is recorded right after that, and so is an
application that has a placement left. An application that has none left is passed over. Then the
number that was measured last is too large, until something is recorded again; it is never too
small, and nothing else makes it wrong.
-/

namespace FleetWatch

namespace Store

theorem size_retainChildren_le (s : Store) (parent : ResourceKey) (keep : List ResourceKey) :
    (s.retainChildren parent keep).size ≤ s.size := List.length_filter_le _ _

/-- If nothing that is to be kept is stored, all children are dropped. -/
theorem size_retainChildren_add_length_children {s : Store} (parent : ResourceKey)
    {keep : List ResourceKey} (hkeep : ∀ k ∈ keep, s.get? k = none) :
    (s.retainChildren parent keep).size + (s.children parent).length = s.size := by
  have hkept : ∀ e ∈ s.entries, keep.contains e.1 = false := by
    rintro ⟨k, r⟩ he
    rw [Bool.eq_false_iff]
    intro hk
    have hnone := hkeep k (List.contains_iff_mem.mp hk)
    rw [get?_eq_some_iff.mpr he] at hnone
    cases hnone
  have hdropped : (s.retainChildren parent keep).entries =
      s.entries.filter fun e => !e.1.isChildOf parent := by
    apply List.filter_congr
    intro e he
    rw [hkept e he, Bool.or_false]
  rw [size, hdropped, size, children, Nat.add_comm, ← List.length_eq_length_filter_add]

end Store

theorem total_pos_iff (counts : List Nat) : 0 < total counts ↔ ∃ n ∈ counts, 0 < n := by
  induction counts with
  | nil => simp [total]
  | cons n rest ih =>
      rw [total, List.foldr_cons, ← total, Nat.add_pos_iff_pos_or_pos, ih, List.exists_mem_cons_iff]

namespace Fleet

/-- The number of records that was measured last, zero before any measurement. -/
def tracked (f : Fleet) : Nat := (Measurement.lastTracked? f.log).getD 0

/-- The number that was measured last is the number of records in the store. -/
def Accurate (f : Fleet) : Prop := f.tracked = f.store.size

/-- The number that was measured last is not too small. -/
def Covering (f : Fleet) : Prop := f.store.size ≤ f.tracked

theorem Accurate.covering {f : Fleet} (h : f.Accurate) : f.Covering := h.ge

/-! ## One resource -/

theorem accurate_record (f : Fleet) (key : ResourceKey) (r : StatusRecord) :
    (f.record key r).Accurate := rfl

theorem accurate_recordApplication (around : Surroundings) (containers : Containers)
    (source : StatusSource) (f : Fleet) (app : Application) :
    (recordApplication around containers source f app).Accurate := by
  unfold recordApplication
  dsimp only
  split
  · exact accurate_record f _ _
  · exact accurate_record f _ _

theorem accurate_recordService (around : Surroundings) (containers : Containers)
    (source : StatusSource) (f : Fleet) (service : Service) :
    (recordService around containers source f service).Accurate := by
  unfold recordService
  dsimp only
  split
  · exact accurate_record f _ _
  · exact accurate_record _ _ _

/-- An application is passed over by a check: none of its servers was seen, and it has no placement
stored on them. -/
def PassedOver (seen : List (String × Snapshot)) (f : Fleet) (app : Application) : Prop :=
  f.isDeploying (.application app.id) = false ∧
    ∀ server ∈ app.allServers,
      seen.lookup server = none ∧ f.store.get? (.placement app.id server) = none

section Check

variable {around : Surroundings} {seen : List (String × Snapshot)} {f : Fleet} {app : Application}

theorem placements_withPlacements_eq_nil_iff (hdep : f.isDeploying (.application app.id) = false) :
    (withPlacements around seen f app).placements app.id = [] ↔
      ∀ server ∈ app.allServers,
        seen.lookup server = none ∧ f.store.get? (.placement app.id server) = none := by
  rw [← placements_checkApplication around seen hdep, List.eq_nil_iff_forall_not_mem]
  constructor
  · intro hnone server hserver
    have hplacement : ∀ r, ¬ ((∃ snapshot, seen.lookup server = some snapshot ∧ _) ∨ _) :=
      fun r hr => hnone (server, r)
        ((mem_placements_checkApplication around seen hdep).mpr ⟨hserver, hr⟩)
    have hseen : seen.lookup server = none := by
      rw [Option.eq_none_iff_forall_ne_some]
      exact fun snapshot hseen => hplacement _ (.inl ⟨snapshot, hseen, rfl⟩)
    refine ⟨hseen, ?_⟩
    rw [Option.eq_none_iff_forall_ne_some]
    exact fun r hr => hplacement r (.inr ⟨hseen, hr⟩)
  · rintro hnone ⟨server, r⟩ hmem
    obtain ⟨hserver, ⟨snapshot, hseen, -⟩ | ⟨-, hstored⟩⟩ :=
      (mem_placements_checkApplication around seen hdep).mp hmem
    · simp [(hnone server hserver).1] at hseen
    · simp [(hnone server hserver).2] at hstored

/-- An application that is passed over loses all its placements, and nothing is recorded. -/
theorem checkApplication_of_passedOver (h : PassedOver seen f app) :
    checkApplication around seen f app =
      f.retainChildren (.application app.id) (app.allServers.map (.placement app.id)) := by
  have hbatch : placementRecords (around.composeOptional app.composePath) seen around.now app =
      [] := by
    apply List.filterMap_eq_nil_iff.mpr
    intro server hserver
    rw [(h.2 server hserver).1, Option.map_none]
  rw [checkApplication_of_not_deploying around seen h.1]
  dsimp only
  rw [(placements_withPlacements_eq_nil_iff h.1).mpr h.2, List.isEmpty_nil, if_pos rfl,
    withPlacements, hbatch]
  rfl

theorem accurate_checkApplication (h : ¬ PassedOver seen f app) :
    (checkApplication around seen f app).Accurate := by
  cases hdep : f.isDeploying (.application app.id) with
  | true =>
      rw [checkApplication_of_deploying around seen hdep]
      exact accurate_record f _ _
  | false =>
      rw [checkApplication_of_not_deploying around seen hdep]
      dsimp only
      have hplaced : (withPlacements around seen f app).placements app.id ≠ [] := by
        rw [ne_eq, placements_withPlacements_eq_nil_iff hdep]
        exact fun hnone => h ⟨hdep, hnone⟩
      rw [if_neg (by simpa using hplaced)]
      exact accurate_record _ _ _

/-- Of an application that is passed over, as many records are dropped as it has children. -/
theorem accurate_checkApplication_of_passedOver (hf : f.Covering) (h : PassedOver seen f app) :
    (checkApplication around seen f app).Accurate ↔
      f.Accurate ∧ f.store.children (.application app.id) = [] := by
  have hkeep : ∀ k ∈ app.allServers.map (ResourceKey.placement app.id),
      f.store.get? k = none := by
    intro k hk
    obtain ⟨server, hserver, rfl⟩ := List.mem_map.mp hk
    exact (h.2 server hserver).2
  have hsize := Store.size_retainChildren_add_length_children (.application app.id) hkeep
  rw [checkApplication_of_passedOver h, Accurate, Accurate, ← List.length_eq_zero_iff]
  change f.tracked = (f.store.retainChildren _ _).size ↔ _
  unfold Covering at hf
  omega

/-- What a check leaves is what its rounds leave. -/
theorem check_eq_foldl (f : Fleet) (around : Surroundings) (inspect : Inspector) :
    let g := f.settings.multiServerApplications.foldl
      (checkApplication around (snapshots inspect f.checkTargets)) f
    (f.check around inspect).1.store = g.store ∧
      (f.check around inspect).1.tracked = g.tracked := by
  unfold check
  dsimp only
  split
  next hnone =>
    rw [List.isEmpty_iff.mp hnone]
    exact ⟨rfl, rfl⟩
  next => exact ⟨rfl, rfl⟩

end Check

/-! ## Never too small -/

theorem Covering.foldl {α : Type} {round : Fleet → α → Fleet}
    (hround : ∀ g x, g.Covering → (round g x).Covering) {f : Fleet} (h : f.Covering)
    (xs : List α) : (xs.foldl round f).Covering := by
  induction xs generalizing f with
  | nil => exact h
  | cons x rest ih => exact ih (hround f x h)

theorem Covering.checkApplication {around : Surroundings} {seen : List (String × Snapshot)}
    {f : Fleet} (h : f.Covering) (app : Application) :
    (checkApplication around seen f app).Covering := by
  by_cases hpassed : PassedOver seen f app
  · rw [checkApplication_of_passedOver hpassed]
    exact (Store.size_retainChildren_le _ _ _).trans h
  · exact (accurate_checkApplication hpassed).covering

theorem Covering.applySnapshot {f : Fleet} (h : f.Covering) (around : Surroundings)
    (server : String) (snapshot : Snapshot) (source : StatusSource) :
    (f.applySnapshot around server snapshot source).Covering := by
  apply Covering.foldl
  · exact fun g service _ => (accurate_recordService around _ source g service).covering
  · apply Covering.foldl _ h
    exact fun g app _ => (accurate_recordApplication around _ source g app).covering

theorem Covering.collection {f g : Fleet} (h : f.Covering) (hcollection : Collection f g) :
    g.Covering := by
  cases hcollection with
  | poll around inspect =>
      change (List.foldl _ f _).Covering
      apply h.foldl
      intro g server hg
      unfold pollServer
      split
      · exact hg.applySnapshot around server.name _ _
      · exact hg
  | report around r =>
      unfold report
      split
      · exact h
      · exact h.applySnapshot around r.server _ _
  | check around inspect =>
      obtain ⟨hstore, htracked⟩ := check_eq_foldl f around inspect
      rw [Covering, hstore, htracked]
      exact h.foldl (fun g app hg => hg.checkApplication app) _

theorem Reachable.covering {f : Fleet} (hf : Reachable f) : f.Covering := by
  induction hf with
  | start settings storePath => exact Nat.le_refl 0
  | @step f g _ hfg ih =>
      cases hfg with
      | collect hcollection => exact ih.collection hcollection
      | deploy now hkey on =>
          cases on with
          | true => exact (accurate_record _ _ _).covering
          | false => exact ih
      | configure settings => exact ih

/-! ## Rounds that record -/

/-- A loop whose rounds make the number right in certain cases, and leave it alone otherwise, makes
it right if one of these cases comes up. -/
theorem accurate_foldl_iff {α : Type} {round : Fleet → α → Fleet} {f : Fleet} {recorded : α → Prop}
    (hsettings : ∀ g x, (round g x).settings = g.settings)
    (hround : ∀ g, g.settings = f.settings → ∀ x,
      ((round g x).Accurate ↔ g.Accurate ∨ recorded x)) (xs : List α) :
    (xs.foldl round f).Accurate ↔ f.Accurate ∨ ∃ x ∈ xs, recorded x := by
  induction xs generalizing f with
  | nil => simp
  | cons x rest ih =>
      have hrest := @ih (round f x) fun g hg => hround g (hg.trans (hsettings f x))
      rw [List.foldl_cons, hrest, hround f rfl, List.exists_mem_cons_iff, or_assoc]

theorem accurate_applySnapshot_iff (f : Fleet) (around : Surroundings) (server : String)
    (snapshot : Snapshot) (source : StatusSource) :
    (f.applySnapshot around server snapshot source).Accurate ↔
      f.Accurate ∨ 0 < f.resourcesOn server := by
  unfold applySnapshot
  dsimp only
  rw [accurate_foldl_iff
      (fun g service => (recordService_confined around _ source g service).settings)
      fun g _ service =>
        iff_of_true (accurate_recordService around _ source g service) (.inr trivial),
    accurate_foldl_iff (fun g app => (recordApplication_confined around _ source g app).settings)
      fun g _ app => iff_of_true (accurate_recordApplication around _ source g app) (.inr trivial)]
  simp only [and_true, or_assoc, resourcesOn, Nat.add_pos_iff_pos_or_pos,
    List.length_pos_iff_exists_mem]

theorem accurate_pollServer_iff (around : Surroundings) (inspect : Inspector) (f : Fleet)
    (server : Server) :
    (pollServer around inspect f server).Accurate ↔
      f.Accurate ∨ answers inspect server = true ∧ 0 < f.resourcesOn server.name := by
  unfold pollServer answers
  cases inspect server with
  | ok containers => simp [accurate_applySnapshot_iff]
  | error e => simp

/-- A poll makes the number right if it records anything. -/
theorem accurate_poll_iff (f : Fleet) (around : Surroundings) (inspect : Inspector)
    (order : List Server) :
    (f.pollInOrder around inspect order).1.Accurate ↔
      f.Accurate ∨ 0 < (f.pollInOrder around inspect order).2 := by
  change (order.foldl (pollServer around inspect) f).Accurate ↔ _
  rw [@accurate_foldl_iff _ _ _ (fun server =>
      answers inspect server = true ∧ 0 < f.resourcesOn server.name)
    (fun g server => (pollServer_updates g around inspect server).settings_eq)]
  · rw [pollInOrder, total_pos_iff]
    simp [and_assoc]
  · intro g hg server
    have hshared : g.resourcesOn server.name = f.resourcesOn server.name := by
      rw [resourcesOn, resourcesOn, applicationsOn, applicationsOn, servicesOn, servicesOn, hg]
    rw [accurate_pollServer_iff, hshared]

/-- A report makes the number right if it is accepted and records anything. -/
theorem accurate_report_iff (f : Fleet) (around : Surroundings) (r : AgentReport) :
    (f.report around r).1.Accurate ↔
      f.Accurate ∨
        ∃ summary, (f.report around r).2 = .ok summary ∧ 0 < summary.resourcesUpdated := by
  unfold report
  cases f.settings.server? r.server with
  | none =>
      change f.Accurate ↔ _
      simp
  | some server =>
      change (f.applySnapshot around r.server _ _).Accurate ↔ _
      simp [accurate_applySnapshot_iff]

/-! ## Checks -/

/-- Some application is recorded when its turn comes. -/
def Records (around : Surroundings) (seen : List (String × Snapshot)) :
    Fleet → List Application → Prop
  | _, [] => False
  | f, app :: rest =>
      ¬ PassedOver seen f app ∨ Records around seen (checkApplication around seen f app) rest

/-- Some application is passed over and loses the children it had, and after it none is recorded. -/
def Forgets (around : Surroundings) (seen : List (String × Snapshot)) :
    Fleet → List Application → Prop
  | _, [] => False
  | f, app :: rest =>
      (PassedOver seen f app ∧ f.store.children (.application app.id) ≠ [] ∧
          ¬ Records around seen (checkApplication around seen f app) rest) ∨
        Forgets around seen (checkApplication around seen f app) rest

theorem accurate_foldl_checkApplication_iff {around : Surroundings}
    {seen : List (String × Snapshot)} {f : Fleet} (hf : f.Covering) (apps : List Application) :
    (apps.foldl (checkApplication around seen) f).Accurate ↔
      (f.Accurate ∨ Records around seen f apps) ∧ ¬ Forgets around seen f apps := by
  induction apps generalizing f with
  | nil => simp [Records, Forgets]
  | cons app rest ih =>
      rw [List.foldl_cons, ih (hf.checkApplication app), Records, Forgets]
      by_cases hpassed : PassedOver seen f app
      · rw [accurate_checkApplication_of_passedOver hf hpassed]
        tauto
      · have haccurate : (checkApplication around seen f app).Accurate :=
          accurate_checkApplication hpassed
        tauto

/-- A check of the fleet records some application. -/
def CheckRecords (f : Fleet) (around : Surroundings) (inspect : Inspector) : Prop :=
  Records around (snapshots inspect f.checkTargets) f f.settings.multiServerApplications

/-- A check of the fleet drops the last records of some application, and records nothing after
it. -/
def CheckForgets (f : Fleet) (around : Surroundings) (inspect : Inspector) : Prop :=
  Forgets around (snapshots inspect f.checkTargets) f f.settings.multiServerApplications

/-- A check makes the number right if it records anything, and wrong if it drops records after
that. -/
theorem accurate_check_iff {f : Fleet} (hf : f.Covering) (around : Surroundings)
    (inspect : Inspector) :
    (f.check around inspect).1.Accurate ↔
      (f.Accurate ∨ f.CheckRecords around inspect) ∧ ¬ f.CheckForgets around inspect := by
  obtain ⟨hstore, htracked⟩ := check_eq_foldl f around inspect
  rw [CheckRecords, CheckForgets, ← accurate_foldl_checkApplication_iff hf, Accurate, hstore,
    htracked, Accurate]

/-! ## Runs -/

theorem accurate_setDeploying_iff (f : Fleet) (now : Nat) (key : ResourceKey) (on : Bool) :
    (f.setDeploying now key on).Accurate ↔ f.Accurate ∨ on = true := by
  cases on with
  | true => exact iff_of_true (accurate_record _ _ _) (.inr rfl)
  | false =>
      change f.Accurate ↔ _
      simp

/-- A step from a fleet whose number is right leads to such a fleet, unless it is a check that drops
records and records nothing after that. -/
theorem Accurate.step {f g : Fleet} (h : f.Accurate) (hfg : Step f g) :
    g.Accurate ∨
      ∃ around inspect, f.CheckForgets around inspect ∧ g = (f.check around inspect).1 := by
  cases hfg with
  | collect hcollection =>
      cases hcollection with
      | poll around inspect => exact .inl ((accurate_poll_iff f around inspect _).mpr (.inl h))
      | report around r => exact .inl ((accurate_report_iff f around r).mpr (.inl h))
      | check around inspect =>
          by_cases hforgets : f.CheckForgets around inspect
          · exact .inr ⟨around, inspect, hforgets, rfl⟩
          · exact .inl ((accurate_check_iff h.covering around inspect).mpr ⟨.inl h, hforgets⟩)
  | deploy now hkey on => exact .inl ((accurate_setDeploying_iff f now _ on).mpr (.inl h))
  | configure settings => exact .inl h

/-- The number can only be wrong after a check that drops records and records nothing after that. -/
theorem Reachable.accurate_or {f : Fleet} (hf : Reachable f) :
    f.Accurate ∨
      ∃ e around inspect, Reachable e ∧ e.CheckForgets around inspect ∧
        Relation.ReflTransGen Step (e.check around inspect).1 f := by
  induction hf with
  | start settings storePath => exact .inl rfl
  | step hf hfg ih =>
      rcases ih with haccurate | ⟨e, around, inspect, he, hforgets, hrun⟩
      · rcases haccurate.step hfg with haccurate | ⟨around, inspect, hforgets, rfl⟩
        · exact .inl haccurate
        · exact .inr ⟨_, around, inspect, hf, hforgets, .refl⟩
      · exact .inr ⟨e, around, inspect, he, hforgets, hrun.tail hfg⟩

/-- The number of records that was measured last is never too small. It is right in the beginning
and stays right until a check drops the last records of some application and records nothing after
that. Then it is too large, and it is right again once anything is recorded: by a poll or a report
that counts a resource, by a check that ends without such a loss, or by a deployment that begins. -/
theorem tracked_follows_store {f : Fleet} (hf : Reachable f) (around : Surroundings)
    (inspect : Inspector) :
    f.store.size ≤ f.tracked ∧
    (f.tracked = f.store.size ∨
      ∃ e around inspect, Reachable e ∧ e.CheckForgets around inspect ∧
        Relation.ReflTransGen Step (e.check around inspect).1 f) ∧
    ((f.check around inspect).1.Accurate ↔
      (f.Accurate ∨ f.CheckRecords around inspect) ∧ ¬ f.CheckForgets around inspect) ∧
    (∀ order : List Server, (f.pollInOrder around inspect order).1.Accurate ↔
      f.Accurate ∨ 0 < (f.pollInOrder around inspect order).2) ∧
    (∀ r : AgentReport, (f.report around r).1.Accurate ↔
      f.Accurate ∨
        ∃ summary, (f.report around r).2 = .ok summary ∧ 0 < summary.resourcesUpdated) ∧
    (∀ (now : Nat) (key : ResourceKey) (on : Bool),
      (f.setDeploying now key on).Accurate ↔ f.Accurate ∨ on = true) ∧
    ∀ settings : Settings, Accurate { f with settings } ↔ f.Accurate :=
  ⟨hf.covering, hf.accurate_or, accurate_check_iff hf.covering around inspect,
    accurate_poll_iff f around inspect, accurate_report_iff f around, accurate_setDeploying_iff f,
    fun _ => Iff.rfl⟩

/-- The settings of the shop when it has been moved to two other servers. -/
def farSettings : Settings :=
  { shopSettings with
    servers := shopSettings.servers ++
      [{ name := "edge-3", host := "10.0.0.7" }, { name := "edge-4", host := "10.0.0.8" }]
    applications := [{ id := "shop", server := "edge-3", additionalServers := ["edge-4"] }] }

/-- No server can be inspected. -/
def darkInspector : Inspector := fun server => .error (.timeout server.name 30)

/-- The shop is moved to two servers of which none can be inspected. The check drops its placements
on the servers it was on before, and the number of records is too large until the next poll that
records the mail service. -/
theorem tracked_follows_store_shop :
    let f : Fleet := { shopChecked with settings := farSettings }
    let g := (f.check noFiles darkInspector).1
    Reachable f ∧ f.Accurate ∧ f.CheckForgets noFiles darkInspector ∧ ¬ g.Accurate ∧
      (g.pollInOrder noFiles shopInspector farSettings.servers).1.Accurate := by
  intro f g
  have hf : Reachable f := .step shopChecked_reachable (.configure farSettings)
  have hg : Reachable g := .step hf (.collect (.check _ _))
  have haccurate : f.Accurate := rfl
  have hwrong : ¬ g.Accurate := by
    change ¬ g.tracked = g.store.size
    decide
  obtain ⟨-, -, hcheck, -⟩ := tracked_follows_store hf noFiles darkInspector
  obtain ⟨-, -, -, hpoll, -⟩ := tracked_follows_store hg noFiles shopInspector
  refine ⟨hf, haccurate, ?_, hwrong, (hpoll _).mpr (.inr (by decide))⟩
  by_contra hforgets
  exact hwrong (hcheck.mpr ⟨.inl haccurate, hforgets⟩)

/-- After that check three records are shown, and one is stored. -/
theorem tracked_exceeds_store_shop :
    let f : Fleet := { shopChecked with settings := farSettings }
    let g := (f.check noFiles darkInspector).1
    (Reachable g ∧ shopSettings.problems = [] ∧ farSettings.problems = []) ∧
      g.tracked = 3 ∧ g.store.size = 1 := by
  intro f g
  refine ⟨⟨?_, by decide, by decide⟩, by decide, by decide⟩
  exact .step (.step shopChecked_reachable (.configure farSettings)) (.collect (.check _ _))

end Fleet

end FleetWatch
