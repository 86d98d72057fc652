import FleetWatch.Proofs.Healthy
import FleetWatch.Proofs.Run

/-! # What is ever stored

Few statuses are ever made up, and each writer records them under keys of its own, with a source of
its own. An update leaves a record as it was or writes one of four kinds of record, so in every run
each stored record is of one of these kinds; what holds of all four holds of all that is stored.

A rollup reads stored statuses back. It need not be known what was stored: whatever the parts say, a
rollup evaluates them as containers are evaluated.
-/

namespace FleetWatch

namespace Status

/-- The statuses that collectors make up. -/
def collected : List Status :=
  [running .healthy, running .unhealthy, running .unknown,
    (running .healthy).tagged, (running .unhealthy).tagged, (running .unknown).tagged,
    degraded, ⟨.degraded, none, true⟩, starting, ⟨.starting, none, true⟩,
    paused, ⟨.paused, none, true⟩, exited, unknownExcluded]

example : collected.map text =
    ["running:healthy", "running:unhealthy", "running:unknown",
      "running:healthy:excluded", "running:unhealthy:excluded", "running:unknown:excluded",
      "degraded:unhealthy", "degraded:excluded", "starting:unknown", "starting:excluded",
      "paused:unknown", "paused:excluded", "exited", "unknown:unknown:excluded"] := by
  decide +kernel

theorem deploying_not_mem_collected : deploying ∉ collected := by decide

/-- The outcomes of the decision table, plain and tagged. -/
theorem mem_collected_ofTokens (ts : List StatusToken) (maxRestarts : Int) :
    ofTokens ts maxRestarts ∈ collected ∧ (ofTokens ts maxRestarts).forExcluded ∈ collected := by
  obtain h | h | h | h | ⟨q, h⟩ := ofTokens_cases ts maxRestarts
  case inr.inr.inr.inr =>
    rw [h]
    cases q <;> decide
  all_goals
    rw [h]
    decide

theorem mem_collected_ofExcludedSightings (seen : List Sighting) :
    ofExcludedSightings seen ∈ collected := by
  unfold ofExcludedSightings
  split
  · decide
  · exact (mem_collected_ofTokens _ _).2

theorem mem_collected_evaluateSightings (seen : List Sighting) (excluded : List String) :
    evaluateSightings seen excluded ∈ collected := by
  unfold evaluateSightings
  dsimp only
  split
  · split
    · decide
    · exact mem_collected_ofExcludedSightings seen
  · exact (mem_collected_ofTokens _ _).1

theorem mem_collected_rollup (parts : List (String × Status)) (excluded : List String) :
    rollup parts excluded ∈ collected := by
  rw [rollup_eq]
  exact mem_collected_evaluateSightings _ _

/-- What excluded containers say is tagged, unless it says nothing about health. -/
theorem forExcluded_ofTokens_excluded (ts : List StatusToken) (maxRestarts : Int) :
    (ofTokens ts maxRestarts).forExcluded.excluded = true ∨
      (ofTokens ts maxRestarts).forExcluded = exited := by
  obtain h | h | h | h | ⟨q, h⟩ := ofTokens_cases ts maxRestarts <;> rw [h]
  case inr.inr.inr.inl => exact .inr rfl
  all_goals exact .inl rfl

theorem ofExcludedSightings_excluded (seen : List Sighting) :
    (ofExcludedSightings seen).excluded = true ∨ ofExcludedSightings seen = exited := by
  unfold ofExcludedSightings
  split
  · exact .inl rfl
  · exact forExcluded_ofTokens_excluded _ _

theorem base_forExcluded_ofTokens (ts : List StatusToken) (maxRestarts : Int) :
    (ofTokens ts maxRestarts).forExcluded.base ≠ .unknown := by
  obtain h | h | h | h | ⟨q, h⟩ := ofTokens_cases ts maxRestarts <;> rw [h] <;>
    exact Base.noConfusion

end Status

namespace Containers

variable {cs : Containers} {excluded : List String}

theorem mem_collected_evaluate (cs : Containers) (excluded : List String) :
    cs.evaluate excluded ∈ Status.collected := by
  rw [evaluate_eq]
  exact Status.mem_collected_evaluateSightings _ _

theorem mem_collected_evaluateExcluded (cs : Containers) (excluded : List String) :
    cs.evaluateExcluded excluded ∈ Status.collected := by
  rw [evaluateExcluded_eq]
  exact Status.mem_collected_ofExcludedSightings _

/-! ## Containers that are excluded as a whole -/

theorem count_pos_of_allExcluded (h : cs.allExcluded excluded = true) : 0 < cs.count := by
  rw [allExcluded_eq, Bool.and_eq_true, Bool.not_eq_true'] at h
  rw [count_eq, List.length_pos_iff]
  exact List.isEmpty_eq_false_iff.mp h.1

theorem evaluate_of_allExcluded (h : cs.allExcluded excluded = true) :
    cs.evaluate excluded = Status.ofExcludedSightings cs.sightings := by
  have hsome := count_pos_of_allExcluded h
  rw [count_eq, List.length_pos_iff] at hsome
  rw [allExcluded_eq, Bool.and_eq_true, List.all_eq_true] at h
  rw [evaluate_eq]
  exact Status.evaluateSightings_of_excluded hsome fun c hc => List.contains_iff_mem.mp (h.2 c hc)

theorem evaluate_excluded_of_allExcluded (h : cs.allExcluded excluded = true) :
    (cs.evaluate excluded).excluded = true ∨ cs.evaluate excluded = .exited := by
  rw [evaluate_of_allExcluded h]
  exact Status.ofExcludedSightings_excluded _

/-- Only containers that are excluded as a whole are tagged. -/
theorem allExcluded_of_evaluate_excluded (h : (cs.evaluate excluded).excluded = true) :
    cs.allExcluded excluded = true := by
  by_contra hflag
  rw [(evaluate_plain (Bool.eq_false_iff.mpr hflag)).1] at h
  cases h

/-- Of observed containers something is always known. -/
theorem base_evaluate_observed (os : List Observation) (excluded : List String) :
    ((observed os).evaluate excluded).base ≠ .unknown := by
  cases hflag : (observed os).allExcluded excluded with
  | false => exact (evaluate_plain hflag).2
  | true =>
      have hsome := count_pos_of_allExcluded hflag
      have htokens : ((observed os).sightings.filterMap Sighting.token).isEmpty = false := by
        cases os with
        | nil => exact absurd hsome (Nat.lt_irrefl 0)
        | cons c rest => simp [sightings]
      rw [evaluate_of_allExcluded hflag, Status.ofExcludedSightings, htokens]
      exact Status.base_forExcluded_ofTokens _ _

end Containers

/-! ## Records -/

/-- The key of a placement of an application. -/
def ResourceKey.IsPlacement (k : ResourceKey) : Prop := ∃ id server, k = .placement id server

/-- Applications have no parts, and services have no placements. -/
structure ResourceKey.IsRegular (k : ResourceKey) : Prop where
  application : k.kind = .application → k.subResource = none
  service : k.kind = .service → k.server = none

theorem ResourceKey.IsRegular.of_isTopLevel {k : ResourceKey} (h : k.isTopLevel = true) :
    k.IsRegular := by
  simp only [isTopLevel, Bool.and_eq_true, Option.isNone_iff_eq_none] at h
  exact ⟨fun _ => h.1, fun _ => h.2⟩

theorem ResourceKey.isRegular_part (id sub : String) : (part id sub).IsRegular :=
  ⟨fun h => (nomatch h), fun _ => rfl⟩

theorem ResourceKey.isRegular_placement (id server : String) : (placement id server).IsRegular :=
  ⟨fun _ => rfl, fun h => (nomatch h)⟩

/-- What is ever recorded under a key. -/
inductive Recordable : ResourceKey → StatusRecord → Prop
  /-- The override, for a resource. -/
  | override {key : ResourceKey} (hkey : key.isTopLevel = true) (count now : Nat) :
      Recordable key (.deploying count now)
  /-- What a poll or a report says of a resource or of a part of a service. -/
  | collected {key : ResourceKey} (hkey : key.IsRegular) (hserver : key.server = none)
      {status : Status} (hstatus : status ∈ Status.collected) {source : StatusSource}
      (hsource : source = .ssh ∨ source = .agent) (count now : Nat) :
      Recordable key { status, source, containerCount := count, updatedAt := now }
  /-- What a check says of an application. -/
  | checked (id : String) {status : Status} (hstatus : status ∈ Status.collected)
      (count now : Nat) :
      Recordable (.application id)
        { status, source := .complex, containerCount := count, updatedAt := now }
  /-- What a check says of a placement. -/
  | placement (app : Application) (server : String) (compose : ComposeFile)
      (containers : List Observation) (now : Nat) :
      Recordable (.placement app.id server)
        (Fleet.placementRecord compose (.observed containers) now app)

/-- What can be relied on in a record that is stored under a key. -/
structure WellFormed (k : ResourceKey) (r : StatusRecord) : Prop where
  deployment_iff : r.source = .deployment ↔ r.status = .deploying
  isTopLevel_of_deployment : r.source = .deployment → k.isTopLevel = true
  kind_of_complex : r.source = .complex → k.kind = .application
  source_of_placement : k.IsPlacement → r.source ≠ .ssh ∧ r.source ≠ .agent
  of_allExcluded : r.allExcluded = true →
    k.IsPlacement ∧ 0 < r.containerCount ∧ (r.status.excluded = true ∨ r.status = .exited)
  allExcluded_of_placement : k.IsPlacement → r.status.excluded = true → r.allExcluded = true
  status : r.status = .deploying ∨ r.status ∈ Status.collected
  status_of_placement : k.IsPlacement → r.status ≠ .unknownExcluded

theorem not_isPlacement_of_server {k : ResourceKey} (h : k.server = none) : ¬ k.IsPlacement := by
  rintro ⟨id, server, rfl⟩
  cases h

theorem not_isPlacement_of_isTopLevel {k : ResourceKey} (h : k.isTopLevel = true) :
    ¬ k.IsPlacement := by
  rintro ⟨id, server, rfl⟩
  cases h

theorem ne_deploying_of_mem_collected {s : Status} (h : s ∈ Status.collected) : s ≠ .deploying := by
  rintro rfl
  exact Status.deploying_not_mem_collected h

theorem Recordable.isRegular {k : ResourceKey} {r : StatusRecord} (h : Recordable k r) :
    k.IsRegular := by
  cases h with
  | override hkey count now => exact .of_isTopLevel hkey
  | collected hkey hserver hstatus hsource count now => exact hkey
  | checked id hstatus count now => exact .of_isTopLevel rfl
  | placement app server compose containers now => exact ResourceKey.isRegular_placement _ _

/-- Elsewhere than under the keys of placements, no record is flagged. -/
theorem WellFormed.of_not_isPlacement {k : ResourceKey} {r : StatusRecord} (hk : ¬ k.IsPlacement)
    (hflag : r.allExcluded = false) (hdeployment : r.source = .deployment ↔ r.status = .deploying)
    (htop : r.source = .deployment → k.isTopLevel = true)
    (hcomplex : r.source = .complex → k.kind = .application)
    (hstatus : r.status = .deploying ∨ r.status ∈ Status.collected) : WellFormed k r where
  deployment_iff := hdeployment
  isTopLevel_of_deployment := htop
  kind_of_complex := hcomplex
  source_of_placement := fun h => absurd h hk
  of_allExcluded := fun h => absurd (hflag.symm.trans h) Bool.false_ne_true
  allExcluded_of_placement := fun h => absurd h hk
  status := hstatus
  status_of_placement := fun h => absurd h hk

theorem wellFormed_placementRecord (app : Application) (server : String) (compose : ComposeFile)
    (os : List Observation) (now : Nat) :
    WellFormed (.placement app.id server)
      (Fleet.placementRecord compose (.observed os) now app) := by
  let containers := (Snapshot.observed os).containers app.id
  have hstatus := Containers.mem_collected_evaluate containers compose.excluded
  refine ⟨?_, ?_, ?_, ?_, ?_, ?_, .inr hstatus, ?_⟩
  · exact iff_of_false StatusSource.noConfusion (ne_deploying_of_mem_collected hstatus)
  · exact fun hsource => nomatch hsource
  · exact fun _ => rfl
  · exact fun _ => ⟨StatusSource.noConfusion, StatusSource.noConfusion⟩
  · intro hflag
    have hflag : containers.allExcluded compose.excluded = true := hflag
    exact ⟨⟨app.id, server, rfl⟩, Containers.count_pos_of_allExcluded hflag,
      Containers.evaluate_excluded_of_allExcluded hflag⟩
  · intro _ htagged
    have htagged : (containers.evaluate compose.excluded).excluded = true := htagged
    exact Containers.allExcluded_of_evaluate_excluded htagged
  · intro _ hunknown
    exact Containers.base_evaluate_observed _ compose.excluded (congrArg Status.base hunknown)

theorem Recordable.wellFormed {k : ResourceKey} {r : StatusRecord} (h : Recordable k r) :
    WellFormed k r := by
  cases h with
  | override hkey count now =>
      exact .of_not_isPlacement (not_isPlacement_of_isTopLevel hkey) rfl (iff_of_true rfl rfl)
        (fun _ => hkey) (fun hsource => nomatch hsource) (.inl rfl)
  | @collected key hkey hserver status hstatus source hsource count now =>
      have hne : source ≠ .deployment ∧ source ≠ .complex := by
        rcases hsource with rfl | rfl <;> decide
      exact .of_not_isPlacement (not_isPlacement_of_server hserver) rfl
        (iff_of_false hne.1 (ne_deploying_of_mem_collected hstatus))
        (fun hdeployment => absurd hdeployment hne.1) (fun hcomplex => absurd hcomplex hne.2)
        (.inr hstatus)
  | checked id hstatus count now =>
      exact .of_not_isPlacement (not_isPlacement_of_server rfl) rfl
        (iff_of_false StatusSource.noConfusion (ne_deploying_of_mem_collected hstatus))
        (fun _ => rfl) (fun _ => rfl) (.inr hstatus)
  | placement app server compose containers now =>
      exact wellFormed_placementRecord app server compose containers now

namespace Fleet

/-! ## Writers -/

theorem eq_or_get?_of_get?_record {f : Fleet} {key k : ResourceKey} {r r' : StatusRecord}
    (h : (f.record key r').store.get? k = some r) :
    (k = key ∧ r = r') ∨ f.store.get? k = some r := by
  rw [store_record, Store.get?_insert] at h
  split at h
  case isTrue hk => exact .inl ⟨hk, (Option.some.inj h).symm⟩
  case isFalse => exact .inr h

theorem recordable_of_record_deploying {f : Fleet} {key : ResourceKey}
    (hkey : key.isTopLevel = true) {count now : Nat} {k : ResourceKey} {r : StatusRecord}
    (h : (f.record key (.deploying count now)).store.get? k = some r) :
    f.store.get? k = some r ∨ Recordable k r := by
  obtain ⟨rfl, rfl⟩ | h := eq_or_get?_of_get?_record h
  · exact .inr (.override hkey count now)
  · exact .inl h

section Writers

variable (around : Surroundings) (containers : Containers) {source : StatusSource} {f : Fleet}
  {k : ResourceKey} {r : StatusRecord}

theorem recordable_of_recordApplication (hsource : source = .ssh ∨ source = .agent)
    {app : Application}
    (h : (recordApplication around containers source f app).store.get? k = some r) :
    f.store.get? k = some r ∨ Recordable k r := by
  cases hdep : f.isDeploying (.application app.id) with
  | true =>
      rw [recordApplication_of_deploying around containers source hdep] at h
      exact recordable_of_record_deploying rfl h
  | false =>
      rw [recordApplication_of_not_deploying around containers source hdep] at h
      obtain ⟨rfl, rfl⟩ | h := eq_or_get?_of_get?_record h
      · exact .inr (.collected (.of_isTopLevel rfl) rfl (Containers.mem_collected_evaluate _ _)
          hsource _ _)
      · exact .inl h

theorem mem_collected_partRecord (compose : ComposeFile) (source : StatusSource) (now : Nat)
    (sub : String) :
    (partRecord compose containers source now sub).status ∈ Status.collected := by
  unfold partRecord
  dsimp only
  split
  · exact Containers.mem_collected_evaluateExcluded _ _
  · exact Containers.mem_collected_evaluate _ _

theorem recordable_of_recordService (hsource : source = .ssh ∨ source = .agent)
    {service : Service}
    (h : (recordService around containers source f service).store.get? k = some r) :
    f.store.get? k = some r ∨ Recordable k r := by
  cases hdep : f.isDeploying (.service service.id) with
  | true =>
      rw [recordService_of_deploying around containers source hdep] at h
      exact recordable_of_record_deploying rfl h
  | false =>
      by_cases howner : k.owner = .service service.id
      · obtain rfl | hchild := (ResourceKey.owner_eq_iff rfl).mp howner
        · rw [get?_recordService_self around containers source hdep] at h
          obtain rfl := Option.some.inj h
          exact .inr (.collected (.of_isTopLevel rfl) rfl (Status.mem_collected_rollup _ _)
            hsource _ _)
        · obtain ⟨sub, -, rfl, rfl⟩ :=
            (get?_recordService_child_eq_some_iff around containers source hdep hchild).mp h
          exact .inr (.collected (ResourceKey.isRegular_part _ _) rfl
            (mem_collected_partRecord containers _ source around.now sub) hsource _ _)
      · rw [(recordService_confined around containers source f service).frame k howner] at h
        exact .inl h

theorem recordable_of_checkApplication {seen : List (String × Snapshot)}
    (hseen : ∀ e ∈ seen, ∃ containers, e.2 = .observed containers) {app : Application}
    (h : (checkApplication around seen f app).store.get? k = some r) :
    f.store.get? k = some r ∨ Recordable k r := by
  cases hdep : f.isDeploying (.application app.id) with
  | true =>
      rw [checkApplication_of_deploying around seen hdep] at h
      exact recordable_of_record_deploying rfl h
  | false =>
      by_cases howner : k.owner = .application app.id
      · obtain rfl | hchild := (ResourceKey.owner_eq_iff rfl).mp howner
        · by_cases hplaced : (checkApplication around seen f app).placements app.id = []
          · rw [get?_checkApplication_self_of_unplaced around seen hdep hplaced] at h
            exact .inl h
          · rw [get?_checkApplication_self around seen hdep hplaced] at h
            obtain rfl := Option.some.inj h
            exact .inr (.checked app.id (Status.mem_collected_rollup _ _) _ _)
        · obtain ⟨server, -, rfl, ⟨snapshot, hlookup, rfl⟩ | ⟨-, hr⟩⟩ :=
            (get?_checkApplication_child_eq_some_iff around seen hdep hchild).mp h
          · obtain ⟨before, after, rfl, -⟩ := List.lookup_eq_some_iff.mp hlookup
            obtain ⟨containers, rfl⟩ := hseen (server, snapshot) (by simp)
            exact .inr (.placement app server _ containers around.now)
          · exact .inl hr
      · rw [(checkApplication_confined around seen f app).frame k howner] at h
        exact .inl h

end Writers

/-- What an update leaves was there before or is something that is ever recorded. -/
theorem Update.recordable {f g : Fleet} (h : Update f g) {k : ResourceKey} {r : StatusRecord}
    (hr : g.store.get? k = some r) : f.store.get? k = some r ∨ Recordable k r := by
  cases h with
  | application around containers happ hsingle hsource =>
      exact recordable_of_recordApplication around containers hsource hr
  | service around containers hservice hsource =>
      exact recordable_of_recordService around containers hsource hr
  | placements around seen happ hmulti hseen =>
      exact recordable_of_checkApplication around hseen hr
  | measurement m => exact .inl hr

/-! ## Runs -/

/-- In every run, all that is stored is something that is ever recorded. -/
theorem Reachable.recordable {f : Fleet} (hf : Reachable f) :
    ∀ k r, f.store.get? k = some r → Recordable k r := by
  apply hf.invariant
  · exact fun _ _ k r hr => nomatch hr
  · exact fun f g hf h k r hr => (h.recordable hr).elim (hf k r) id
  · intro f now key on hkey hf k r hr
    cases on with
    | true => exact (recordable_of_record_deploying hkey hr).elim (hf k r) id
    | false => exact hf k r hr
  · exact fun _ _ hf => hf

/-- In every run, all stored records are well formed. -/
theorem records_well_formed {f : Fleet} (hf : Reachable f) {k : ResourceKey} {r : StatusRecord}
    (hr : f.store.get? k = some r) : WellFormed k r :=
  (hf.recordable k r hr).wellFormed

/-- After a check, the service of the shop is deployed. Its record is the override, and the
placement on the second server is as a check leaves it. -/
theorem records_well_formed_shop :
    let f := shopChecked.setDeploying 1 (.service "mail") true
    Reachable f ∧
      (∃ r, f.store.get? (.service "mail") = some r ∧ r.source = .deployment ∧
        r.status = .deploying) ∧
      ∃ r, f.store.get? (.placement "shop" "edge-2") = some r ∧
        WellFormed (.placement "shop" "edge-2") r ∧ r.source ≠ .ssh ∧ r.allExcluded = false := by
  intro f
  have hf : Reachable f := .step shopChecked_reachable (.deploy 1 rfl true)
  obtain ⟨mail, hmail⟩ : ∃ r, f.store.get? (.service "mail") = some r := ⟨_, rfl⟩
  obtain ⟨placement, hplacement⟩ : ∃ r, f.store.get? (.placement "shop" "edge-2") = some r :=
    ⟨_, rfl⟩
  have hsource : mail.source = .deployment := by
    obtain rfl := Option.some.inj hmail
    rfl
  have hplaced : ResourceKey.IsPlacement (.placement "shop" "edge-2") := ⟨_, _, rfl⟩
  have hformed := records_well_formed hf hplacement
  refine ⟨hf, ⟨mail, hmail, hsource, ?_⟩, placement, hplacement, hformed, ?_, ?_⟩
  · exact (records_well_formed hf hmail).deployment_iff.mp hsource
  · exact (hformed.source_of_placement hplaced).1
  · obtain rfl := Option.some.inj hplacement
    decide +kernel

end Fleet

end FleetWatch
