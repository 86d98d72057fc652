import FleetWatch.Proofs.Recording

/-! # What a collection works on

A collector reads and writes the families of certain resources and nothing else: what it leaves
there depends on the settings, on the deployments and on what was there before, and everything else
stays as it was. Such a step commutes with every step that works on other resources, whenever the
two are taken. Times differ with the order of steps, so fleets are compared but for the times at
which their records were taken.
-/

namespace FleetWatch

/-- The record without the time at which it was taken. -/
def StatusRecord.undated (r : StatusRecord) : StatusRecord := { r with updatedAt := 0 }

/-- What is read of a record does not depend on its time. -/
theorem StatusRecord.map_eq_of_undated {β : Type} {read : StatusRecord → β}
    (hread : ∀ r, read r.undated = read r) {r r' : Option StatusRecord}
    (h : r.map undated = r'.map undated) : r.map read = r'.map read := by
  have hrecords := congrArg (Option.map read) h
  simpa only [Option.map_map, Function.comp_def, hread] using hrecords

/-- Two stores hold the same records but for the times at which they were taken. -/
def Store.SameButTimes (s t : Store) : Prop :=
  ∀ k, (s.get? k).map StatusRecord.undated = (t.get? k).map StatusRecord.undated

namespace Fleet

/-! ## Fleets that are alike -/

/-- Two fleets agree on some resources, but for times, and are set up and deployed alike. -/
structure AlikeOn (on : ResourceKey → Prop) (f g : Fleet) : Prop where
  settings : f.settings = g.settings
  deploying : f.deploying = g.deploying
  records : ∀ k, on k.owner →
    (f.store.get? k).map StatusRecord.undated = (g.store.get? k).map StatusRecord.undated

/-- Two fleets agree on all resources, but for times. -/
abbrev Alike : Fleet → Fleet → Prop := AlikeOn fun _ => True

namespace AlikeOn

variable {on on' : ResourceKey → Prop} {f g h : Fleet}

theorem store (hfg : f.Alike g) : f.store.SameButTimes g.store := fun k => hfg.records k trivial

theorem refl (on : ResourceKey → Prop) (f : Fleet) : AlikeOn on f f := ⟨rfl, rfl, fun _ _ => rfl⟩

theorem symm (hfg : AlikeOn on f g) : AlikeOn on g f :=
  ⟨hfg.settings.symm, hfg.deploying.symm, fun k hk => (hfg.records k hk).symm⟩

theorem trans (hfg : AlikeOn on f g) (hgh : AlikeOn on g h) : AlikeOn on f h :=
  ⟨hfg.settings.trans hgh.settings, hfg.deploying.trans hgh.deploying,
    fun k hk => (hfg.records k hk).trans (hgh.records k hk)⟩

theorem mono (hfg : AlikeOn on f g) (hsub : ∀ key, on' key → on key) : AlikeOn on' f g :=
  ⟨hfg.settings, hfg.deploying, fun k hk => hfg.records k (hsub _ hk)⟩

theorem isDeploying (hfg : AlikeOn on f g) (key : ResourceKey) :
    f.isDeploying key = g.isDeploying key :=
  isDeploying_congr hfg.deploying key

theorem record (hfg : AlikeOn on f g) (key : ResourceKey) {r r' : StatusRecord}
    (hr : r.undated = r'.undated) : AlikeOn on (f.record key r) (g.record key r') := by
  refine ⟨hfg.settings, hfg.deploying, fun k hk => ?_⟩
  rw [store_record, store_record, Store.get?_insert, Store.get?_insert]
  split
  · exact congrArg some hr
  · exact hfg.records k hk

theorem recordAll (hfg : AlikeOn on f g) {batch batch' : List StoreEntry}
    (hbatch : batch.map (fun e => (e.1, e.2.undated)) =
      batch'.map fun e => (e.1, e.2.undated)) :
    AlikeOn on (f.recordAll batch) (g.recordAll batch') := by
  induction batch generalizing f g batch' with
  | nil =>
      obtain rfl := List.map_eq_nil_iff.mp hbatch.symm
      exact hfg
  | cons e rest ih =>
      obtain ⟨e', rest', rfl, he, hrest⟩ := List.map_eq_cons_iff.mp hbatch.symm
      obtain ⟨hkey, hrecord⟩ := Prod.mk.inj he
      change AlikeOn on ((f.record e.1 e.2).recordAll rest) ((g.record e'.1 e'.2).recordAll rest')
      rw [hkey]
      exact ih (hfg.record e.1 hrecord.symm) hrest.symm

theorem replaceChildren (hfg : AlikeOn on f g) (parent : ResourceKey)
    {batch batch' : List StoreEntry} (keep : List ResourceKey)
    (hbatch : batch.map (fun e => (e.1, e.2.undated)) =
      batch'.map fun e => (e.1, e.2.undated)) :
    AlikeOn on (f.replaceChildren parent batch keep) (g.replaceChildren parent batch' keep) := by
  have hrecorded := hfg.recordAll hbatch
  refine ⟨hrecorded.settings, hrecorded.deploying, fun k hk => ?_⟩
  rw [get?_replaceChildren, get?_replaceChildren]
  split
  · rfl
  · exact hrecorded.records k hk

theorem countOf_eq (hfg : AlikeOn on f g) {key : ResourceKey} (hkey : on key.owner) :
    f.countOf key = g.countOf key :=
  congrArg (Option.getD · 0) (StatusRecord.map_eq_of_undated (fun _ => rfl) (hfg.records key hkey))

end AlikeOn

/-! ## Children that are alike

A resource is recorded from the children that are stored beside it, and nothing that is read of them
depends on their times. -/

/-- Two fleets hold the same parts or placements of a resource, but for times. -/
def ChildrenAlike (key : ResourceKey) (f g : Fleet) : Prop :=
  ∀ k, k.isChildOf key = true →
    (f.store.get? k).map StatusRecord.undated = (g.store.get? k).map StatusRecord.undated

theorem AlikeOn.children {f g : Fleet} {key : ResourceKey} (hfg : AlikeOn (· = key) f g)
    (hkey : key.owner = key) : ChildrenAlike key f g :=
  fun k hk => hfg.records k ((ResourceKey.isChildOf_iff.mp hk).2.trans hkey)

namespace ChildrenAlike

variable {f g : Fleet}

theorem map_children_eq {key : ResourceKey} (h : ChildrenAlike key f g) {β : Type}
    (read : StatusRecord → β) (hread : ∀ r, read r.undated = read r) :
    (f.store.children key).map (fun e => (e.1, read e.2)) =
      (g.store.children key).map fun e => (e.1, read e.2) :=
  Store.children_map_congr read fun k hk => StatusRecord.map_eq_of_undated hread (h k hk)

variable {id : String}

theorem parts_eq (h : ChildrenAlike (.service id) f g) : f.parts id = g.parts id :=
  parts_congr fun k hk => StatusRecord.map_eq_of_undated (fun _ => rfl) (h k hk)

section Placements

variable (h : ChildrenAlike (.application id) f g)
include h

theorem map_placements_eq :
    (f.placements id).map (fun p => (p.1, p.2.undated)) =
      (g.placements id).map fun p => (p.1, p.2.undated) := by
  have hplacements : ∀ f' : Fleet, (f'.placements id).map (fun p => (p.1, p.2.undated)) =
      ((f'.store.children (.application id)).map fun e => (e.1, e.2.undated)).filterMap
        fun c => c.1.server.map fun server => (server, c.2) := by
    intro f'
    rw [placements, List.map_filterMap, List.filterMap_map]
    simp only [Option.map_map]
    rfl
  rw [hplacements, hplacements, h.map_children_eq StatusRecord.undated fun _ => rfl]

theorem placedStatus_eq : placedStatus (f.placements id) = placedStatus (g.placements id) := by
  have hundated : ∀ ps : List (String × StatusRecord),
      placedStatus (ps.map fun p => (p.1, p.2.undated)) = placedStatus ps := by
    intro ps
    simp only [placedStatus, List.map_map, List.filter_map]
    rfl
  rw [← hundated, ← hundated (g.placements id), h.map_placements_eq]

theorem isEmpty_placements_eq : (f.placements id).isEmpty = (g.placements id).isEmpty := by
  have hempty := congrArg List.isEmpty h.map_placements_eq
  rwa [List.isEmpty_map, List.isEmpty_map] at hempty

theorem counts_eq :
    (f.store.children (.application id)).map (fun e => e.2.containerCount) =
      (g.store.children (.application id)).map fun e => e.2.containerCount := by
  have hcounts := congrArg (List.map Prod.snd)
    (h.map_children_eq StatusRecord.containerCount fun _ => rfl)
  rw [List.map_map, List.map_map] at hcounts
  exact hcounts

end Placements

end ChildrenAlike

/-! ## Steps with a footprint -/

/-- A step, taken at some time, works on the resources of its footprint: it leaves all others alone,
and what it leaves of these does not depend on anything else. -/
structure Local (foot : Settings → ResourceKey → Prop) (step : Nat → Fleet → Fleet) : Prop where
  settings : ∀ now f, (step now f).settings = f.settings
  deploying : ∀ now f, (step now f).deploying = f.deploying
  frame : ∀ now f k, ¬ foot f.settings k.owner → (step now f).store.get? k = f.store.get? k
  congr : ∀ now now' f g, AlikeOn (foot f.settings) f g →
    AlikeOn (foot f.settings) (step now f) (step now' g)

namespace Local

variable {foot foot' : Settings → ResourceKey → Prop} {step step' : Nat → Fleet → Fleet}

/-- Fleets that agree on more than the footprint still do afterwards. -/
theorem alikeOn (h : Local foot step) {on : ResourceKey → Prop} {f g : Fleet}
    (hfg : AlikeOn on f g) (hsub : ∀ key, foot f.settings key → on key) (now now' : Nat) :
    AlikeOn on (step now f) (step now' g) := by
  have hfoot := h.congr now now' f g (hfg.mono hsub)
  refine ⟨hfoot.settings, hfoot.deploying, fun k hk => ?_⟩
  by_cases hin : foot f.settings k.owner
  · exact hfoot.records k hin
  · rw [h.frame now f k hin, h.frame now' g k (hfg.settings ▸ hin)]
    exact hfg.records k hk

theorem mono (h : Local foot step) (hsub : ∀ s key, foot s key → foot' s key) :
    Local foot' step :=
  ⟨h.settings, h.deploying, fun now f k hk => h.frame now f k (mt (hsub _ _) hk),
    fun now now' _ _ hfg => h.alikeOn hfg (hsub _) now now'⟩

theorem id (foot : Settings → ResourceKey → Prop) : Local foot fun _ f => f :=
  ⟨fun _ _ => rfl, fun _ _ => rfl, fun _ _ _ _ => rfl, fun _ _ _ _ h => h⟩

/-- Measurements are nobody's records. -/
theorem measure (h : Local foot step) (m : Fleet → Measurement) :
    Local foot fun now f => (step now f).measure (m f) :=
  ⟨h.settings, h.deploying, h.frame, fun now now' f g hfg =>
    have hstep := h.congr now now' f g hfg
    ⟨hstep.settings, hstep.deploying, hstep.records⟩⟩

theorem comp (h : Local foot step) (h' : Local foot step') :
    Local foot fun now f => step' now (step now f) where
  settings now f := (h'.settings now _).trans (h.settings now f)
  deploying now f := (h'.deploying now _).trans (h.deploying now f)
  frame now f k hk := by
    rw [h'.frame now _ k (by rwa [h.settings]), h.frame now f k hk]
  congr now now' f g hfg := by
    have hmiddle := h.congr now now' f g hfg
    have hlast := h'.congr now now' (step now f) (step now' g)
    rw [h.settings] at hlast
    exact hlast hmiddle

theorem foldl {α : Type} {round : α → Nat → Fleet → Fleet} {xs : List α}
    (h : ∀ x ∈ xs, Local foot (round x)) :
    Local foot fun now f => xs.foldl (fun f x => round x now f) f := by
  induction xs with
  | nil => exact id foot
  | cons x rest ih =>
      exact (h x List.mem_cons_self).comp (ih fun y hy => h y (List.mem_cons_of_mem _ hy))

/-- A step may look at the settings and at the deployments first. -/
theorem ofContext (foot : Settings → Settings → ResourceKey → Prop)
    {step : Settings → List ResourceKey → Nat → Fleet → Fleet}
    (h : ∀ s deploying, Local (foot s) (step s deploying)) :
    Local (fun s => foot s s) fun now f => step f.settings f.deploying now f where
  settings now f := (h _ _).settings now f
  deploying now f := (h _ _).deploying now f
  frame now f k hk := (h _ _).frame now f k hk
  congr now now' f g hfg := by
    rw [← hfg.settings, ← hfg.deploying]
    exact (h _ _).congr now now' f g hfg

/-- Steps that work on different resources commute. -/
theorem comm (h : Local foot step) (h' : Local foot' step') {f : Fleet}
    (hdisjoint : ∀ key, foot f.settings key → ¬ foot' f.settings key) (t₁ t₂ t₃ t₄ : Nat) :
    (step' t₂ (step t₁ f)).Alike (step t₄ (step' t₃ f)) := by
  -- Either step finds what it works on as it was, whether or not the other one has been taken.
  have hfoot : AlikeOn (foot f.settings) (step t₁ f) (step t₄ (step' t₃ f)) := by
    refine h.congr t₁ t₄ f _ ⟨(h'.settings t₃ f).symm, (h'.deploying t₃ f).symm, fun k hk => ?_⟩
    rw [h'.frame t₃ f k (hdisjoint _ hk)]
  have hfoot' : AlikeOn (foot' f.settings) (step' t₂ (step t₁ f)) (step' t₃ f) := by
    refine (h'.congr t₃ t₂ f _ ⟨(h.settings t₁ f).symm, (h.deploying t₁ f).symm,
      fun k hk => ?_⟩).symm
    rw [h.frame t₁ f k fun hk' => hdisjoint _ hk' hk]
  refine ⟨?_, ?_, fun k _ => ?_⟩
  · rw [h'.settings, h.settings, h.settings, h'.settings]
  · rw [h'.deploying, h.deploying, h.deploying, h'.deploying]
  · by_cases hin : foot f.settings k.owner
    · rw [h'.frame t₂ _ k (by rw [h.settings]; exact hdisjoint _ hin)]
      exact hfoot.records k hin
    · rw [h.frame t₄ _ k (by rwa [h'.settings])]
      by_cases hin' : foot' f.settings k.owner
      · exact hfoot'.records k hin'
      · rw [h'.frame t₂ _ k (by rwa [h.settings]), h.frame t₁ f k hin, h'.frame t₃ f k hin']

/-- Steps that work on different resources may be taken in any order. -/
theorem foldl_perm {α : Type} {foot : α → Settings → ResourceKey → Prop}
    {round : α → Nat → Fleet → Fleet} (h : ∀ x, Local (foot x) (round x)) {xs ys : List α}
    (hperm : xs.Perm ys) {f g : Fleet} (hfg : f.Alike g)
    (hdisjoint : xs.Pairwise fun x y => ∀ key, foot x f.settings key → ¬ foot y f.settings key)
    (now now' : Nat) :
    (xs.foldl (fun f x => round x now f) f).Alike (ys.foldl (fun f x => round x now' f) g) := by
  have hstep : ∀ x, ∀ {f g : Fleet}, f.Alike g → ∀ now now' : Nat,
      (round x now f).Alike (round x now' g) :=
    fun x _ _ hfg now now' => (h x).alikeOn hfg (fun _ _ => trivial) now now'
  -- The two fleets are only kept alike, so that the steps after a swap need not be looked at.
  induction hperm generalizing f g now now' with
  | nil => exact hfg
  | @cons x xs ys _ ih =>
      apply ih (hstep x hfg now now')
      rw [(h x).settings]
      exact hdisjoint.of_cons
  | swap x y rest =>
      have hfirst := List.rel_of_pairwise_cons hdisjoint List.mem_cons_self
      have hswapped : (round x now (round y now f)).Alike (round y now' (round x now' g)) :=
        ((h y).comm (h x) hfirst now now now' now').trans
          (hstep y (hstep x hfg now' now') now' now')
      have hrest : Local (fun _ _ => True) fun now f => rest.foldl (fun f x => round x now f) f :=
        .foldl fun z _ => (h z).mono fun _ _ _ => trivial
      exact hrest.congr now now' _ _ hswapped
  | @trans xs ys zs hxy _ ih₁ ih₂ =>
      -- The middle order is taken from the second fleet, where the footprints are the same.
      have hdisjoint' := (hxy.pairwise_iff fun hxy key hy hx => hxy key hx hy).mp hdisjoint
      rw [hfg.settings] at hdisjoint'
      exact (ih₁ hfg hdisjoint now now').trans (ih₂ (.refl _ g) hdisjoint' now' now')

/-- A step that is confined to the family of a resource has it as its footprint, if it reads nothing
else. -/
theorem ofConfined {key : ResourceKey} (hconfined : ∀ now f, Confined key f (step now f))
    (hcongr : ∀ now now' f g, AlikeOn (· = key) f g →
      AlikeOn (· = key) (step now f) (step now' g)) : Local (fun _ => (· = key)) step :=
  ⟨fun now f => (hconfined now f).settings, fun now f => (hconfined now f).deploying,
    fun now f => (hconfined now f).frame, hcongr⟩

end Local

/-! ## Rounds -/

section Rounds

variable (around : Surroundings)

theorem recordApplication_local (containers : Containers) (source : StatusSource)
    (app : Application) :
    Local (fun _ => (· = .application app.id)) fun now f =>
      recordApplication { around with now } containers source f app := by
  apply Local.ofConfined
  · exact fun now f => recordApplication_confined { around with now } containers source f app
  intro now now' f g hfg
  have hdep := hfg.isDeploying (.application app.id)
  cases hf : f.isDeploying (.application app.id) with
  | true =>
      rw [recordApplication_of_deploying _ _ _ hf,
        recordApplication_of_deploying _ _ _ (hdep.symm.trans hf)]
      exact hfg.record _ rfl
  | false =>
      rw [recordApplication_of_not_deploying _ _ _ hf,
        recordApplication_of_not_deploying _ _ _ (hdep.symm.trans hf)]
      exact hfg.record _ rfl

theorem map_undated_partRecords (compose : ComposeFile) (containers : Containers)
    (source : StatusSource) (now now' : Nat) (id : String) :
    (partRecords compose containers source now id).map (fun e => (e.1, e.2.undated)) =
      (partRecords compose containers source now' id).map fun e => (e.1, e.2.undated) := by
  simp only [partRecords, List.map_map]
  rfl

theorem map_fst_partRecords (compose : ComposeFile) (containers : Containers)
    (source : StatusSource) (now now' : Nat) (id : String) :
    (partRecords compose containers source now id).map Prod.fst =
      (partRecords compose containers source now' id).map Prod.fst := by
  simp only [partRecords, List.map_map]
  rfl

theorem recordService_local (containers : Containers) (source : StatusSource)
    (service : Service) :
    Local (fun _ => (· = .service service.id)) fun now f =>
      recordService { around with now } containers source f service := by
  apply Local.ofConfined
  · exact fun now f => recordService_confined { around with now } containers source f service
  intro now now' f g hfg
  have hdep := hfg.isDeploying (.service service.id)
  cases hf : f.isDeploying (.service service.id) with
  | true =>
      rw [recordService_of_deploying _ _ _ hf,
        recordService_of_deploying _ _ _ (hdep.symm.trans hf)]
      exact hfg.record _ rfl
  | false =>
      have hparts : AlikeOn (· = .service service.id)
          (withParts { around with now } containers source f service)
          (withParts { around with now := now' } containers source g service) := by
        unfold withParts
        dsimp only
        rw [map_fst_partRecords _ _ _ now now']
        exact hfg.replaceChildren _ _ (map_undated_partRecords _ _ _ _ _ _)
      rw [recordService_of_not_deploying _ _ _ hf,
        recordService_of_not_deploying _ _ _ (hdep.symm.trans hf)]
      dsimp only
      -- The status is read back from the stored parts, which are alike by now.
      rw [(hparts.children rfl).parts_eq]
      exact hparts.record _ rfl

theorem map_undated_placementRecords (compose : ComposeFile) (seen : List (String × Snapshot))
    (now now' : Nat) (app : Application) :
    (placementRecords compose seen now app).map (fun e => (e.1, e.2.undated)) =
      (placementRecords compose seen now' app).map fun e => (e.1, e.2.undated) := by
  simp only [placementRecords, List.map_filterMap, Option.map_map]
  rfl

theorem checkApplication_local (seen : List (String × Snapshot)) (app : Application) :
    Local (fun _ => (· = .application app.id)) fun now f =>
      checkApplication { around with now } seen f app := by
  apply Local.ofConfined
  · exact fun now f => checkApplication_confined { around with now } seen f app
  intro now now' f g hfg
  have hdep := hfg.isDeploying (.application app.id)
  cases hf : f.isDeploying (.application app.id) with
  | true =>
      rw [checkApplication_of_deploying _ _ hf,
        checkApplication_of_deploying _ _ (hdep.symm.trans hf), hfg.countOf_eq rfl]
      exact hfg.record _ rfl
  | false =>
      have hplaced : AlikeOn (· = .application app.id)
          (withPlacements { around with now } seen f app)
          (withPlacements { around with now := now' } seen g app) :=
        hfg.replaceChildren _ _ (map_undated_placementRecords _ _ _ _ _)
      rw [checkApplication_of_not_deploying _ _ hf,
        checkApplication_of_not_deploying _ _ (hdep.symm.trans hf)]
      have hchildren := hplaced.children rfl
      dsimp only
      rw [hchildren.isEmpty_placements_eq, hchildren.placedStatus_eq, hchildren.counts_eq]
      split
      · exact hplaced
      · exact hplaced.record _ rfl

end Rounds

/-! ## Collections -/

end Fleet

namespace Settings

/-- The resources that are recorded from what a server shows: its services and the applications that
it has to itself. -/
def RecordedWith (server : String) (s : Settings) (key : ResourceKey) : Prop :=
  (∃ app ∈ s.applications, (app.server = server ∧ app.isMultiServer = false) ∧
    key = .application app.id) ∨
  ∃ service ∈ s.services, service.server = server ∧ key = .service service.id

/-- The resources that are recorded from what some server shows. -/
def Recorded (s : Settings) (key : ResourceKey) : Prop := ∃ server, s.RecordedWith server key

/-- The resources that a check records. -/
def Checked (s : Settings) (key : ResourceKey) : Prop :=
  ∃ app ∈ s.multiServerApplications, key = .application app.id

end Settings

namespace Fleet

section Collections

variable (around : Surroundings)

theorem applySnapshot_local (server : String) (snapshot : Snapshot) (source : StatusSource) :
    Local (Settings.RecordedWith server) fun now f =>
      f.applySnapshot { around with now } server snapshot source := by
  -- Which rounds there are is read from the settings, before any of them.
  have hrounds : ∀ (s : Settings) (_ : List ResourceKey),
      Local (fun _ => s.RecordedWith server) fun now f =>
        (s.services.filter (·.server == server)).foldl (fun f service =>
            recordService { around with now } (snapshot.containers service.id) source f service)
          ((s.applications.filter fun a => a.server == server && !a.isMultiServer).foldl
            (fun f app =>
              recordApplication { around with now } (snapshot.containers app.id) source f app)
            f) := by
    intro s _
    refine Local.comp (.foldl fun app happ => ?_) (.foldl fun service hservice => ?_)
    · obtain ⟨hmem, hon⟩ := List.mem_filter.mp happ
      simp only [Bool.and_eq_true, beq_iff_eq, Bool.not_eq_true'] at hon
      exact (recordApplication_local around _ source app).mono fun _ _ hkey =>
        .inl ⟨app, hmem, hon, hkey⟩
    · obtain ⟨hmem, hon⟩ := List.mem_filter.mp hservice
      exact (recordService_local around _ source service).mono fun _ _ hkey =>
        .inr ⟨service, hmem, eq_of_beq hon, hkey⟩
  exact Local.ofContext (fun s _ => s.RecordedWith server) hrounds

/-- A server that does not answer is not recorded at all. -/
theorem pollServer_local (inspect : Inspector) (server : Server) :
    Local (Settings.RecordedWith server.name) fun now f =>
      pollServer { around with now } inspect f server := by
  cases hinspect : inspect server with
  | ok containers =>
      simp only [pollServer, hinspect]
      exact applySnapshot_local around server.name (.observed containers) .ssh
  | error e =>
      simp only [pollServer, hinspect]
      exact .id _

theorem pollInOrder_local (inspect : Inspector) (order : List Server) :
    Local Settings.Recorded fun now f => (f.pollInOrder { around with now } inspect order).1 := by
  refine Local.measure (.foldl fun server _ => ?_) _
  exact (pollServer_local around inspect server).mono fun _ _ hkey => ⟨server.name, hkey⟩

theorem report_local (r : AgentReport) :
    Local (Settings.RecordedWith r.server) fun now f =>
      (f.report { around with now } r).1 := by
  have hreport : ∀ (s : Settings) (_ : List ResourceKey),
      Local (Settings.RecordedWith r.server) fun now f =>
        if (s.server? r.server).isNone then f.measure (.received .unknownServer)
        else ((f.applySnapshot { around with now } r.server (.reported r.containers)
          .agent).measure (.received .accepted)).measure (.collected .agent .success) := by
    intro s _
    split
    · exact (Local.id _).measure _
    · exact ((applySnapshot_local around r.server _ .agent).measure _).measure _
  convert Local.ofContext (fun _ => Settings.RecordedWith r.server) hreport using 3 with now f
  unfold report
  cases f.settings.server? r.server <;> rfl

theorem check_local (inspect : Inspector) :
    Local Settings.Checked fun now f => (f.check { around with now } inspect).1 := by
  -- Which servers are looked at depends on the settings and on the deployments, not on records.
  have hcheck : ∀ (s : Settings) (deploying : List ResourceKey),
      Local (fun _ => s.Checked) fun now f =>
        if s.multiServerApplications.isEmpty then f
        else
          let targets : Fleet := { settings := s, deploying }
          let seen := snapshots inspect targets.checkTargets
          let outcome : Outcome :=
            if seen.length = targets.wantedServers.length then .success else .incomplete
          (s.multiServerApplications.foldl (checkApplication { around with now } seen) f).measure
            (.collected .complex outcome) := by
    intro s deploying
    split
    · exact .id _
    · refine Local.measure (.foldl fun app happ => ?_) _
      exact (checkApplication_local around _ app).mono fun _ _ hkey => ⟨app, happ, hkey⟩
  convert Local.ofContext (fun s _ => s.Checked) hcheck using 3 with now f
  simp only [check, apply_ite Prod.fst]
  rfl

end Collections

end Fleet

end FleetWatch
