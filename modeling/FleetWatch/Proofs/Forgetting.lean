import FleetWatch.Proofs.Commutation
import FleetWatch.Proofs.Placements

/-! # What a cycle forgets

A round of a collection decides about the records that it writes: what it leaves there depends on
what is seen and not on what was stored before. In a sequence of rounds, the last one that writes a
record decides about it, whatever came before; so a full cycle, in which every server answers,
leaves of every resource the same records in every store.

Statuses are read back from the store within a round. They are still decided, since the children
they are read from have all been decided by then and any others have been dropped.
-/

namespace FleetWatch

/-- The keys under which something is recorded from what a server shows: the applications that it
has to itself, and its services with all their children. -/
def Settings.WrittenWith (server : String) (s : Settings) (k : ResourceKey) : Prop :=
  (∃ app ∈ s.applications, (app.server = server ∧ app.isMultiServer = false) ∧
    k = .application app.id) ∨
  ∃ service ∈ s.services, service.server = server ∧ k.owner = .service service.id

namespace Fleet

/-- Some settings are in force, and nothing is being deployed. -/
structure Idle (s : Settings) (f : Fleet) : Prop where
  settings : f.settings = s
  deploying : f.deploying = []

theorem Idle.isDeploying {s : Settings} {f : Fleet} (h : Idle s f) (key : ResourceKey) :
    f.isDeploying key = false := by
  rw [Fleet.isDeploying, h.deploying]
  rfl

/-- Under some settings, a step decides about the records under some keys: it leaves all others
alone, and as long as nothing is being deployed, it records all resources among them and leaves
nothing under them that depends on what was stored before. -/
structure Decides {τ : Type} (s : Settings) (keys : ResourceKey → Prop)
    (step : τ → Fleet → Fleet) : Prop where
  settings : ∀ t f, f.settings = s → (step t f).settings = s
  deploying : ∀ t f, f.settings = s → (step t f).deploying = f.deploying
  frame : ∀ t f k, f.settings = s → ¬ keys k → (step t f).store.get? k = f.store.get? k
  recorded : ∀ t f k, Idle s f → keys k → k.isTopLevel = true →
    ((step t f).store.get? k).isSome = true
  forget : ∀ t t' f g k, Idle s f → Idle s g → keys k →
    ((step t f).store.get? k).map StatusRecord.undated =
      ((step t' g).store.get? k).map StatusRecord.undated

namespace Decides

variable {τ : Type} {s : Settings} {keys keys' : ResourceKey → Prop}
  {step step' : τ → Fleet → Fleet}

theorem idle (h : Decides s keys step) (t : τ) {f : Fleet} (hf : Idle s f) : Idle s (step t f) :=
  ⟨h.settings t f hf.settings, (h.deploying t f hf.settings).trans hf.deploying⟩

theorem id (s : Settings) : Decides s (fun _ => False) fun (_ : τ) f => f :=
  ⟨fun _ _ hf => hf, fun _ _ _ => rfl, fun _ _ _ _ _ => rfl, fun _ _ _ _ hk => hk.elim,
    fun _ _ _ _ _ _ _ hk => hk.elim⟩

theorem congr (h : Decides s keys step) (hkeys : ∀ k, keys k ↔ keys' k)
    (hstep : ∀ t f, f.settings = s → step' t f = step t f) : Decides s keys' step' := by
  obtain rfl : keys = keys' := funext fun k => propext (hkeys k)
  refine ⟨?_, ?_, ?_, ?_, ?_⟩
  · intro t f hf
    rw [hstep t f hf]
    exact h.settings t f hf
  · intro t f hf
    rw [hstep t f hf]
    exact h.deploying t f hf
  · intro t f k hf
    rw [hstep t f hf]
    exact h.frame t f k hf
  · intro t f k hf
    rw [hstep t f hf.settings]
    exact h.recorded t f k hf
  · intro t t' f g k hf hg
    rw [hstep t f hf.settings, hstep t' g hg.settings]
    exact h.forget t t' f g k hf hg

/-- The times of a step may be taken from other times. -/
theorem comap {σ : Type} (h : Decides s keys step) (time : σ → τ) :
    Decides s keys fun t => step (time t) :=
  ⟨fun t => h.settings (time t), fun t => h.deploying (time t), fun t => h.frame (time t),
    fun t => h.recorded (time t), fun t t' => h.forget (time t) (time t')⟩

/-- Measurements are nobody's records. -/
theorem measure (h : Decides s keys step) (m : Fleet → Measurement) :
    Decides s keys fun t f => (step t f).measure (m f) :=
  ⟨h.settings, h.deploying, h.frame, h.recorded, h.forget⟩

/-- Of two steps, the second one decides about what both of them write. -/
theorem comp (h : Decides s keys step) (h' : Decides s keys' step') :
    Decides s (fun k => keys k ∨ keys' k) fun t f => step' t (step t f) where
  settings t f hf := h'.settings t _ (h.settings t f hf)
  deploying t f hf := (h'.deploying t _ (h.settings t f hf)).trans (h.deploying t f hf)
  frame t f k hf hk := by
    obtain ⟨hk, hk'⟩ := not_or.mp hk
    rw [h'.frame t _ k (h.settings t f hf) hk', h.frame t f k hf hk]
  recorded t f k hf hk htop := by
    by_cases hk' : keys' k
    · exact h'.recorded t _ k (h.idle t hf) hk' htop
    · rw [h'.frame t _ k (h.idle t hf).settings hk']
      exact h.recorded t f k hf (hk.resolve_right hk') htop
  forget t t' f g k hf hg hk := by
    by_cases hk' : keys' k
    · exact h'.forget t t' _ _ k (h.idle t hf) (h.idle t' hg) hk'
    · rw [h'.frame t _ k (h.idle t hf).settings hk', h'.frame t' _ k (h.idle t' hg).settings hk']
      exact h.forget t t' f g k hf hg (hk.resolve_right hk')

theorem foldl {α : Type} {keys : α → ResourceKey → Prop} {round : α → τ → Fleet → Fleet}
    {xs : List α} (h : ∀ x ∈ xs, Decides s (keys x) (round x)) :
    Decides s (fun k => ∃ x ∈ xs, keys x k) fun t f => xs.foldl (fun f x => round x t f) f := by
  induction xs with
  | nil => exact (id s).congr (fun k => by simp) fun _ _ _ => rfl
  | cons x rest ih =>
      have hrest := ih fun y hy => h y (List.mem_cons_of_mem _ hy)
      exact ((h x List.mem_cons_self).comp hrest).congr (fun k => by simp) fun _ _ _ => rfl

end Decides

/-! ## Rounds -/

section Rounds

variable (s : Settings) (around : Surroundings)

theorem recordApplication_decides (containers : Containers) (source : StatusSource)
    (app : Application) :
    Decides s (· = .application app.id) fun now f =>
      recordApplication { around with now } containers source f app where
  settings now f hf :=
    (recordApplication_confined { around with now } containers source f app).settings.trans hf
  deploying now f _ :=
    (recordApplication_confined { around with now } containers source f app).deploying
  frame now f _ _ hk :=
    get?_recordApplication_of_ne { around with now } containers source f app hk
  recorded now f k hf hk _ := by
    subst hk
    rw [recordApplication_of_not_deploying _ _ _ (hf.isDeploying _), store_record,
      Store.get?_insert_self]
    rfl
  forget now now' f g k hf hg hk := by
    subst hk
    rw [recordApplication_of_not_deploying _ _ _ (hf.isDeploying _),
      recordApplication_of_not_deploying _ _ _ (hg.isDeploying _), store_record, store_record,
      Store.get?_insert_self, Store.get?_insert_self]
    rfl

theorem recordService_childrenAlike (containers : Containers) (source : StatusSource)
    {f g : Fleet} (service : Service) (hf : f.isDeploying (.service service.id) = false)
    (hg : g.isDeploying (.service service.id) = false) (now now' : Nat) :
    ChildrenAlike (.service service.id)
      (recordService { around with now } containers source f service)
      (recordService { around with now := now' } containers source g service) := by
  intro k hk
  by_cases hpart : ∃ sub ∈ partNames (around.compose service.composePath) containers,
      k = .part service.id sub
  · obtain ⟨sub, hsub, rfl⟩ := hpart
    rw [get?_recordService_part { around with now } _ _ hf hsub,
      get?_recordService_part { around with now := now' } _ _ hg hsub]
    rfl
  · have hnot : ∀ sub ∈ partNames (around.compose service.composePath) containers,
        k ≠ .part service.id sub := fun sub hsub heq => hpart ⟨sub, hsub, heq⟩
    rw [get?_recordService_child_eq_none { around with now } _ _ hf hk hnot,
      get?_recordService_child_eq_none { around with now := now' } _ _ hg hk hnot]

/-- A step that writes the family of a resource decides about it, once the children it leaves are
alike and so is the record that is made up from them. -/
theorem Decides.ofConfined {key : ResourceKey} (hkey : key.isTopLevel = true)
    {step : Nat → Fleet → Fleet} (hconfined : ∀ now f, Confined key f (step now f))
    (hrecorded : ∀ now f, Idle s f → ((step now f).store.get? key).isSome = true)
    (hchildren : ∀ now now' f g, Idle s f → Idle s g →
      ChildrenAlike key (step now f) (step now' g))
    (hself : ∀ now now' f g, Idle s f → Idle s g →
      ChildrenAlike key (step now f) (step now' g) →
        ((step now f).store.get? key).map StatusRecord.undated =
          ((step now' g).store.get? key).map StatusRecord.undated) :
    Decides s (·.owner = key) step where
  settings now f hf := (hconfined now f).settings.trans hf
  deploying now f _ := (hconfined now f).deploying
  frame now f k _ hk := (hconfined now f).frame k hk
  recorded now f k hf hk htop := by
    rw [← (ResourceKey.isTopLevel_iff.mp htop), hk]
    exact hrecorded now f hf
  forget now now' f g k hf hg hk := by
    have halike := hchildren now now' f g hf hg
    rcases (ResourceKey.owner_eq_iff hkey).mp hk with rfl | hchild
    · exact hself now now' f g hf hg halike
    · exact halike k hchild

theorem recordService_decides (containers : Containers) (source : StatusSource)
    (service : Service) :
    Decides s (·.owner = .service service.id) fun now f =>
      recordService { around with now } containers source f service := by
  apply Decides.ofConfined s (ResourceKey.isTopLevel_service _)
  · exact fun now f => recordService_confined { around with now } containers source f service
  · intro now f hf
    rw [get?_recordService_self _ _ _ (hf.isDeploying _)]
    rfl
  · exact fun now now' f g hf hg => recordService_childrenAlike around containers source service
      (hf.isDeploying _) (hg.isDeploying _) now now'
  · intro now now' f g hf hg halike
    rw [get?_recordService_self _ _ _ (hf.isDeploying _),
      get?_recordService_self _ _ _ (hg.isDeploying _), halike.parts_eq]
    rfl

theorem checkApplication_childrenAlike {seen : List (String × Snapshot)} {f g : Fleet}
    {app : Application} (hseen : ∀ server ∈ app.allServers, (seen.lookup server).isSome = true)
    (hf : f.isDeploying (.application app.id) = false)
    (hg : g.isDeploying (.application app.id) = false) (now now' : Nat) :
    ChildrenAlike (.application app.id) (checkApplication { around with now } seen f app)
      (checkApplication { around with now := now' } seen g app) := by
  intro k hk
  by_cases hplacement : ∃ server ∈ app.allServers, k = .placement app.id server
  · obtain ⟨server, hserver, rfl⟩ := hplacement
    obtain ⟨snapshot, hsnapshot⟩ := Option.isSome_iff_exists.mp (hseen server hserver)
    rw [get?_checkApplication_placement _ _ hf hserver hsnapshot,
      get?_checkApplication_placement _ _ hg hserver hsnapshot]
    rfl
  · have hnot : ∀ server ∈ app.allServers, k ≠ .placement app.id server :=
      fun server hserver heq => hplacement ⟨server, hserver, heq⟩
    rw [get?_checkApplication_child_eq_none _ _ hf hk hnot,
      get?_checkApplication_child_eq_none _ _ hg hk hnot]

/-- Without a server that was not seen, a check keeps nothing from before. -/
theorem checkApplication_decides {seen : List (String × Snapshot)} {app : Application}
    (hseen : ∀ server ∈ app.allServers, (seen.lookup server).isSome = true) :
    Decides s (·.owner = .application app.id) fun now f =>
      checkApplication { around with now } seen f app := by
  have hplaced : ∀ now f, Idle s f →
      (checkApplication { around with now } seen f app).placements app.id ≠ [] := by
    intro now f hf
    obtain ⟨snapshot, hsnapshot⟩ :=
      Option.isSome_iff_exists.mp (hseen app.server List.mem_cons_self)
    exact List.ne_nil_of_mem ((mem_placements_checkApplication _ _ (hf.isDeploying _)).mpr
      ⟨List.mem_cons_self, .inl ⟨snapshot, hsnapshot, rfl⟩⟩)
  apply Decides.ofConfined s (ResourceKey.isTopLevel_application _)
  · exact fun now f => checkApplication_confined { around with now } seen f app
  · intro now f hf
    rw [get?_checkApplication_self _ _ (hf.isDeploying _) (hplaced now f hf)]
    rfl
  · exact fun now now' f g hf hg => checkApplication_childrenAlike around hseen
      (hf.isDeploying _) (hg.isDeploying _) now now'
  · intro now now' f g hf hg halike
    rw [get?_checkApplication_self _ _ (hf.isDeploying _) (hplaced now f hf),
      get?_checkApplication_self _ _ (hg.isDeploying _) (hplaced now' g hg),
      halike.placedStatus_eq, halike.counts_eq]
    rfl

end Rounds

/-! ## Collections -/

section Collections

variable (s : Settings) (around : Surroundings) (inspect : Inspector)

theorem applySnapshot_decides (server : String) (snapshot : Snapshot) (source : StatusSource) :
    Decides s (s.WrittenWith server) fun now f =>
      f.applySnapshot { around with now } server snapshot source := by
  have happlications : Decides s
      (fun k => ∃ app ∈ s.applications.filter fun a => a.server == server && !a.isMultiServer,
        k = .application app.id) fun now f =>
      (s.applications.filter fun a => a.server == server && !a.isMultiServer).foldl
        (fun f app =>
          recordApplication { around with now } (snapshot.containers app.id) source f app)
        f :=
    .foldl fun app _ => recordApplication_decides s around _ source app
  have hservices : Decides s
      (fun k => ∃ service ∈ s.services.filter (·.server == server),
        k.owner = .service service.id) fun now f =>
      (s.services.filter (·.server == server)).foldl
        (fun f service =>
          recordService { around with now } (snapshot.containers service.id) source f service) f :=
    .foldl fun service _ => recordService_decides s around _ source service
  refine (happlications.comp hservices).congr (fun k => ?_) fun now f hf => ?_
  · simp [Settings.WrittenWith, List.mem_filter, and_assoc]
  · rw [applySnapshot, applicationsOn, servicesOn, hf]

/-- A server that does not answer has nothing recorded. -/
theorem pollServer_decides (server : Server) :
    Decides s (fun k => answers inspect server = true ∧ s.WrittenWith server.name k) fun now f =>
      pollServer { around with now } inspect f server := by
  cases hinspect : inspect server with
  | ok containers =>
      refine (applySnapshot_decides s around server.name (.observed containers) .ssh).congr
        (fun k => ?_) fun now f _ => ?_
      · simp [answers, hinspect]
      · simp [pollServer, hinspect]
  | error e =>
      refine (Decides.id s).congr (fun k => ?_) fun now f _ => ?_
      · simp [answers, hinspect]
      · simp [pollServer, hinspect]

theorem pollInOrder_decides (order : List Server) :
    Decides s
      (fun k => ∃ server ∈ order, answers inspect server = true ∧ s.WrittenWith server.name k)
      fun now f => (f.pollInOrder { around with now } inspect order).1 :=
  Decides.measure (.foldl fun server _ => pollServer_decides s around inspect server) _

/-- Where all servers answer, a check decides about the applications on more than one server. -/
theorem check_decides (hvalid : s.problems = [])
    (hanswers : ∀ server ∈ s.servers, answers inspect server = true) :
    Decides s (fun k => s.Checked k.owner) fun now f =>
      (f.check { around with now } inspect).1 := by
  -- Which servers are seen is the same for all fleets that nothing is deployed in.
  let idle : Fleet := { settings := s }
  let seen := snapshots inspect idle.checkTargets
  have htargets : ∀ f, Idle s f → f.checkTargets = idle.checkTargets := by
    rintro ⟨settings, store, deploying, log, storePath⟩ ⟨rfl, rfl⟩
    rfl
  have hseen : ∀ app ∈ s.multiServerApplications, ∀ server ∈ app.allServers,
      (seen.lookup server).isSome = true := by
    intro app happ server hserver
    obtain ⟨shown, hshown⟩ := exists_inspected (f := idle) hanswers app
    rw [lookup_snapshots_of_inspected (f := idle) hvalid happ rfl hshown hserver]
    rfl
  have hrounds : Decides s
      (fun k => ∃ app ∈ s.multiServerApplications, k.owner = .application app.id) fun now f =>
      s.multiServerApplications.foldl (checkApplication { around with now } seen) f :=
    .foldl fun app happ => checkApplication_decides s around (hseen app happ)
  have hcheck : ∀ now f k, Idle s f → s.Checked k.owner →
      (f.check { around with now } inspect).1.store.get? k =
        (s.multiServerApplications.foldl (checkApplication { around with now } seen)
          f).store.get? k := by
    rintro now f k hf ⟨app, happ, -⟩
    have hnonempty : s.multiServerApplications.isEmpty = false :=
      List.isEmpty_eq_false_iff.mpr (List.ne_nil_of_mem happ)
    simp only [check, hf.settings, hnonempty, htargets f hf]
    rfl
  have hlocal := check_local around inspect
  refine ⟨?_, ?_, ?_, ?_, ?_⟩
  · exact fun now f hf => (hlocal.settings now f).trans hf
  · exact fun now f _ => hlocal.deploying now f
  · rintro now f k rfl hk
    exact hlocal.frame now f k hk
  · intro now f k hf hk htop
    rw [hcheck now f k hf hk]
    exact hrounds.recorded now f k hf hk htop
  · intro now now' f g k hf hg hk
    rw [hcheck now f k hf hk, hcheck now' g k hg hk]
    exact hrounds.forget now now' f g k hf hg hk

end Collections

/-- In valid settings, a poll that all servers answer writes what a check does not. -/
theorem written_of_configured {s : Settings} (hvalid : s.problems = []) {inspect : Inspector}
    (hanswers : ∀ server ∈ s.servers, answers inspect server = true) {order : List Server}
    (horder : order.Perm s.servers) {k : ResourceKey}
    (hk : (∃ app ∈ s.applications, k = .application app.id) ∨
      ∃ service ∈ s.services, k.owner = .service service.id) :
    (∃ server ∈ order, answers inspect server = true ∧ s.WrittenWith server.name k) ∨
      s.Checked k.owner := by
  rcases hk with ⟨app, happ, rfl⟩ | ⟨service, hservice, hk⟩
  · cases hmulti : app.isMultiServer with
    | true => exact .inr ⟨app, List.mem_filter.mpr ⟨happ, hmulti⟩, rfl⟩
    | false =>
        obtain ⟨server, hserver, hname⟩ := Settings.exists_server_of_isSome
          (Settings.server?_isSome_of_application hvalid happ List.mem_cons_self)
        exact .inl ⟨server, horder.mem_iff.mpr hserver, hanswers server hserver,
          .inl ⟨app, happ, ⟨hname.symm, hmulti⟩, rfl⟩⟩
  · obtain ⟨server, hserver, hname⟩ := Settings.exists_server_of_isSome
      (Settings.server?_isSome_of_service hvalid hservice)
    exact .inl ⟨server, horder.mem_iff.mpr hserver, hanswers server hserver,
      .inr ⟨service, hservice, hname.symm, hk⟩⟩

/-- With valid settings, when nothing is being deployed and all servers answer, a poll and a check
leave the same records of every application and service, and the same children of every service and
of every application on more than one server, whatever was stored before. Only the times of records
depend on when they were taken; the order in which servers answer does not matter. -/
theorem history_forgotten {s : Settings} (hvalid : s.problems = []) {f g : Fleet} (hf : Idle s f)
    (hg : Idle s g) (around around' : Surroundings) {inspect inspect' : Inspector}
    (hanswers : ∀ server ∈ s.servers,
      answers inspect server = true ∧ answers inspect' server = true)
    {order order' : List Server} (horder : order.Perm s.servers) (horder' : order'.Perm s.servers)
    (t₁ t₂ t₃ t₄ : Nat) :
    let cycle (t t' : Nat) (order : List Server) (f : Fleet) : Store :=
      ((f.pollInOrder { around with now := t } inspect order).1.check
        { around' with now := t' } inspect').1.store
    let left := cycle t₁ t₂ order f
    let right := cycle t₃ t₄ order' g
    (∀ key, (∃ app ∈ s.applications, key = .application app.id) ∨
        (∃ service ∈ s.services, key = .service service.id) →
      ∃ r r', left.get? key = some r ∧ right.get? key = some r' ∧ r.undated = r'.undated) ∧
    ∀ key, (∃ app ∈ s.multiServerApplications, key = .application app.id) ∨
        (∃ service ∈ s.services, key = .service service.id) →
      (left.children key).map (fun e => (e.1, e.2.undated)) =
        (right.children key).map fun e => (e.1, e.2.undated) := by
  intro cycle left right
  have hpoll : ∀ server ∈ s.servers, answers inspect server = true :=
    fun server hserver => (hanswers server hserver).1
  have hcheck : ∀ server ∈ s.servers, answers inspect' server = true :=
    fun server hserver => (hanswers server hserver).2
  have hcycle :=
    ((pollInOrder_decides s around inspect order).comap (Prod.fst : Nat × Nat → Nat)).comp
      ((check_decides s around' inspect' hvalid hcheck).comap Prod.snd)
  -- In the other order, the second fleet comes out alike.
  have hpolls := pollInOrder_perm (f := g) (hg.settings ▸ hvalid) around inspect
    (hg.settings ▸ horder) (hg.settings ▸ horder') t₃ t₃
  have hcycles := (check_local around' inspect').alikeOn hpolls (fun _ _ => trivial) t₄ t₄
  have hagree : ∀ k, (∃ app ∈ s.applications, k = .application app.id) ∨
      (∃ service ∈ s.services, k.owner = .service service.id) ∨ s.Checked k.owner →
        (left.get? k).map StatusRecord.undated = (right.get? k).map StatusRecord.undated := by
    intro k hk
    refine (hcycle.forget (t₁, t₂) (t₃, t₄) f g k hf hg ?_).trans (hcycles.store k)
    rw [← or_assoc] at hk
    exact hk.elim (written_of_configured hvalid hpoll horder) .inr
  refine ⟨fun key hkey => ?_, fun key hkey => ?_⟩
  · have hkey' : (∃ app ∈ s.applications, key = .application app.id) ∨
        ∃ service ∈ s.services, key.owner = .service service.id := by
      rcases hkey with happ | ⟨service, hservice, rfl⟩
      · exact .inl happ
      · exact .inr ⟨service, hservice, rfl⟩
    have htop : key.isTopLevel = true := by
      rcases hkey with ⟨app, -, rfl⟩ | ⟨service, -, rfl⟩
      · exact ResourceKey.isTopLevel_application _
      · exact ResourceKey.isTopLevel_service _
    obtain ⟨r, hr⟩ := Option.isSome_iff_exists.mp (hcycle.recorded (t₁, t₂) f key hf
      (written_of_configured hvalid hpoll horder hkey') htop)
    have hkeys := hagree key (hkey'.imp_right .inl)
    rw [show left.get? key = some r from hr, Option.map_some, eq_comm,
      Option.map_eq_some_iff] at hkeys
    obtain ⟨r', hr', heq⟩ := hkeys
    exact ⟨r, r', hr, hr', heq.symm⟩
  · apply Store.children_map_congr StatusRecord.undated
    intro k hk
    have howner := (ResourceKey.isChildOf_iff.mp hk).2
    apply hagree
    rcases hkey with ⟨app, happ, rfl⟩ | ⟨service, hservice, rfl⟩
    · exact .inr (.inr ⟨app, happ, howner⟩)
    · exact .inr (.inl ⟨service, hservice, howner⟩)

/-- A store as it may be loaded from a file, with records that no collection of the shop leaves. -/
def staleStore : Store :=
  .ofList
    [(.application "shop", .deploying 7 1),
      (.placement "shop" "edge-9",
        { status := .degraded, source := .ssh, containerCount := 3, updatedAt := 2,
          allExcluded := true }),
      (.service "mail",
        { status := .unknownExcluded, source := .complex, containerCount := 9, updatedAt := 3 }),
      ({ kind := .service, id := "mail", subResource := some "gone", server := some "edge-9" },
        { status := .paused, source := .agent, containerCount := 1, updatedAt := 4 })]

/-- Started from these records or from none, the shop is recorded in the same way. -/
theorem history_forgotten_shop :
    let f : Fleet := { settings := shopSettings }
    let g : Fleet := { settings := shopSettings, store := staleStore }
    let early : Surroundings := { noFiles with now := 0 }
    let late : Surroundings := { noFiles with now := 60 }
    let cycle (around : Surroundings) (order : List Server) (f : Fleet) : Store :=
      ((f.pollInOrder around shopInspector order).1.check around shopInspector).1.store
    let left := cycle early shopSettings.servers f
    let right := cycle late shopSettings.servers.reverse g
    (∃ r, right.get? (.application "shop") = some r ∧ r.status = .running .healthy ∧
      r.containerCount = 2) ∧
    (right.children (.application "shop")).map (fun e => (e.1, e.2.undated)) =
      (left.children (.application "shop")).map (fun e => (e.1, e.2.undated)) ∧
    (right.children (.service "mail")).map Prod.fst = [.part "mail" "smtp"] := by
  intro f g early late cycle left right
  have hf : Idle shopSettings f := ⟨rfl, rfl⟩
  have hg : Idle shopSettings g := ⟨rfl, rfl⟩
  have hanswers : ∀ server ∈ shopSettings.servers,
      answers shopInspector server = true ∧ answers shopInspector server = true :=
    fun _ _ => ⟨rfl, rfl⟩
  obtain ⟨hrecords, hchildren⟩ := history_forgotten (by decide) hf hg noFiles noFiles hanswers
    (.refl _) (List.reverse_perm _) 0 0 60 60
  have hshop := hchildren (.application "shop") (.inl ⟨_, .head _, rfl⟩)
  have hmail := hchildren (.service "mail") (.inr ⟨_, .head _, rfl⟩)
  obtain ⟨r, r', hr, hr', heq⟩ := hrecords (.application "shop") (.inl ⟨_, .head _, rfl⟩)
  have hleft : (left.get? (.application "shop")).map StatusRecord.undated =
      some { status := .running .healthy, source := .complex, containerCount := 2,
             updatedAt := 0 } := by decide
  rw [show left.get? (.application "shop") = some r from hr, Option.map_some,
    Option.some.injEq] at hleft
  refine ⟨⟨r', hr', ?_, ?_⟩, hshop.symm, ?_⟩
  · exact congrArg StatusRecord.status (heq.symm.trans hleft)
  · exact congrArg StatusRecord.containerCount (heq.symm.trans hleft)
  · have hkeys := congrArg (List.map Prod.fst) hmail.symm
    rw [List.map_map, List.map_map] at hkeys
    exact hkeys.trans (by decide)

end Fleet

end FleetWatch
