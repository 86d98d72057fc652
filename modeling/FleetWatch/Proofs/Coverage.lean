import FleetWatch.Proofs.Commutation
import FleetWatch.Proofs.Placements
import Mathlib.Algebra.BigOperators.Group.Finset.Basic
import Mathlib.Algebra.Order.BigOperators.Group.Multiset

/-! # What a full cycle covers

With valid settings, a poll and a check share the resources among them: every service and every
application on one server belongs to the poll of one server, and every other application to the
check. If all servers answer, each of them is recorded, and once recorded, a resource is never
without a record again.
-/

namespace FleetWatch

/-! ## Counting by name -/

/-- Names that are counted one after the other are all counted, if none is missing and none comes
twice. -/
theorem total_map_count {names all : List String} (hnames : names.Nodup)
    (hall : ∀ name ∈ all, name ∈ names) :
    total (names.map fun name => all.count name) = all.length := by
  have hmem : ∀ name ∈ (all : Multiset String), name ∈ names.toFinset := fun name hname =>
    List.mem_toFinset.mpr (hall name hname)
  have hsum := Multiset.sum_count_eq_card hmem
  rw [List.sum_toFinset _ hnames] at hsum
  simp only [Multiset.coe_count, Multiset.coe_card] at hsum
  exact hsum

/-- A list is as long as its parts by name are together. -/
theorem total_map_length_filter {α : Type} {names : List String} (hnames : names.Nodup)
    (name : α → String) {xs : List α} (hxs : ∀ x ∈ xs, name x ∈ names) :
    total (names.map fun n => (xs.filter (name · == n)).length) = xs.length := by
  have hcount : ∀ n, (xs.filter (name · == n)).length = (xs.map name).count n := by
    intro n
    rw [List.count, List.countP_map, List.countP_eq_length_filter]
    rfl
  simp only [hcount]
  rw [total_map_count hnames (by simpa using hxs), List.length_map]

namespace Fleet

/-! ## Records stay -/

theorem Confined.isSome {key k : ResourceKey} {f g : Fleet} (h : Confined key f g)
    (hk : k.isTopLevel = true) (hself : k = key → (g.store.get? k).isSome = true)
    (hsome : (f.store.get? k).isSome = true) : (g.store.get? k).isSome = true := by
  by_cases heq : k = key
  · exact hself heq
  · rwa [h.frame k (by rwa [ResourceKey.isTopLevel_iff.mp hk])]

theorem isSome_record_self (f : Fleet) (key : ResourceKey) (r : StatusRecord) :
    ((f.record key r).store.get? key).isSome = true := by
  rw [store_record, Store.get?_insert_self]
  rfl

section Recorded

variable (around : Surroundings) (containers : Containers) (source : StatusSource)

theorem isSome_recordApplication (f : Fleet) (app : Application) :
    ((recordApplication around containers source f app).store.get?
      (.application app.id)).isSome = true := by
  cases hdep : f.isDeploying (.application app.id) with
  | true =>
      rw [recordApplication_of_deploying around containers source hdep]
      exact isSome_record_self _ _ _
  | false =>
      rw [recordApplication_of_not_deploying around containers source hdep]
      exact isSome_record_self _ _ _

theorem isSome_recordService (f : Fleet) (service : Service) :
    ((recordService around containers source f service).store.get?
      (.service service.id)).isSome = true := by
  cases hdep : f.isDeploying (.service service.id) with
  | true =>
      rw [recordService_of_deploying around containers source hdep]
      exact isSome_record_self _ _ _
  | false =>
      rw [get?_recordService_self around containers source hdep]
      rfl

theorem isSome_checkApplication (seen : List (String × Snapshot)) {f : Fleet} {app : Application}
    (hsome : (f.store.get? (.application app.id)).isSome = true) :
    ((checkApplication around seen f app).store.get? (.application app.id)).isSome = true := by
  cases hdep : f.isDeploying (.application app.id) with
  | true =>
      rw [checkApplication_of_deploying around seen hdep]
      exact isSome_record_self _ _ _
  | false =>
      by_cases hplaced : (checkApplication around seen f app).placements app.id = []
      · rwa [get?_checkApplication_self_of_unplaced around seen hdep hplaced]
      · rw [get?_checkApplication_self around seen hdep hplaced]
        rfl

end Recorded

/-- An application or a service that has a record keeps having one. -/
theorem Update.isSome {f g : Fleet} (h : Update f g) {key : ResourceKey}
    (hkey : key.isTopLevel = true) (hsome : (f.store.get? key).isSome = true) :
    (g.store.get? key).isSome = true := by
  cases h with
  | application around containers happ hsingle hsource =>
      apply (recordApplication_confined around containers _ f _).isSome hkey ?_ hsome
      rintro rfl
      exact isSome_recordApplication around containers _ f _
  | service around containers hservice hsource =>
      apply (recordService_confined around containers _ f _).isSome hkey ?_ hsome
      rintro rfl
      exact isSome_recordService around containers _ f _
  | placements around seen happ hmulti hseen =>
      apply (checkApplication_confined around seen f _).isSome hkey ?_ hsome
      rintro rfl
      exact isSome_checkApplication around seen hsome
  | measurement m => exact hsome

theorem Updates.isSome {f g : Fleet} (h : Updates f g) {key : ResourceKey}
    (hkey : key.isTopLevel = true) (hsome : (f.store.get? key).isSome = true) :
    (g.store.get? key).isSome = true :=
  h.invariant (fun _ _ hf hupdate => hupdate.isSome hkey hf) hsome

/-! ## What a poll records -/

section Poll

variable {f : Fleet} (hvalid : f.settings.problems = []) (around : Surroundings)
  {inspect : Inspector} {order : List Server} (horder : order.Perm f.settings.servers)
include hvalid horder

/-- What a poll leaves of a resource is what a snapshot of its server leaves of it. -/
theorem pollInOrder_isolated {server : Server} (hserver : server ∈ f.settings.servers)
    {shown : List Observation} (hshown : inspect server = .ok shown) {key : ResourceKey}
    (hkey : f.settings.RecordedWith server.name key) :
    ∃ g : Fleet, g.settings = f.settings ∧ g.deploying = f.deploying ∧
      ∀ k, k.owner = key → (f.pollInOrder around inspect order).1.store.get? k =
        (g.applySnapshot around server.name (.observed shown) .ssh).store.get? k := by
  obtain ⟨before, after, rfl⟩ := List.append_of_mem (horder.mem_iff.mpr hserver)
  have hbefore := pollServers_updates f around inspect before
  have happlied : pollServer around inspect (before.foldl (pollServer around inspect) f) server =
      (before.foldl (pollServer around inspect) f).applySnapshot around server.name
        (.observed shown) .ssh := by
    rw [pollServer, hshown]
  refine ⟨_, hbefore.settings_eq, hbefore.deploying_eq, fun k hk => ?_⟩
  rw [pollInOrder, store_measure, List.foldl_append, List.foldl_cons, happlied]
  -- No server that answers later has the resource.
  have hlater : ∀ later ∈ after, ¬ f.settings.RecordedWith later.name key := fun later hmem =>
    have hpairs := (List.pairwise_append.mp (Settings.pairwise_recordedWith hvalid horder)).2.1
    (List.pairwise_cons.mp hpairs).1 later hmem key hkey
  have hafter : Local (fun s key => ∃ later ∈ after, s.RecordedWith later.name key) fun now f =>
      after.foldl (pollServer { around with now } inspect) f :=
    .foldl fun later hmem =>
      (pollServer_local around inspect later).mono fun _ _ h => ⟨later, hmem, h⟩
  apply hafter.frame around.now
  rintro ⟨later, hmem, hrecorded⟩
  rw [(applySnapshot_updates _ around server.name _ (.inl rfl)).settings_eq, hbefore.settings_eq,
    hk] at hrecorded
  exact hlater later hmem hrecorded

variable (hanswers : ∀ server ∈ f.settings.servers, answers inspect server = true)
include hanswers

theorem isSome_poll_application {app : Application} (happ : app ∈ f.settings.applications)
    (hsingle : app.isMultiServer = false) :
    ((f.pollInOrder around inspect order).1.store.get? (.application app.id)).isSome = true := by
  obtain ⟨server, hserver, hname⟩ := Settings.exists_server_of_isSome
    (Settings.server?_isSome_of_application hvalid happ List.mem_cons_self)
  obtain ⟨shown, hshown⟩ := exists_of_answers (hanswers server hserver)
  obtain ⟨g, hg, -, hpoll⟩ := pollInOrder_isolated hvalid around horder hserver hshown
    (.inl ⟨app, happ, ⟨hname.symm, hsingle⟩, rfl⟩)
  have hon : app ∈ g.applicationsOn server.name :=
    mem_applicationsOn.mpr ⟨hg ▸ happ, hname.symm, hsingle⟩
  obtain ⟨g', -, -, hsnapshot⟩ :=
    applySnapshot_isolated_application (hg ▸ hvalid) around (.observed shown) .ssh hon
  rw [hpoll _ rfl, hsnapshot _ rfl]
  exact isSome_recordApplication around _ _ g' app

theorem isSome_poll_service {service : Service} (hservice : service ∈ f.settings.services) :
    ((f.pollInOrder around inspect order).1.store.get? (.service service.id)).isSome = true := by
  obtain ⟨server, hserver, hname⟩ := Settings.exists_server_of_isSome
    (Settings.server?_isSome_of_service hvalid hservice)
  obtain ⟨shown, hshown⟩ := exists_of_answers (hanswers server hserver)
  obtain ⟨g, hg, -, hpoll⟩ := pollInOrder_isolated hvalid around horder hserver hshown
    (.inr ⟨service, hservice, hname.symm, rfl⟩)
  have hon : service ∈ g.servicesOn server.name :=
    mem_servicesOn.mpr ⟨hg ▸ hservice, hname.symm⟩
  obtain ⟨g', -, -, hsnapshot⟩ :=
    applySnapshot_isolated_service (hg ▸ hvalid) around (.observed shown) .ssh hon
  rw [hpoll _ rfl, hsnapshot _ rfl]
  exact isSome_recordService around _ _ g' service

end Poll

/-! ## What a check records -/

theorem isSome_check_application {f : Fleet} (hvalid : f.settings.problems = [])
    (around : Surroundings) {inspect : Inspector}
    (hanswers : ∀ server ∈ f.settings.servers, answers inspect server = true) {app : Application}
    (happ : app ∈ f.settings.applications) (hmulti : app.isMultiServer = true) :
    ((f.check around inspect).1.store.get? (.application app.id)).isSome = true := by
  have hmem : app ∈ f.settings.multiServerApplications := List.mem_filter.mpr ⟨happ, hmulti⟩
  cases hdep : f.isDeploying (.application app.id) with
  | true =>
      -- No server is looked at for this application, and the override needs none.
      obtain ⟨g, -, hdeploying, hget⟩ := check_isolated hvalid around inspect hmem
      rw [hget _ rfl, checkApplication_of_deploying around _
        ((isDeploying_congr hdeploying _).trans hdep)]
      exact isSome_record_self _ _ _
  | false =>
      obtain ⟨shown, hshown⟩ := exists_inspected hanswers app
      rw [get?_check_self_of_inspected hvalid around hmem hdep hshown]
      rfl

/-! ## How many resources there are -/

theorem snd_check (f : Fleet) (around : Surroundings) (inspect : Inspector) :
    (f.check around inspect).2 = f.settings.multiServerApplications.length := by
  unfold check
  dsimp only
  split
  next hempty => rw [List.isEmpty_iff.mp hempty, List.length_nil]
  next => rfl

/-- The applications on one server and the services are shared among the servers. -/
theorem snd_pollInOrder {f : Fleet} (hvalid : f.settings.problems = []) (around : Surroundings)
    {inspect : Inspector} (hanswers : ∀ server ∈ f.settings.servers, answers inspect server = true)
    {order : List Server} (horder : order.Perm f.settings.servers) :
    (f.pollInOrder around inspect order).2 =
      (f.settings.applications.filter fun a => !a.isMultiServer).length +
        f.settings.services.length := by
  have hnames := (Settings.nodup_of_problems hvalid).1
  have hknown : ∀ {name : String}, (f.settings.server? name).isSome →
      name ∈ f.settings.servers.map Server.name := fun h => by
    obtain ⟨server, hserver, hname⟩ := Settings.exists_server_of_isSome h
    exact List.mem_map.mpr ⟨server, hserver, hname⟩
  have happlications : ∀ server, (f.applicationsOn server).length =
      ((f.settings.applications.filter fun a => !a.isMultiServer).filter
        (Application.server · == server)).length := fun server => by
    rw [List.filter_filter, applicationsOn]
  calc (f.pollInOrder around inspect order).2
      = (f.pollInOrder around inspect f.settings.servers).2 :=
        count_pollInOrder_perm around inspect around horder
    _ = total ((f.settings.servers.map Server.name).map f.resourcesOn) := by
        rw [pollInOrder, List.filter_eq_self.mpr hanswers, List.map_map]
        rfl
    _ = _ := by
        have hshared : total ((f.settings.servers.map Server.name).map f.resourcesOn) =
            total ((f.settings.servers.map Server.name).map fun n => (f.applicationsOn n).length) +
              total ((f.settings.servers.map Server.name).map fun n => (f.servicesOn n).length) :=
          List.sum_map_add
        rw [hshared]
        simp only [happlications, servicesOn]
        rw [total_map_length_filter hnames Application.server,
          total_map_length_filter hnames Service.server]
        · exact fun service hservice =>
            hknown (Settings.server?_isSome_of_service hvalid hservice)
        · exact fun app happ => hknown (Settings.server?_isSome_of_application hvalid
            (List.mem_filter.mp happ).1 List.mem_cons_self)

/-- Every configured application and every configured service has a record. -/
def Covered (s : Settings) (g : Fleet) : Prop :=
  (∀ app ∈ s.applications, (g.store.get? (.application app.id)).isSome = true) ∧
    ∀ service ∈ s.services, (g.store.get? (.service service.id)).isSome = true

theorem covered_of_kinds {s : Settings} {g : Fleet}
    (hsingle : ∀ app ∈ s.applications, app.isMultiServer = false →
      (g.store.get? (.application app.id)).isSome = true)
    (hmulti : ∀ app ∈ s.applications, app.isMultiServer = true →
      (g.store.get? (.application app.id)).isSome = true)
    (hservice : ∀ service ∈ s.services, (g.store.get? (.service service.id)).isSome = true) :
    Covered s g := by
  refine ⟨fun app happ => ?_, hservice⟩
  cases hkind : app.isMultiServer with
  | true => exact hmulti app happ hkind
  | false => exact hsingle app happ hkind

/-- If all servers answer, a poll and a check together count every configured resource once and
leave none of them without a record, whichever of the two comes first, in whatever order the
servers answer, and whatever is stored or being deployed. -/
theorem cycle_covered {f : Fleet} (hvalid : f.settings.problems = [])
    (around around' : Surroundings) {inspect inspect' : Inspector}
    (hpolled : ∀ server ∈ f.settings.servers, answers inspect server = true)
    (hchecked : ∀ server ∈ f.settings.servers, answers inspect' server = true)
    {order : List Server} (horder : order.Perm f.settings.servers) :
    let poll (g : Fleet) := g.pollInOrder around inspect order
    let check (g : Fleet) := g.check around' inspect'
    let resources := f.settings.applications.length + f.settings.services.length
    ((poll f).2 + (check (poll f).1).2 = resources ∧ Covered f.settings (check (poll f).1).1) ∧
      (poll (check f).1).2 + (check f).2 = resources ∧ Covered f.settings (poll (check f).1).1 := by
  intro poll check resources
  have hpoll : ∀ g, (poll g).1.settings = g.settings := fun g =>
    (poll_updates g around inspect order).settings_eq
  have hcheck : ∀ g, (check g).1.settings = g.settings := fun g =>
    (check_updates g around' inspect').settings_eq
  have hcounts : ∀ g h : Fleet, g.settings = f.settings → h.settings = f.settings →
      (poll g).2 + (check h).2 = resources := by
    intro g h hg hh
    have hshared : f.settings.applications.length =
        f.settings.multiServerApplications.length +
          (f.settings.applications.filter fun a => !a.isMultiServer).length :=
      List.length_eq_length_filter_add _
    rw [snd_check, snd_pollInOrder (hg ▸ hvalid) around (hg ▸ hpolled) (hg ▸ horder), hg, hh]
    omega
  refine ⟨⟨hcounts f _ rfl (hpoll f), ?_⟩, hcounts _ f (hcheck f) rfl, ?_⟩
  · have hkept := check_updates (poll f).1 around' inspect'
    have hpoll := hpoll f
    apply covered_of_kinds
    · exact fun app happ hsingle =>
        hkept.isSome rfl (isSome_poll_application hvalid around horder hpolled happ hsingle)
    · exact fun app happ hmulti => isSome_check_application (hpoll ▸ hvalid) around'
        (hpoll ▸ hchecked) (hpoll ▸ happ) hmulti
    · exact fun service hservice =>
        hkept.isSome rfl (isSome_poll_service hvalid around horder hpolled hservice)
  · have hkept := poll_updates (check f).1 around inspect order
    have hcheck := hcheck f
    apply covered_of_kinds
    · exact fun app happ hsingle => isSome_poll_application (hcheck ▸ hvalid) around
        (hcheck ▸ horder) (hcheck ▸ hpolled) (hcheck ▸ happ) hsingle
    · exact fun app happ hmulti =>
        hkept.isSome rfl (isSome_check_application hvalid around' hchecked happ hmulti)
    · exact fun service hservice => isSome_poll_service (hcheck ▸ hvalid) around
        (hcheck ▸ horder) (hcheck ▸ hpolled) (hcheck ▸ hservice)

/-- A cycle in which two of three resources are being deployed, the servers answer in the other
order, and nothing is left on them when the check comes. -/
theorem cycle_covered_market :
    let f : Fleet :=
      { settings := marketSettings, deploying := [.application "shop", .service "mail"] }
    let order := marketSettings.servers.reverse
    let nothing : Inspector := fun _ => .ok []
    let polled := f.pollInOrder noFiles shopInspector order
    let checked := polled.1.check noFiles nothing
    f.settings.problems = [] ∧ order.Perm f.settings.servers ∧
      (∀ server ∈ f.settings.servers, answers shopInspector server = true) ∧
      (∀ server ∈ f.settings.servers, answers nothing server = true) ∧
      polled.2 + checked.2 = 3 ∧ Covered f.settings checked.1 := by
  intro f order nothing polled checked
  have hvalid : f.settings.problems = [] := by decide
  have horder : order.Perm f.settings.servers := List.reverse_perm _
  have hanswers : ∀ inspect : Inspector, (∀ server, ∃ shown, inspect server = .ok shown) →
      ∀ server ∈ f.settings.servers, answers inspect server = true := by
    intro inspect hinspect server _
    obtain ⟨shown, hshown⟩ := hinspect server
    rw [answers, hshown]
  have hpolled := hanswers shopInspector fun _ => ⟨_, rfl⟩
  have hchecked := hanswers nothing fun _ => ⟨_, rfl⟩
  obtain ⟨⟨hcount, hcovered⟩, -⟩ :=
    cycle_covered hvalid noFiles noFiles hpolled hchecked horder
  exact ⟨hvalid, horder, hpolled, hchecked, hcount, hcovered⟩

end Fleet

end FleetWatch
