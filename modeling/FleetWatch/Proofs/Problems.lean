import FleetWatch.Proofs.Rounds
import FleetWatch.Proofs.Run
import FleetWatch.Settings.Load
import Mathlib.Data.List.TakeWhile

/-! # Exactly the problems there are

Validation finds problems one after the other, with the names it has seen so far beside it. What it
reports is said here without it: settings have places at which something can be wrong, the places
have an order, and the report has one problem for each place at which something is wrong, in this
order. So a server that is named at two positions of an application is reported twice, and the third
of three equal ids is a second problem.

Settings without a problem are accepted, and in these a server that a resource names is the one
server of that name.
-/

namespace FleetWatch.Settings

/-! ## Places -/

/-- Where something can be wrong in settings. Elements of lists go by their positions, and the
servers of an application by their positions among all its servers. -/
inductive Place where
  | bindAddress
  | metricsAddress
  | apiKey
  | agentToken
  | sshInterval
  | complexInterval
  | sshTimeout
  | serverName (i : Nat)
  | applicationId (i : Nat)
  | serviceId (i : Nat)
  | applicationServer (i j : Nat)
  | serviceServer (i : Nat)
  deriving DecidableEq

namespace Place

/-- What a place is about, as a number in the order of reports. -/
def topic : Place → Nat
  | bindAddress => 0
  | metricsAddress => 1
  | apiKey => 2
  | agentToken => 3
  | sshInterval => 4
  | complexInterval => 5
  | sshTimeout => 6
  | serverName _ => 7
  | applicationId _ => 8
  | serviceId _ => 9
  | applicationServer _ _ => 10
  | serviceServer _ => 11

/-- The positions of a place, the outer one first. -/
def positions : Place → List Nat
  | serverName i | applicationId i | serviceId i | serviceServer i => [i]
  | applicationServer i j => [i, j]
  | _ => []

/-- Places come by topic, and those with the same topic by their positions. -/
instance : LT Place := ⟨fun p q => p.topic :: p.positions < q.topic :: q.positions⟩

instance (p q : Place) : Decidable (p < q) :=
  inferInstanceAs (Decidable (p.topic :: p.positions < q.topic :: q.positions))

theorem lt_iff {p q : Place} :
    p < q ↔ p.topic < q.topic ∨ p.topic = q.topic ∧ p.positions < q.positions :=
  List.cons_lt_cons_iff

/-- Of two places with the same topic, the one with the smaller outer position comes first. -/
theorem lt_of_position {p q : Place} {i j : Nat} {is js : List Nat} (htopic : p.topic = q.topic)
    (hp : p.positions = i :: is) (hq : q.positions = j :: js) (hij : i < j) : p < q := by
  rw [lt_iff, hp, hq]
  exact .inr ⟨htopic, List.cons_lt_cons_iff.mpr (.inl hij)⟩

/-- A topic that has no positions has one place. -/
theorem eq_of_topic {p q : Place} (htopic : p.topic = q.topic) (hq : q.positions = []) : p = q := by
  cases q <;> cases hq <;> cases p <;> cases htopic <;> rfl

end Place

/-- The name at a position is also at an earlier one. -/
def RepeatedAt (names : List String) (i : Nat) (name : String) : Prop :=
  names[i]? = some name ∧ ∃ j < i, names[j]? = some name

/-- No server has this name. -/
def Unknown (s : Settings) (name : String) : Prop := ∀ server ∈ s.servers, server.name ≠ name

instance (s : Settings) (name : String) : Decidable (s.Unknown name) :=
  inferInstanceAs (Decidable (∀ server ∈ s.servers, server.name ≠ name))

/-- What is wrong at a place, given which texts are addresses. -/
def Wrong (isAddress : String → Bool) (s : Settings) : Place → SettingsProblem → Prop
  | .bindAddress, e =>
      isAddress s.api.bindAddress = false ∧
        e = .invalidAddress "api.bind_address" s.api.bindAddress
  | .metricsAddress, e =>
      (s.observability.metricsEnabled = true ∧
          isAddress s.observability.metricsAddress = false) ∧
        e = .invalidAddress "observability.metrics_address" s.observability.metricsAddress
  | .apiKey, e => Text.trim s.api.apiKey = "" ∧ e = .emptyToken "api.api_key"
  | .agentToken, e => Text.trim s.api.agentToken = "" ∧ e = .emptyToken "api.agent_token"
  | .sshInterval, e =>
      s.collectors.sshIntervalSecs = 0 ∧ e = .zeroInterval "collectors.ssh_interval_secs"
  | .complexInterval, e =>
      s.collectors.complexIntervalSecs = 0 ∧ e = .zeroInterval "collectors.complex_interval_secs"
  | .sshTimeout, e =>
      s.collectors.sshTimeoutSecs = 0 ∧ e = .zeroInterval "collectors.ssh_timeout_secs"
  | .serverName i, e =>
      ∃ name, RepeatedAt (s.servers.map Server.name) i name ∧ e = .duplicate "server" name
  | .applicationId i, e =>
      ∃ id, RepeatedAt (s.applications.map Application.id) i id ∧ e = .duplicate "application" id
  | .serviceId i, e =>
      ∃ id, RepeatedAt (s.services.map Service.id) i id ∧ e = .duplicate "service" id
  | .applicationServer i j, e =>
      ∃ app, s.applications[i]? = some app ∧ ∃ name, app.allServers[j]? = some name ∧
        s.Unknown name ∧ e = .unknownServer "application" app.id name
  | .serviceServer i, e =>
      ∃ service, s.services[i]? = some service ∧ s.Unknown service.server ∧
        e = .unknownServer "service" service.id service.server

/-! ## Reports -/

/-- The list reports what is wrong: one problem for each place at which something is, in the order
of places. -/
def Reports (wrong : Place → SettingsProblem → Prop) (problems : List SettingsProblem) : Prop :=
  ∃ found : List (Place × SettingsProblem),
    found.Pairwise (fun a b => a.1 < b.1) ∧
      (∀ place problem, (place, problem) ∈ found ↔ wrong place problem) ∧
      found.map Prod.snd = problems

namespace Reports

variable {wrong wrong' : Place → SettingsProblem → Prop} {xs ys : List SettingsProblem}

theorem congr (h : Reports wrong xs) (hwrong : ∀ p e, wrong p e ↔ wrong' p e) :
    Reports wrong' xs := by
  obtain ⟨found, hsorted, hmem, hxs⟩ := h
  exact ⟨found, hsorted, fun p e => (hmem p e).trans (hwrong p e), hxs⟩

theorem nil (h : ∀ p e, ¬ wrong p e) : Reports wrong [] :=
  ⟨[], .nil, fun p e => iff_of_false List.not_mem_nil (h p e), rfl⟩

/-- A place is reported if what can be wrong there is. -/
theorem check {c : Prop} [Decidable c] (place : Place) (problem : SettingsProblem) :
    Reports (fun p e => c ∧ p = place ∧ e = problem) (if c then [problem] else []) := by
  split
  next hc => exact ⟨[(place, problem)], List.pairwise_singleton _ _, by simp [hc], rfl⟩
  next hc => exact nil fun p e h => hc h.1

theorem append (h : Reports wrong xs) (h' : Reports wrong' ys)
    (hlt : ∀ p e q e', wrong p e → wrong' q e' → p < q) :
    Reports (fun p e => wrong p e ∨ wrong' p e) (xs ++ ys) := by
  obtain ⟨found, hsorted, hmem, rfl⟩ := h
  obtain ⟨found', hsorted', hmem', rfl⟩ := h'
  refine ⟨found ++ found', List.pairwise_append.mpr ⟨hsorted, hsorted', ?_⟩, ?_, List.map_append⟩
  · rintro ⟨p, e⟩ hp ⟨q, e'⟩ hq
    exact hlt p e q e' ((hmem p e).mp hp) ((hmem' q e').mp hq)
  · intro p e
    rw [List.mem_append, hmem, hmem']

/-- What is wrong with the elements of a list is reported element by element. -/
theorem mapIdx {α : Type} {items : List α} {wrongAt : Nat → α → Place → SettingsProblem → Prop}
    {report : Nat → α → List SettingsProblem}
    (h : ∀ i x, items[i]? = some x → Reports (wrongAt i x) (report i x))
    (hlt : ∀ i x j y p e q e', i < j → wrongAt i x p e → wrongAt j y q e' → p < q) :
    Reports (fun p e => ∃ i x, items[i]? = some x ∧ wrongAt i x p e)
      (items.mapIdx report).flatten := by
  induction items generalizing wrongAt report with
  | nil => exact nil fun p e ⟨i, x, hx, _⟩ => by simp at hx
  | cons x rest ih =>
      have hfirst := h 0 x rfl
      have hrest := @ih (fun i => wrongAt (i + 1)) (fun i => report (i + 1))
        (fun i y hy => h (i + 1) y hy)
        (fun i y j z p e q e' hij => hlt (i + 1) y (j + 1) z p e q e' (by omega))
      rw [List.mapIdx_cons, List.flatten_cons]
      refine (hfirst.append hrest ?_).congr fun p e => ?_
      · rintro p e q e' hp ⟨j, y, -, hq⟩
        exact hlt 0 x (j + 1) y p e q e' (by omega) hp hq
      · constructor
        · rintro (hp | ⟨i, y, hy, hp⟩)
          · exact ⟨0, x, rfl, hp⟩
          · exact ⟨i + 1, y, hy, hp⟩
        · rintro ⟨i, y, hy, hp⟩
          cases i with
          | zero =>
              obtain rfl : x = y := Option.some.inj hy
              exact .inl hp
          | succ i => exact .inr ⟨i, y, hy, hp⟩

/-- A report that does not look at positions. -/
theorem flatMap {α : Type} {items : List α} {wrongAt : Nat → α → Place → SettingsProblem → Prop}
    {report : α → List SettingsProblem}
    (h : ∀ i x, items[i]? = some x → Reports (wrongAt i x) (report x))
    (hlt : ∀ i x j y p e q e', i < j → wrongAt i x p e → wrongAt j y q e' → p < q) :
    Reports (fun p e => ∃ i x, items[i]? = some x ∧ wrongAt i x p e) (items.flatMap report) := by
  have hmap : items.mapIdx (fun _ => report) = items.map report := by
    apply List.ext_getElem?
    intro i
    rw [List.getElem?_mapIdx, List.getElem?_map]
  rw [List.flatMap_def, ← hmap]
  exact mapIdx h hlt

/-- The elements that fail a test are reported in their order. -/
theorem filter {α : Type} (items : List α) (test : α → Bool) (place : Nat → Place)
    (problem : α → SettingsProblem) (hplace : ∀ i j, i < j → place i < place j) :
    Reports (fun p e => ∃ i x, items[i]? = some x ∧ test x = true ∧ p = place i ∧ e = problem x)
      ((items.filter test).map problem) := by
  have hflat : (items.filter test).map problem =
      items.flatMap fun x => if test x = true then [problem x] else [] := by
    rw [← List.filterMap_eq_filter, List.map_filterMap, List.filterMap_eq_flatMap_toList]
    apply List.flatMap_congr
    intro x _
    cases htest : test x <;> simp [htest]
  rw [hflat]
  refine flatMap (fun i x _ => check (place i) (problem x)) ?_
  rintro i x j y _ _ _ _ hij ⟨-, rfl, -⟩ ⟨-, rfl, -⟩
  exact hplace i j hij

/-- The names seen so far are those at earlier positions. -/
theorem map_repeated (problem : String → SettingsProblem) (seen names : List String) :
    (repeated seen names).map problem =
      (names.mapIdx fun i name =>
        if name ∈ seen ∨ name ∈ names.take i then [problem name] else []).flatten := by
  induction names generalizing seen with
  | nil => rfl
  | cons name rest ih =>
      rw [repeated, List.map_append, ih, List.mapIdx_cons, List.flatten_cons]
      congr 1
      · by_cases hseen : name ∈ seen <;> simp [hseen]
      · simp only [List.take_succ_cons, List.mem_cons, or_assoc, or_left_comm]

theorem repeated (names : List String) (place : Nat → Place) (problem : String → SettingsProblem)
    (hplace : ∀ i j, i < j → place i < place j) :
    Reports (fun p e => ∃ i name, RepeatedAt names i name ∧ p = place i ∧ e = problem name)
      ((Settings.repeated [] names).map problem) := by
  rw [map_repeated]
  refine (mapIdx (fun i name _ => check (place i) (problem name)) ?_).congr fun p e => ?_
  · rintro i name j name' _ _ _ _ hij ⟨-, rfl, -⟩ ⟨-, rfl, -⟩
    exact hplace i j hij
  · simp [RepeatedAt, List.mem_iff_getElem?, List.getElem?_take, and_assoc]

end Reports

/-! ## Topics -/

/-- The list reports what is wrong at the places of some topics. -/
def ReportsTopics (wrong : Place → SettingsProblem → Prop) (first last : Nat)
    (problems : List SettingsProblem) : Prop :=
  Reports (fun p e => wrong p e ∧ first ≤ p.topic ∧ p.topic ≤ last) problems

namespace ReportsTopics

variable {wrong : Place → SettingsProblem → Prop} {xs ys : List SettingsProblem}

/-- What is wrong at the places of some topics is reported before what is wrong at later ones. -/
theorem append {first middle last : Nat} (h : ReportsTopics wrong first middle xs)
    (h' : ReportsTopics wrong (middle + 1) last ys) (hfirst : first ≤ middle)
    (hlast : middle ≤ last) : ReportsTopics wrong first last (xs ++ ys) := by
  refine (Reports.append h h' ?_).congr fun p e => ?_
  · rintro p e q e' ⟨-, -, hp⟩ ⟨-, hq, -⟩
    exact Place.lt_iff.mpr (.inl (by omega))
  · rw [← and_or_left]
    apply and_congr_right
    intro _
    omega

theorem of_topic {topic : Nat} (h : Reports (fun p e => wrong p e ∧ p.topic = topic) xs) :
    ReportsTopics wrong topic topic xs := by
  refine h.congr fun p e => and_congr_right fun _ => ?_
  omega

/-- A topic with one place is reported by a check of what can be wrong there. -/
theorem check {c : Prop} [Decidable c] (place : Place) {problem : SettingsProblem}
    (hplace : place.positions = []) (hwrong : ∀ e, wrong place e ↔ c ∧ e = problem)
    (hxs : xs = if c then [problem] else []) : ReportsTopics wrong place.topic place.topic xs := by
  subst hxs
  refine of_topic ((Reports.check place problem).congr fun p e => ⟨?_, ?_⟩)
  · rintro ⟨hc, rfl, rfl⟩
    exact ⟨(hwrong _).mpr ⟨hc, rfl⟩, rfl⟩
  · rintro ⟨hp, htopic⟩
    obtain rfl := Place.eq_of_topic htopic hplace
    obtain ⟨hc, rfl⟩ := (hwrong e).mp hp
    exact ⟨hc, rfl, rfl⟩

end ReportsTopics

theorem isBlankText_iff (text : String) : Text.isBlankText text = true ↔ Text.trim text = "" := by
  have hnil : Text.trim text = "" ↔ Text.trimChars text.toList = [] := by
    rw [Text.trim, ← String.toList_inj, String.toList_ofList, String.toList_empty]
  rw [hnil, Text.isBlankText, List.all_eq_true, Text.trimChars, Text.dropEnd, Text.dropStart,
    List.reverse_eq_nil_iff, List.dropWhile_eq_nil_iff]
  constructor
  · intro h c hc
    exact h c (List.dropWhile_subset _ (List.mem_reverse.mp hc))
  · intro h c hc
    rw [← List.takeWhile_append_dropWhile (p := Text.isBlank) (l := text.toList)] at hc
    rcases List.mem_append.mp hc with hc | hc
    · exact List.mem_takeWhile_imp hc
    · exact h c (List.mem_reverse.mpr hc)

section

variable (isAddress : String → Bool) (s : Settings)

theorem reports_addressProblems :
    ReportsTopics (Wrong isAddress s) 0 1 (s.addressProblems isAddress) := by
  unfold addressProblems
  refine .append (.check .bindAddress rfl (fun _ => Iff.rfl) ?_)
    (.check .metricsAddress rfl (fun _ => Iff.rfl) ?_) (by decide) (by decide)
  · cases isAddress s.api.bindAddress <;> rfl
  · cases s.observability.metricsEnabled <;> cases isAddress s.observability.metricsAddress <;> rfl

theorem reports_tokenProblems : ReportsTopics (Wrong isAddress s) 2 3 s.tokenProblems := by
  rw [tokenProblems, List.filterMap_eq_flatMap_toList]
  simp only [List.flatMap_cons, List.flatMap_nil, List.append_nil, isBlankText_iff]
  refine .append (.check .apiKey rfl (fun _ => Iff.rfl) ?_)
    (.check .agentToken rfl (fun _ => Iff.rfl) ?_) (by decide) (by decide)
  · split <;> rfl
  · split <;> rfl

theorem reports_intervalProblems : ReportsTopics (Wrong isAddress s) 4 6 s.intervalProblems := by
  rw [intervalProblems, List.filterMap_eq_flatMap_toList]
  simp only [List.flatMap_cons, List.flatMap_nil, List.append_nil]
  refine .append (.check .sshInterval rfl (fun _ => Iff.rfl) ?_)
    (.append (.check .complexInterval rfl (fun _ => Iff.rfl) ?_)
      (.check .sshTimeout rfl (fun _ => Iff.rfl) ?_) (by decide) (by decide))
    (by decide) (by decide)
  · split <;> rfl
  · split <;> rfl
  · split <;> rfl

theorem reports_duplicateProblems : ReportsTopics (Wrong isAddress s) 7 9 s.duplicateProblems := by
  unfold duplicateProblems
  refine .append (.append (.of_topic ?_) (.of_topic ?_) (by decide) (by decide)) (.of_topic ?_)
    (by decide) (by decide)
  · refine (Reports.repeated _ .serverName _ fun i j => ?_).congr fun p e => ?_
    · exact Place.lt_of_position rfl rfl rfl
    · cases p <;> simp [Wrong, Place.topic]
  · refine (Reports.repeated _ .applicationId _ fun i j => ?_).congr fun p e => ?_
    · exact Place.lt_of_position rfl rfl rfl
    · cases p <;> simp [Wrong, Place.topic]
  · refine (Reports.repeated _ .serviceId _ fun i j => ?_).congr fun p e => ?_
    · exact Place.lt_of_position rfl rfl rfl
    · cases p <;> simp [Wrong, Place.topic]

theorem reports_referenceProblems :
    ReportsTopics (Wrong isAddress s) 10 11 s.referenceProblems := by
  have hknows : ∀ name, (!s.knows name) = true ↔ s.Unknown name := by
    simp [knows, Unknown]
  unfold referenceProblems
  refine .append (.of_topic ?_) (.of_topic ?_) (by decide) (by decide)
  · have happlication : ∀ i (app : Application), Reports _ _ := fun i app =>
      Reports.filter app.allServers (fun name => !s.knows name) (.applicationServer i)
        (.unknownServer "application" app.id) fun j k hjk =>
          Place.lt_iff.mpr (.inr ⟨rfl, by simp [Place.positions, List.cons_lt_cons_iff, hjk]⟩)
    refine (Reports.flatMap (fun i app _ => happlication i app) ?_).congr fun p e => ?_
    · rintro i app j app' _ _ _ _ hij ⟨k, name, -, -, rfl, -⟩ ⟨k', name', -, -, rfl, -⟩
      exact Place.lt_of_position rfl rfl rfl hij
    · simp only [hknows]
      cases p <;> simp [Wrong, Place.topic]
  · refine (Reports.filter s.services _ .serviceServer _ fun i j => ?_).congr fun p e => ?_
    · exact Place.lt_of_position rfl rfl rfl
    · simp only [hknows]
      cases p <;> simp [Wrong, Place.topic]

theorem reports_problemsWith : Reports (Wrong isAddress s) (s.problemsWith isAddress) := by
  have haddresses := reports_addressProblems isAddress s
  have htokens := haddresses.append (reports_tokenProblems isAddress s) (by decide) (by decide)
  have hintervals := htokens.append (reports_intervalProblems isAddress s) (by decide) (by decide)
  have hduplicates :=
    hintervals.append (reports_duplicateProblems isAddress s) (by decide) (by decide)
  have hall := hduplicates.append (reports_referenceProblems isAddress s) (by decide) (by decide)
  refine Reports.congr hall fun p e => and_iff_left ⟨Nat.zero_le _, ?_⟩
  cases p <;> simp [Place.topic]

end

/-! ## Settings without a problem -/

/-- Some resource is to run on the server of this name. -/
def NamesServer (s : Settings) (name : String) : Prop :=
  (∃ app ∈ s.applications, name ∈ app.allServers) ∨ ∃ service ∈ s.services, service.server = name

theorem server?_isSome_of_namesServer {isAddress : String → Bool} {s : Settings}
    (h : s.problemsWith isAddress = []) {name : String} (hname : s.NamesServer name) :
    (s.server? name).isSome := by
  rcases hname with ⟨app, happ, hname⟩ | ⟨service, hservice, rfl⟩
  · exact server?_isSome_of_application h happ hname
  · exact server?_isSome_of_service h hservice

/-- Where no name is repeated, what is found under a name is the only server of that name. -/
theorem server?_unique {s : Settings} (hnames : (s.servers.map Server.name).Nodup) {name : String}
    {server : Server} (h : s.server? name = some server) :
    (s.servers.map Server.name).count name = 1 ∧
      ∀ other ∈ s.servers, other.name = name → other = server := by
  have hmem := List.mem_of_find?_eq_some h
  obtain rfl := name_of_server? h
  exact ⟨List.count_eq_one_of_mem hnames (List.mem_map_of_mem hmem),
    fun other hother heq => List.inj_on_of_nodup_map hnames hother hmem heq⟩

/-- Validation reports exactly what is wrong, place by place, whichever texts are addresses. It
accepts settings if nothing is, and then every server that a resource names is found under its name,
which no other server has. -/
theorem problems_exact (isAddress : String → Bool) (s : Settings) :
    Reports (Wrong isAddress s) (s.problemsWith isAddress) ∧
      (s.validate = if s.problemsWith Address.isSocketAddress = [] then .ok s
        else .error (.validation (s.problemsWith Address.isSocketAddress))) ∧
      (s.problemsWith isAddress = [] → ∀ name, s.NamesServer name →
        ∃ server, s.server? name = some server ∧ server.name = name ∧
          (s.servers.map Server.name).count name = 1 ∧
          ∀ other ∈ s.servers, other.name = name → other = server) := by
  refine ⟨reports_problemsWith isAddress s, ?_, ?_⟩
  · rw [validate, problems]
    simp only [List.isEmpty_iff]
  · intro hvalid name hname
    obtain ⟨server, hserver⟩ :=
      Option.isSome_iff_exists.mp (server?_isSome_of_namesServer hvalid hname)
    exact ⟨server, hserver, name_of_server? hserver,
      server?_unique (nodup_of_problems hvalid).1 hserver⟩

/-- Settings with several things wrong. Metrics are off, so their address does not matter. -/
def faultySettings : Settings where
  api := { bindAddress := "nowhere", agentToken := " \t" }
  collectors := { sshIntervalSecs := 0 }
  observability := { metricsEnabled := false, metricsAddress := "nowhere" }
  servers := [{ name := "a", host := "10.0.0.5" }, { name := "b", host := "10.0.0.6" },
    { name := "a", host := "10.0.0.7" }, { name := "a", host := "10.0.0.8" }]
  applications := [{ id := "shop", server := "ghost", additionalServers := ["a", "ghost"] }]
  services := [{ id := "db", server := "B", composePath := "db.yml" }]

/-- The third server of one name is a problem of its own, and so is the second mention of a server
that there is not. The shop has no problem, and its second server is found. -/
theorem problems_exact_shop :
    Reports (Wrong Address.isSocketAddress faultySettings) faultySettings.problems ∧
      Wrong Address.isSocketAddress faultySettings (.serverName 3) (.duplicate "server" "a") ∧
      Wrong Address.isSocketAddress faultySettings (.applicationServer 0 2)
        (.unknownServer "application" "shop" "ghost") ∧
      Fleet.shopSettings.validate = .ok Fleet.shopSettings ∧
      ∃ server, Fleet.shopSettings.server? "edge-2" = some server ∧ server.host = "10.0.0.6" ∧
        ∀ other ∈ Fleet.shopSettings.servers, other.name = "edge-2" → other = server := by
  have hvalid : Fleet.shopSettings.problemsWith Address.isSocketAddress = [] := by decide
  obtain ⟨hreports, -, -⟩ := problems_exact Address.isSocketAddress faultySettings
  obtain ⟨-, haccepted, hfound⟩ := problems_exact Address.isSocketAddress Fleet.shopSettings
  rw [if_pos hvalid] at haccepted
  obtain ⟨server, hserver, -, -, honly⟩ :=
    hfound hvalid "edge-2" (.inl ⟨_, List.mem_cons_self, by decide⟩)
  refine ⟨hreports, ⟨"a", ⟨rfl, 0, by decide, rfl⟩, rfl⟩, ⟨_, rfl, "ghost", rfl, by decide, rfl⟩,
    haccepted, server, hserver, ?_, honly⟩
  obtain rfl := Option.some.inj hserver
  rfl

example : faultySettings.problems.map SettingsProblem.message =
    ["invalid api.bind_address address: nowhere", "api.agent_token must not be empty",
      "collectors.ssh_interval_secs must be greater than zero", "duplicate server identifier: a",
      "duplicate server identifier: a", "application shop references unknown server ghost",
      "application shop references unknown server ghost",
      "service db references unknown server B"] := by decide

end FleetWatch.Settings
