import FleetWatch.Proofs.Unrecognized

/-! # Splitting a resource

The containers of a resource may be split into groups, such as the parts of a service or the
placements of an application. Each group has a status of its own, and a rollup of these stands in
for the status of all containers together. Both are `running:healthy` in the same cases, and the
rollup is never degraded where the containers together are not. Single containers that were never
restarted may be rolled up without any loss.

The converse fails. A group shows one status, and what is exited in it is not seen behind what is
paused or starting; neither are restarts in one group counted for what has exited in another. What
a rollup can still see of a degraded resource is said exactly.
-/

namespace FleetWatch

namespace StatusToken

/-- Whatever the token is part of is degraded. -/
def isBroken (t : StatusToken) : Bool :=
  t == .degraded || t.inPhase [.restarting, .dead, .removing]

theorem isBroken_iff (t : StatusToken) : t.isBroken = true ↔
    t = .degraded ∨ t.inPhase [.restarting] = true ∨ t.inPhase [.dead, .removing] = true := by
  cases t with
  | degraded => simp [isBroken]
  | container state health => cases state <;> simp [isBroken, inPhase]

end StatusToken

namespace Status

/-! ## The decision table in two halves -/

/-- One of the first four rules of the decision table applies. -/
def Degrading (ts : List StatusToken) (maxRestarts : Int) : Prop :=
  (∃ t ∈ ts, t.isBroken = true) ∨
    (∃ t ∈ ts, t.inPhase [.exited] = true) ∧
      ((∃ t ∈ ts, t.inPhase [.running] = true) ∨ 0 < maxRestarts)

instance (ts : List StatusToken) (maxRestarts : Int) : Decidable (Degrading ts maxRestarts) :=
  inferInstanceAs (Decidable (_ ∨ _))

/-- What the other rules come to. -/
def settled (ts : List StatusToken) : Status :=
  let any (phases : List Lifecycle) : Bool := ts.any (·.inPhase phases)
  if any [.running] && any [.created, .starting] then starting
  else if any [.paused] && !any [.running] then paused
  else if any [.created, .starting] then starting
  else if any [.running] then running (runningHealth ts)
  else exited

theorem ofTokens_eq_ite (ts : List StatusToken) (maxRestarts : Int) :
    ofTokens ts maxRestarts = if Degrading ts maxRestarts then degraded else settled ts := by
  rw [ofTokens_eq_byFirst]
  simp only [rules, byFirst_cons, byFirst_nil, ← ite_or]
  refine if_congr ?_ rfl rfl
  simp only [Degrading, StatusToken.isBroken_iff, Bool.or_eq_true, Bool.and_eq_true,
    List.any_eq_true, beq_iff_eq, decide_eq_true_eq, and_or_left, exists_or]
  grind only

theorem ofTokens_of_degrading {ts : List StatusToken} {maxRestarts : Int}
    (h : Degrading ts maxRestarts) : ofTokens ts maxRestarts = degraded := by
  rw [ofTokens_eq_ite, if_pos h]

theorem ofTokens_of_not_degrading {ts : List StatusToken} {maxRestarts : Int}
    (h : ¬ Degrading ts maxRestarts) : ofTokens ts maxRestarts = settled ts := by
  rw [ofTokens_eq_ite, if_neg h]

theorem base_settled_ne_degraded (ts : List StatusToken) : (settled ts).base ≠ .degraded := by
  unfold settled
  dsimp only
  split_ifs <;> exact Base.noConfusion

theorem base_settled_eq_exited_iff (ts : List StatusToken) :
    (settled ts).base = .exited ↔ ts.any (·.inPhase [.running]) = false ∧
      ts.any (·.inPhase [.created, .starting]) = false ∧ ts.any (·.inPhase [.paused]) = false := by
  unfold settled
  dsimp only
  split_ifs <;> grind only [exited, starting, paused, running]

theorem base_settled_eq_running_iff (ts : List StatusToken) :
    (settled ts).base = .running ↔ ts.any (·.inPhase [.running]) = true ∧
      ts.any (·.inPhase [.created, .starting]) = false := by
  unfold settled
  dsimp only
  split_ifs <;> grind only [exited, starting, paused, running]

theorem base_ofTokens_eq_degraded_iff (ts : List StatusToken) (maxRestarts : Int) :
    (ofTokens ts maxRestarts).base = .degraded ↔ Degrading ts maxRestarts := by
  by_cases h : Degrading ts maxRestarts
  · exact iff_of_true (by rw [ofTokens_of_degrading h]; rfl) h
  · rw [ofTokens_of_not_degrading h]
    exact iff_of_false (base_settled_ne_degraded ts) h

theorem ofTokens_eq_degraded_iff (ts : List StatusToken) (maxRestarts : Int) :
    ofTokens ts maxRestarts = degraded ↔ Degrading ts maxRestarts :=
  ⟨fun h => (base_ofTokens_eq_degraded_iff ts maxRestarts).mp (congrArg base h),
    ofTokens_of_degrading⟩

/-! ## Nothing excluded -/

theorem evaluateSightings_nil (seen : List Sighting) :
    evaluateSightings seen [] = ofSightings seen := by
  have hcounted : (seen.filter fun s => !([] : List String).contains s.name) = seen :=
    List.filter_eq_self.mpr fun _ _ => rfl
  unfold evaluateSightings
  rw [hcounted]
  cases seen <;> rfl

theorem evaluate_nil (os : List Observation) :
    evaluate os [] = ofTokens (os.map Observation.token) (maxRestarts os) := by
  rw [← ofObservations, ofObservations_eq, ← evaluateSightings_nil]
  exact (Containers.observed os).evaluate_eq []

theorem rollup_nil (parts : List (String × Status)) :
    rollup parts [] = ofTokens (parts.filterMap fun p => p.2.token?) 0 := by
  rw [rollup_eq, evaluateSightings_nil, ofSightings, maxCount_sighting, List.filterMap_map]
  rfl

/-- What the token of a status says is known by the base. -/
theorem any_token?_isBroken (s : Status) :
    s.token?.any StatusToken.isBroken = (s.base == .degraded) := by
  obtain ⟨base, qualifier, excluded⟩ := s
  cases base <;> rfl

theorem any_token?_exited (s : Status) :
    s.token?.any (·.inPhase [.exited]) = (s.base == .exited) := by
  obtain ⟨base, qualifier, excluded⟩ := s
  cases base <;> rfl

theorem any_token?_running (s : Status) :
    s.token?.any (·.inPhase [.running]) = (s.base == .running) := by
  obtain ⟨base, qualifier, excluded⟩ := s
  cases base <;> rfl

/-- A rollup is degraded by a degraded part, or by a part that has exited beside a running one. -/
theorem rollup_eq_degraded_iff (parts : List (String × Status)) :
    rollup parts [] = degraded ↔ (∃ p ∈ parts, p.2.base = .degraded) ∨
      (∃ p ∈ parts, p.2.base = .exited) ∧ ∃ p ∈ parts, p.2.base = .running := by
  have htokens : ∀ holds : StatusToken → Bool,
      (∃ t ∈ parts.filterMap fun p => p.2.token?, holds t = true) ↔
        ∃ p ∈ parts, p.2.token?.any holds = true := by
    intro holds
    simp only [List.mem_filterMap, Option.any_eq_true]
    constructor
    · rintro ⟨t, ⟨p, hp, ht⟩, hholds⟩
      exact ⟨p, hp, t, ht, hholds⟩
    · rintro ⟨p, hp, t, ht, hholds⟩
      exact ⟨t, ⟨p, hp, ht⟩, hholds⟩
  rw [rollup_nil, ofTokens_eq_degraded_iff, Degrading, htokens, htokens, htokens]
  simp only [any_token?_isBroken, any_token?_exited, any_token?_running, beq_iff_eq, lt_irrefl,
    or_false]

end Status

/-! ## One group of containers -/

/-- The containers are degraded, whatever is beside them. -/
def Alarming (os : List Observation) : Prop :=
  (∃ c ∈ os, c.state ∈ [.restarting, .dead, .removing]) ∨
    (∃ c ∈ os, c.state = .exited) ∧
      ((∃ c ∈ os, c.state = .running) ∨ ∃ c ∈ os, c.sighting.isRestarted = true)

theorem Observation.token_isBroken_iff (c : Observation) :
    c.token.isBroken = true ↔ c.state ∈ [.restarting, .dead, .removing] := by
  simp [token, StatusToken.isBroken, StatusToken.inPhase]

theorem Observation.token_inPhase_iff (c : Observation) (phases : List Lifecycle) :
    c.token.inPhase phases = true ↔ c.state ∈ phases := by
  simp [token, StatusToken.inPhase]

theorem maxRestarts_pos_iff (os : List Observation) :
    0 < maxRestarts os ↔ ∃ c ∈ os, c.sighting.isRestarted = true := by
  have hpos := Status.maxCount_pos_iff (os.map Observation.sighting)
  simp only [List.map_map, List.mem_map, exists_exists_and_eq_and] at hpos
  exact hpos

namespace Alarming

variable {os ps : List Observation}

theorem degrading_iff (os : List Observation) :
    Status.Degrading (os.map Observation.token) (maxRestarts os) ↔ Alarming os := by
  simp only [Status.Degrading, Alarming, List.mem_map, exists_exists_and_eq_and,
    Observation.token_isBroken_iff,
    Observation.token_inPhase_iff, Int.natCast_pos, maxRestarts_pos_iff, List.mem_singleton]

/-- More containers do not call an alarm off. -/
theorem mono (h : Alarming os) (hsub : os ⊆ ps) : Alarming ps := by
  obtain ⟨c, hc, hstate⟩ | ⟨⟨c, hc, hexited⟩, ⟨d, hd, hrunning⟩ | ⟨d, hd, hrestarted⟩⟩ := h
  · exact .inl ⟨c, hsub hc, hstate⟩
  · exact .inr ⟨⟨c, hsub hc, hexited⟩, .inl ⟨d, hsub hd, hrunning⟩⟩
  · exact .inr ⟨⟨c, hsub hc, hexited⟩, .inr ⟨d, hsub hd, hrestarted⟩⟩

end Alarming

namespace Status

theorem evaluate_eq_degraded_iff (os : List Observation) :
    evaluate os [] = degraded ↔ Alarming os := by
  rw [evaluate_nil, ofTokens_eq_degraded_iff, Alarming.degrading_iff]

theorem base_evaluate_eq_degraded_iff (os : List Observation) :
    (evaluate os []).base = .degraded ↔ Alarming os := by
  rw [evaluate_nil, base_ofTokens_eq_degraded_iff, Alarming.degrading_iff]

section NotAlarming

variable {os : List Observation} (h : ¬ Alarming os)
include h

theorem evaluate_eq_settled : evaluate os [] = settled (os.map Observation.token) := by
  rw [evaluate_nil, ofTokens_of_not_degrading (mt (Alarming.degrading_iff os).mp h)]

theorem base_evaluate_eq_exited_iff :
    (evaluate os []).base = .exited ↔ ∀ c ∈ os, c.state = .exited := by
  have hwhole : ∀ c ∈ os, c.state ∉ [.restarting, .dead, .removing] :=
    fun c hc hstate => h (.inl ⟨c, hc, hstate⟩)
  rw [evaluate_eq_settled h, base_settled_eq_exited_iff]
  simp only [List.any_eq_false, List.forall_mem_map, Observation.token_inPhase_iff,
    ← forall₂_and]
  refine forall₂_congr fun c hc => ?_
  have hwhole := hwhole c hc
  cases hstate : c.state <;> simp [hstate] at hwhole ⊢

theorem base_evaluate_eq_running_iff :
    (evaluate os []).base = .running ↔
      (∃ c ∈ os, c.state = .running) ∧ ∀ c ∈ os, c.state ∉ [.created, .starting] := by
  rw [evaluate_eq_settled h, base_settled_eq_running_iff, List.any_eq_false, List.forall_mem_map]
  simp only [List.any_eq_true, List.mem_map, exists_exists_and_eq_and,
    Observation.token_inPhase_iff, List.mem_singleton]

end NotAlarming

end Status

/-! ## Groups of containers -/

/-- The containers of a resource in groups, each with a name. -/
abbrev Groups := List (String × List Observation)

namespace Groups

/-- All containers of the resource. -/
def containers (groups : Groups) : List Observation := groups.flatMap Prod.snd

/-- The status of each group. -/
def statuses (groups : Groups) : List (String × Status) :=
  groups.map fun (name, os) => (name, Status.evaluate os [])

/-- What a rollup sees of the alarms of a resource: a group that is degraded by itself, or a group
that has exited as a whole beside one that runs, with nothing in it that is yet to start. -/
def Noticed (groups : Groups) : Prop :=
  (∃ g ∈ groups, Alarming g.2) ∨
    (∃ g ∈ groups, ∀ c ∈ g.2, c.state = .exited) ∧
      ∃ g ∈ groups, (∃ c ∈ g.2, c.state = .running) ∧ ∀ c ∈ g.2, c.state ∉ [.created, .starting]

theorem exists_mem_statuses {groups : Groups} {p : Status → Prop} :
    (∃ part ∈ groups.statuses, p part.2) ↔ ∃ g ∈ groups, p (Status.evaluate g.2 []) := by
  simp only [statuses, List.mem_map, exists_exists_and_eq_and]

theorem rollup_statuses_eq_degraded_iff (groups : Groups) :
    Status.rollup groups.statuses [] = .degraded ↔ groups.Noticed := by
  rw [Status.rollup_eq_degraded_iff, exists_mem_statuses (p := fun s => s.base = .degraded),
    exists_mem_statuses (p := fun s => s.base = .exited),
    exists_mem_statuses (p := fun s => s.base = .running)]
  simp only [Status.base_evaluate_eq_degraded_iff, Noticed]
  by_cases halarm : ∃ g ∈ groups, Alarming g.2
  · exact iff_of_true (.inl halarm) (.inl halarm)
  · -- Without an alarm of its own, a group shows by its base what it consists of.
    have hcalm : ∀ g ∈ groups, ¬ Alarming g.2 := fun g hg h => halarm ⟨g, hg, h⟩
    apply or_congr_right
    refine and_congr ?_ ?_
    · exact exists_congr fun g => and_congr_right fun hg =>
        Status.base_evaluate_eq_exited_iff (hcalm g hg)
    · exact exists_congr fun g => and_congr_right fun hg =>
        Status.base_evaluate_eq_running_iff (hcalm g hg)

/-- What a rollup sees is there when the containers are looked at together. -/
theorem Noticed.alarming {groups : Groups} (h : groups.Noticed) (hgroups : ∀ g ∈ groups, g.2 ≠ []) :
    Alarming groups.containers := by
  have hsub : ∀ g ∈ groups, g.2 ⊆ groups.containers :=
    fun g hg c hc => List.mem_flatMap.mpr ⟨g, hg, hc⟩
  obtain ⟨g, hg, halarm⟩ | ⟨⟨g, hg, hexited⟩, g', hg', ⟨d, hd, hrunning⟩, -⟩ := h
  · exact halarm.mono (hsub g hg)
  · obtain ⟨c, hc⟩ := List.exists_mem_of_ne_nil g.2 (hgroups g hg)
    exact .inr ⟨⟨c, hsub g hg hc, hexited c hc⟩, .inl ⟨d, hsub g' hg' hd, hrunning⟩⟩

/-! ## Healthy containers -/

theorem evaluate_eq_running_healthy_iff (os : List Observation) :
    Status.evaluate os [] = .running .healthy ↔ os ≠ [] ∧ ∀ c ∈ os, c.token = .healthy := by
  rw [Status.evaluate_nil, Status.ofTokens_eq_running_healthy_iff, List.forall_mem_map, ne_eq,
    List.map_eq_nil_iff]

theorem plain_statuses (groups : Groups) : ∀ p ∈ groups.statuses, p.2.Plain := by
  intro p hp
  obtain ⟨g, -, rfl⟩ := List.mem_map.mp hp
  dsimp only
  rw [Status.evaluate_nil]
  exact Status.ofTokens_plain _ _

/-- A rollup is healthy exactly when the containers are healthy together. -/
theorem rollup_statuses_eq_running_healthy_iff {groups : Groups}
    (hgroups : ∀ g ∈ groups, g.2 ≠ []) :
    Status.rollup groups.statuses [] = .running .healthy ↔
      Status.evaluate groups.containers [] = .running .healthy := by
  rw [Status.rollup_eq_running_healthy_iff fun p hp _ => groups.plain_statuses p hp,
    evaluate_eq_running_healthy_iff]
  constructor
  · rintro ⟨⟨part, hpart, -⟩, hall⟩
    have hhealthy : ∀ g ∈ groups, g.2 ≠ [] ∧ ∀ c ∈ g.2, c.token = .healthy := fun g hg =>
      (evaluate_eq_running_healthy_iff g.2).mp
        (hall _ (List.mem_map_of_mem hg) List.not_mem_nil)
    obtain ⟨g, hg, -⟩ := List.mem_map.mp hpart
    obtain ⟨c, hc⟩ := List.exists_mem_of_ne_nil g.2 (hgroups g hg)
    refine ⟨List.ne_nil_of_mem (List.mem_flatMap.mpr ⟨g, hg, hc⟩), fun d hd => ?_⟩
    obtain ⟨g', hg', hd⟩ := List.mem_flatMap.mp hd
    exact (hhealthy g' hg').2 d hd
  · rintro ⟨hne, hall⟩
    obtain ⟨c, hc⟩ := List.exists_mem_of_ne_nil groups.containers hne
    obtain ⟨g, hg, -⟩ := List.mem_flatMap.mp hc
    refine ⟨⟨_, List.mem_map_of_mem hg, List.not_mem_nil⟩, fun part hpart _ => ?_⟩
    obtain ⟨g', hg', rfl⟩ := List.mem_map.mp hpart
    exact (evaluate_eq_running_healthy_iff g'.2).mpr
      ⟨hgroups g' hg', fun d hd => hall d (List.mem_flatMap.mpr ⟨g', hg', hd⟩)⟩

end Groups

/-! ## Single containers -/

namespace StatusToken

/-- How a token is read again from the status of the one container that it stands for. -/
def reread (t : StatusToken) : StatusToken := ((Status.ofTokens [t] 0).token?).getD t

theorem token?_ofTokens_singleton (t : StatusToken) :
    (Status.ofTokens [t] 0).token? = some t.reread := by
  cases t with
  | degraded => rfl
  | container state health => cases state <;> rcases health with _ | _ | _ | _ <;> rfl

theorem reread_isBroken (t : StatusToken) : t.reread.isBroken = t.isBroken := by
  cases t with
  | degraded => rfl
  | container state health => cases state <;> rcases health with _ | _ | _ | _ <;> rfl

theorem reread_inPhase {phases : List Lifecycle}
    (hphases : phases ∈ [[.exited], [.running], [.created, .starting], [.paused]])
    (t : StatusToken) : t.reread.inPhase phases = t.inPhase phases := by
  simp only [List.mem_cons, List.not_mem_nil, or_false] at hphases
  cases t with
  | degraded => rfl
  | container state health =>
      obtain rfl | rfl | rfl | rfl := hphases <;> cases state <;>
        rcases health with _ | _ | _ | _ <;> rfl

theorem reread_runningWith {healths : List (Option Health)}
    (hhealths : healths ∈ [[some .unhealthy], [some .starting, none]]) (t : StatusToken) :
    t.reread.runningWith healths = t.runningWith healths := by
  simp only [List.mem_cons, List.not_mem_nil, or_false] at hhealths
  cases t with
  | degraded => rfl
  | container state health =>
      obtain rfl | rfl := hhealths <;> cases state <;> rcases health with _ | _ | _ | _ <;> rfl

end StatusToken

namespace Status

/-- The decision table does not tell a token from what is read again of it. -/
theorem ofTokens_map_reread (ts : List StatusToken) :
    ofTokens (ts.map StatusToken.reread) 0 = ofTokens ts 0 := by
  rw [ofTokens_eq_ite, ofTokens_eq_ite]
  refine if_congr ?_ rfl ?_
  · simp (disch := decide) only [Degrading, List.mem_map, exists_exists_and_eq_and,
      StatusToken.reread_isBroken, StatusToken.reread_inPhase]
  · simp (disch := decide) only [settled, runningHealth, List.any_map, Function.comp_def,
      StatusToken.reread_inPhase, StatusToken.reread_runningWith]

end Status

/-- The container is not known to have been restarted. -/
def Observation.NeverRestarted (c : Observation) : Prop :=
  c.restartCount = none ∨ c.restartCount = some 0

theorem maxRestarts_eq_zero {os : List Observation} (h : ∀ c ∈ os, c.NeverRestarted) :
    maxRestarts os = 0 := by
  apply Nat.eq_zero_of_not_pos
  rw [maxRestarts_pos_iff]
  rintro ⟨c, hc, hrestarted⟩
  obtain hnone | hzero := h c hc
  · simp [Sighting.isRestarted, hnone] at hrestarted
  · simp [Sighting.isRestarted, hzero] at hrestarted

namespace Groups

theorem tokens_statuses_of_single {groups : Groups} (hsingle : ∀ g ∈ groups, g.2.length = 1)
    (hcounts : ∀ c ∈ groups.containers, c.NeverRestarted) :
    groups.statuses.filterMap (fun p => p.2.token?) =
      (groups.containers.map Observation.token).map StatusToken.reread := by
  induction groups with
  | nil => rfl
  | cons g rest ih =>
      obtain ⟨name, os⟩ := g
      -- The group is one container, and its status has the token of that container.
      obtain ⟨c, rfl⟩ := List.length_eq_one_iff.mp (hsingle (name, os) List.mem_cons_self)
      have hrest := ih (fun g hg => hsingle g (List.mem_cons_of_mem _ hg))
        fun d hd => hcounts d (List.mem_cons_of_mem _ hd)
      have htoken : (Status.evaluate [c] []).token? = some c.token.reread := by
        rw [Status.evaluate_nil, maxRestarts_eq_zero
          (List.forall_mem_singleton.mpr (hcounts c List.mem_cons_self))]
        exact c.token.token?_ofTokens_singleton
      change ((name, Status.evaluate [c] []) :: statuses rest).filterMap _ = _
      simp only [List.filterMap_cons, htoken, hrest]
      rfl

/-- Single containers that were never restarted are rolled up as they are evaluated together. -/
theorem rollup_statuses_of_single {groups : Groups} (hsingle : ∀ g ∈ groups, g.2.length = 1)
    (hcounts : ∀ c ∈ groups.containers, c.NeverRestarted) :
    Status.rollup groups.statuses [] = Status.evaluate groups.containers [] := by
  rw [Status.rollup_nil, tokens_statuses_of_single hsingle hcounts, Status.ofTokens_map_reread,
    Status.evaluate_nil, maxRestarts_eq_zero hcounts]
  rfl

/-! ## What a rollup keeps -/

/-- With a container in each group, a rollup of the groups is `running:healthy` exactly when all
containers together are, and it is degraded only where they are. Groups of one container each, none
of which was ever restarted, are rolled up to the status of all containers together. -/
theorem rollup_sound {groups : Groups} (hgroups : ∀ g ∈ groups, g.2 ≠ []) :
    let whole := Status.evaluate groups.containers []
    (Status.rollup groups.statuses [] = .running .healthy ↔ whole = .running .healthy) ∧
      (Status.rollup groups.statuses [] = .degraded → whole = .degraded) ∧
      ((∀ g ∈ groups, g.2.length = 1) → (∀ c ∈ groups.containers, c.NeverRestarted) →
        Status.rollup groups.statuses [] = whole) := by
  refine ⟨rollup_statuses_eq_running_healthy_iff hgroups, fun h => ?_, rollup_statuses_of_single⟩
  have hnoticed := (rollup_statuses_eq_degraded_iff groups).mp h
  exact (Status.evaluate_eq_degraded_iff _).mpr (hnoticed.alarming hgroups)

/-- A container of the shop in some state, never restarted. -/
def shopMember (state : Lifecycle) : Observation :=
  { Fleet.shopContainer with state, health := none, restartCount := some 0 }

/-- The shop runs on its first server and has exited on the second one. -/
theorem rollup_sound_shop :
    let groups : Groups :=
      [("edge-1", [Fleet.shopContainer]), ("edge-2", [shopMember .exited])]
    (∀ g ∈ groups, g.2 ≠ []) ∧
      Status.rollup groups.statuses [] = Status.evaluate groups.containers [] ∧
      Status.evaluate groups.containers [] = .degraded := by
  intro groups
  have hgroups : ∀ g ∈ groups, g.2 ≠ [] := by decide
  obtain ⟨-, hdegraded, hsingle⟩ := rollup_sound hgroups
  refine ⟨hgroups, hsingle (by decide) ?_, hdegraded (by decide +kernel)⟩
  exact List.forall_mem_cons.mpr ⟨.inl rfl, List.forall_mem_singleton.mpr (.inr rfl)⟩

/-- With a container in each group, a rollup of the groups is degraded exactly when all containers
together are degraded and one of these holds: a group is degraded by itself, or some group has
exited as a whole and another one runs with nothing in it that is yet to start. -/
theorem rollup_degraded_iff {groups : Groups} (hgroups : ∀ g ∈ groups, g.2 ≠ []) :
    Status.rollup groups.statuses [] = .degraded ↔
      Status.evaluate groups.containers [] = .degraded ∧ groups.Noticed := by
  rw [rollup_statuses_eq_degraded_iff, Status.evaluate_eq_degraded_iff]
  exact ⟨fun h => ⟨h.alarming hgroups, h⟩, And.right⟩

/-- What has exited on the first server is not seen behind what is paused there, but on the third
server it is. -/
theorem rollup_degraded_iff_shop :
    let groups : Groups :=
      [("edge-1", [shopMember .paused, shopMember .exited]), ("edge-2", [shopMember .running]),
        ("edge-3", [shopMember .exited])]
    (∀ g ∈ groups, g.2 ≠ []) ∧ Status.evaluate groups.containers [] = .degraded ∧
      Status.rollup groups.statuses [] = .degraded := by
  intro groups
  have hgroups : ∀ g ∈ groups, g.2 ≠ [] := by decide
  have hwhole : Status.evaluate groups.containers [] = .degraded := by decide
  have hnoticed : groups.Noticed :=
    .inr ⟨⟨_, .tail _ (.tail _ (.head _)), by decide⟩, _, .tail _ (.head _), by decide⟩
  exact ⟨hgroups, hwhole, (rollup_degraded_iff hgroups).mpr ⟨hwhole, hnoticed⟩⟩

/-- One container of the shop runs and another one has exited, which is degraded. With the one that
has exited beside a paused one on a server of their own, the shop is shown as running. -/
theorem rollup_misses_exited_shop :
    let groups : Groups :=
      [("edge-1", [shopMember .paused, shopMember .exited]), ("edge-2", [shopMember .running])]
    groups ≠ [] ∧ (∀ g ∈ groups, g.2 ≠ []) ∧
      Status.evaluate groups.containers [] = .degraded ∧
      Status.rollup groups.statuses [] = .running .unknown := by
  decide +kernel

end Groups

end FleetWatch
