import FleetWatch.Status.Aggregate

/-! # The decision table as a list of rules

What is tallied says of every sort of token whether there is one, so the status of tokens is what
the first rule of a list says that applies to them. It depends on which tokens there are and on
whether there were restarts, and on nothing else.
-/

namespace FleetWatch

namespace StatusToken

/-- A container in one of the given phases. -/
def inPhase (phases : List Lifecycle) : StatusToken → Bool
  | degraded => false
  | container state _ => phases.contains state

/-- A running container whose health is one of those given. -/
def runningWith (healths : List (Option Health)) : StatusToken → Bool
  | container .running health => healths.contains health
  | _ => false

end StatusToken

namespace Tally

/-- The tally of tokens of which `any` tells whether one of them is of a given sort. -/
def ofAny (any : (StatusToken → Bool) → Bool) : Tally where
  degraded := any (· == .degraded)
  restarting := any (·.inPhase [.restarting])
  exited := any (·.inPhase [.exited])
  dead := any (·.inPhase [.dead, .removing])
  paused := any (·.inPhase [.paused])
  starting := any (·.inPhase [.created, .starting])
  running := any (·.inPhase [.running])
  unhealthy := any (·.runningWith [some .unhealthy])
  unknownHealth := any (·.runningWith [some .starting, none])

/-- A token that is recorded is one more token that may be of the sort. -/
theorem record_ofAny (any : (StatusToken → Bool) → Bool) (t : StatusToken) :
    (ofAny any).record t = ofAny fun p => any p || p t := by
  cases t with
  | degraded => simp [record, ofAny, StatusToken.inPhase, StatusToken.runningWith]
  | container state health =>
      cases state with
      | running =>
          rcases health with _ | _ | _ | _ <;>
            simp [record, ofAny, StatusToken.inPhase, StatusToken.runningWith]
      | _ => simp [record, ofAny, StatusToken.inPhase, StatusToken.runningWith]

theorem foldl_record_ofAny (any : (StatusToken → Bool) → Bool) (ts : List StatusToken) :
    ts.foldl record (ofAny any) = ofAny fun p => any p || ts.any p := by
  induction ts generalizing any with
  | nil => simp
  | cons t rest ih => simp only [List.foldl_cons, record_ofAny, ih, List.any_cons, Bool.or_assoc]

theorem ofTokens_eq_ofAny (ts : List StatusToken) : ofTokens ts = ofAny ts.any := by
  have hstart : ({} : Tally) = ofAny fun _ => false := rfl
  rw [ofTokens, hstart, foldl_record_ofAny]
  simp

/-- Whether restarts count does not depend on how far below zero their number is. -/
theorem status_clampRestarts (t : Tally) (maxRestarts : Int) :
    t.status (Status.clampRestarts maxRestarts) = t.status maxRestarts := by
  have hpos : 0 < Status.clampRestarts maxRestarts ↔ 0 < maxRestarts := by
    unfold Status.clampRestarts
    split <;> omega
  simp only [status, hpos]

end Tally

namespace Status

/-- The decision table looks at which sorts of tokens there are. -/
theorem ofTokens_eq (ts : List StatusToken) (maxRestarts : Int) :
    ofTokens ts maxRestarts = (Tally.ofAny ts.any).status maxRestarts := by
  rw [ofTokens, Tally.status_clampRestarts, Tally.ofTokens_eq_ofAny]

/-! ## Rules -/

/-- The health of running containers taken together. A check that has not passed yet is not a
pass, and a paused container beside them does not count as healthy. -/
def runningHealth (tokens : List StatusToken) : Qualifier :=
  if tokens.any (·.runningWith [some .unhealthy]) then .unhealthy
  else if tokens.any (·.runningWith [some .starting, none]) || tokens.any (·.inPhase [.paused])
  then .unknown
  else .healthy

/-- A rule of the decision table. -/
structure Rule where
  /-- The rule applies to containers with these tokens and this restart count. -/
  applies : List StatusToken → Int → Bool
  /-- The status of containers that it applies to. -/
  status : List StatusToken → Status

/-- The decision table. -/
def rules : List Rule := [
  ⟨fun ts _ => ts.any (· == .degraded) || ts.any (·.inPhase [.restarting]), fun _ => degraded⟩,
  ⟨fun ts restarts => ts.any (·.inPhase [.exited]) && decide (0 < restarts), fun _ => degraded⟩,
  ⟨fun ts _ => ts.any (·.inPhase [.dead, .removing]), fun _ => degraded⟩,
  ⟨fun ts _ => ts.any (·.inPhase [.running]) && ts.any (·.inPhase [.exited]), fun _ => degraded⟩,
  ⟨fun ts _ => ts.any (·.inPhase [.running]) && ts.any (·.inPhase [.created, .starting]),
    fun _ => starting⟩,
  ⟨fun ts _ => ts.any (·.inPhase [.paused]) && !ts.any (·.inPhase [.running]), fun _ => paused⟩,
  ⟨fun ts _ => ts.any (·.inPhase [.created, .starting]), fun _ => starting⟩,
  ⟨fun ts _ => ts.any (·.inPhase [.running]), fun ts => running (runningHealth ts)⟩]

/-- What the first rule says that applies. Containers that no rule applies to have exited. -/
def byFirst (table : List Rule) (ts : List StatusToken) (restarts : Int) : Status :=
  match table.find? (·.applies ts restarts) with
  | some rule => rule.status ts
  | none => exited

@[simp] theorem byFirst_nil (ts : List StatusToken) (restarts : Int) :
    byFirst [] ts restarts = exited := rfl

theorem byFirst_cons (rule : Rule) (rest : List Rule) (ts : List StatusToken) (restarts : Int) :
    byFirst (rule :: rest) ts restarts =
      if rule.applies ts restarts then rule.status ts else byFirst rest ts restarts := by
  cases happlies : rule.applies ts restarts <;> simp [byFirst, happlies]

theorem ofTokens_eq_byFirst (ts : List StatusToken) (restarts : Int) :
    ofTokens ts restarts = byFirst rules ts restarts := by
  simp only [rules, byFirst_cons]
  exact ofTokens_eq ts restarts

/-! ## What matters -/

/-- The decision table looks at which tokens there are. -/
theorem ofTokens_congr {ts us : List StatusToken} (h : ∀ t, t ∈ ts ↔ t ∈ us)
    (maxRestarts : Int) : ofTokens ts maxRestarts = ofTokens us maxRestarts := by
  have hany : ts.any = us.any := by
    funext p
    rw [Bool.eq_iff_iff, List.any_eq_true, List.any_eq_true]
    exact exists_congr fun t => and_congr_left fun _ => h t
  rw [ofTokens_eq, ofTokens_eq, hany]

theorem ofTokens_congr_restarts (ts : List StatusToken) {m n : Int} (h : 0 < m ↔ 0 < n) :
    ofTokens ts m = ofTokens ts n := by
  simp only [ofTokens_eq, Tally.status, h]

/-- The status of containers is what the first applicable rule says, whether they are observed or
given by status texts. Their order, their number and their names make no difference, and of restarts
only whether there were any. -/
theorem decided_by_first_rule :
    (∀ (os : List Observation) (restarts : Int),
      ofObservations os restarts = byFirst rules (os.map Observation.token) restarts) ∧
    (∀ (texts : List String) (restarts : Int),
      ofTexts texts restarts = byFirst rules (texts.filterMap StatusToken.parse?) restarts) ∧
    (∀ (os os' : List Observation) (m n : Int),
      (∀ t, t ∈ os.map Observation.token ↔ t ∈ os'.map Observation.token) → (0 < m ↔ 0 < n) →
        ofObservations os m = ofObservations os' n) ∧
    ∀ (texts texts' : List String) (m n : Int),
      (∀ t, t ∈ texts.filterMap StatusToken.parse? ↔ t ∈ texts'.filterMap StatusToken.parse?) →
        (0 < m ↔ 0 < n) → ofTexts texts m = ofTexts texts' n := by
  have hsame : ∀ (ts us : List StatusToken) (m n : Int), (∀ t, t ∈ ts ↔ t ∈ us) →
      (0 < m ↔ 0 < n) → ofTokens ts m = ofTokens us n := by
    intro ts us m n htokens hrestarts
    rw [ofTokens_congr htokens, ofTokens_congr_restarts us hrestarts]
  refine ⟨?_, ?_, ?_, ?_⟩
  · intro os restarts
    exact ofTokens_eq_byFirst _ restarts
  · intro texts restarts
    exact ofTokens_eq_byFirst _ restarts
  · intro os os' m n
    exact hsame _ _ m n
  · intro texts texts' m n
    exact hsame _ _ m n

/-- A paused container keeps the running one beside it from being healthy, in whatever order they
are listed. A text without a token is left out, and a job that has exited counts only once it was
restarted. -/
theorem decided_by_first_rule_shop :
    let shop : Observation := { name := "shop-1", state := .running, health := some .healthy }
    let job : Observation := { name := "job-1", state := .paused }
    ofObservations [shop, job] 0 = running .unknown ∧
      ofObservations [job, shop, { job with name := "job-2" }] (-3) = running .unknown ∧
      ofTexts ["exited", "Up 3 minutes"] (-3) = exited ∧
      ofTexts ["Up 3 minutes", "Exited (0)", "exited"] 2 = degraded := by
  intro shop job
  obtain ⟨hobserved, htexts, horder, hspelling⟩ := decided_by_first_rule
  have hpaused : ofObservations [shop, job] 0 = running .unknown := by
    rw [hobserved]
    decide
  refine ⟨hpaused, ?_, ?_, ?_⟩
  · rw [← hpaused]
    exact horder _ _ _ _ (by simp [Observation.token, shop, job, or_comm]) (by decide)
  · rw [htexts]
    decide +kernel
  · have hexited : ofTexts ["exited", "Up 3 minutes"] 1 = degraded := by
      rw [htexts]
      decide +kernel
    rw [← hexited]
    refine hspelling _ _ _ _ ?_ (by decide)
    have htokens : ["Up 3 minutes", "Exited (0)", "exited"].filterMap StatusToken.parse? =
        [.container .exited none, .container .exited none] := by decide +kernel
    have htokens' : ["exited", "Up 3 minutes"].filterMap StatusToken.parse? =
        [.container .exited none] := by decide +kernel
    rw [htokens, htokens']
    simp

end Status

end FleetWatch
