import FleetWatch.Proofs.Noninterference
import Mathlib.Order.MinMax

/-! # Containers with an unrecognized status

An agent may report a container whose status is not recognized. Such a container has no token, but
it has a name, and it may have been restarted. A resource is evaluated as if the container were not
there in exactly the following cases: what it is reported with decides without it; or it is not the
only one of its kind, excluded or not, and its restarts make no difference; or what is left without
it has exited anyway. A container that goes by the name of another one of the same resource changes
no stored status, unless it was restarted and the other one was not.
-/

namespace FleetWatch

/-- The container is known to have been restarted. -/
def Sighting.isRestarted (s : Sighting) : Bool := decide (0 < s.restartCount.getD 0)

namespace Status

/-! ## Restarts -/

theorem foldl_max_pos_iff (counts : List Nat) (first : Nat) :
    0 < counts.foldl max first ↔ 0 < first ∨ ∃ n ∈ counts, 0 < n := by
  induction counts generalizing first with
  | nil => simp
  | cons n rest ih =>
      rw [List.foldl_cons, ih, lt_max_iff, List.exists_mem_cons_iff, or_assoc]

theorem maxCount_pos_iff (seen : List Sighting) :
    0 < maxCount (seen.map Sighting.restartCount) ↔ ∃ s ∈ seen, s.isRestarted = true := by
  rw [maxCount, foldl_max_pos_iff]
  simp only [lt_irrefl, false_or, List.mem_filterMap, List.mem_map, Sighting.isRestarted,
    decide_eq_true_eq]
  constructor
  · rintro ⟨n, ⟨_, ⟨s, hs, rfl⟩, hn⟩, hpos⟩
    refine ⟨s, hs, ?_⟩
    rw [show s.restartCount = some n from hn]
    exact hpos
  · rintro ⟨s, hs, hpos⟩
    cases hcount : s.restartCount with
    | none => simp [hcount] at hpos
    | some n => exact ⟨n, ⟨_, ⟨s, hs, rfl⟩, hcount⟩, by simpa [hcount] using hpos⟩

/-- Restarts count for containers that have exited, and only if nothing is degraded without. -/
theorem ofTokens_eq_of_restarts_iff (ts : List StatusToken) {m : Int} (hm : 0 < m) (n : Int) :
    ofTokens ts m = ofTokens ts n ↔
      ts.any (·.inPhase [.exited]) = false ∨ ofTokens ts n = degraded := by
  cases hexited : ts.any (·.inPhase [.exited]) with
  | false => simp [ofTokens_eq, Tally.status, Tally.ofAny, hexited]
  | true =>
      have hdegraded : ofTokens ts m = degraded := by
        simp [ofTokens_eq, Tally.status, Tally.ofAny, hexited, hm]
      rw [hdegraded]
      simp [eq_comm]

/-- A restart of another container makes no difference for these: one of them was restarted itself,
or none has exited, or they are degraded without. -/
def Unmoved (seen : List Sighting) : Prop :=
  (∃ s ∈ seen, s.isRestarted = true) ∨
    (∀ s ∈ seen, ∀ health, s.token ≠ some (.container .exited health)) ∨
    ofSightings seen = degraded

theorem any_exited_eq_false_iff (seen : List Sighting) :
    (seen.filterMap Sighting.token).any (·.inPhase [.exited]) = false ↔
      ∀ s ∈ seen, ∀ health, s.token ≠ some (.container .exited health) := by
  simp only [List.any_eq_false, List.mem_filterMap]
  constructor
  · intro h s hs health htoken
    exact h _ ⟨s, hs, htoken⟩ rfl
  · rintro h t ⟨s, hs, htoken⟩
    cases t with
    | degraded => exact Bool.false_ne_true
    | container state health =>
        cases state
        case exited => exact absurd htoken (h s hs health)
        all_goals exact Bool.false_ne_true

/-- The outcome of the decision table behind the status of excluded containers. -/
def untagged (s : Status) : Status :=
  match s.base with
  | .degraded => degraded
  | .starting => starting
  | .paused => paused
  | .running => { s with excluded := false }
  | .exited | .unknown => s

theorem untagged_forExcluded_ofTokens (ts : List StatusToken) (maxRestarts : Int) :
    (ofTokens ts maxRestarts).forExcluded.untagged = ofTokens ts maxRestarts := by
  obtain h | h | h | h | ⟨q, h⟩ := ofTokens_cases ts maxRestarts <;> rw [h] <;> rfl

theorem forExcluded_ofTokens_inj {ts us : List StatusToken} {m n : Int} :
    (ofTokens ts m).forExcluded = (ofTokens us n).forExcluded ↔ ofTokens ts m = ofTokens us n := by
  refine ⟨fun h => ?_, congrArg forExcluded⟩
  rw [← untagged_forExcluded_ofTokens ts m, h, untagged_forExcluded_ofTokens]

section Insert

variable {e : Sighting} (he : e.token = none) (seen : List Sighting)
include he

/-- Without a token, nothing but a restart is seen of a container. -/
theorem ofSightings_cons_eq_iff :
    ofSightings (e :: seen) = ofSightings seen ↔ e.isRestarted = false ∨ Unmoved seen := by
  have hpos := maxCount_pos_iff (e :: seen)
  have hpos' := maxCount_pos_iff seen
  rw [List.exists_mem_cons_iff] at hpos
  rw [Unmoved, ofSightings, ofSightings, List.filterMap_cons_none he]
  by_cases hsame : e.isRestarted = true → ∃ s ∈ seen, s.isRestarted = true
  · -- The restarts are there without it.
    refine iff_of_true (ofTokens_congr_restarts _ ?_) ?_
    · rw [Int.natCast_pos, Int.natCast_pos, hpos, hpos', or_iff_right_of_imp hsame]
    · cases hrestarted : e.isRestarted with
      | false => exact .inl rfl
      | true => exact .inr (.inl (hsame hrestarted))
  · obtain ⟨hrestarted, hnone⟩ := Classical.not_imp.mp hsame
    have hm : (0 : Int) < maxCount ((e :: seen).map Sighting.restartCount) :=
      Int.natCast_pos.mpr (hpos.mpr (.inl hrestarted))
    rw [ofTokens_eq_of_restarts_iff _ hm, any_exited_eq_false_iff]
    simp [hrestarted, hnone]

theorem ofExcludedSightings_cons_eq_iff :
    ofExcludedSightings (e :: seen) = ofExcludedSightings seen ↔
      e.isRestarted = false ∨ Unmoved seen := by
  rw [← ofSightings_cons_eq_iff he, ofExcludedSightings, ofExcludedSightings, ofSightings,
    ofSightings, List.filterMap_cons_none he]
  cases htokens : seen.filterMap Sighting.token with
  | nil =>
      -- Where nothing is known, restarts are not looked at.
      exact iff_of_true rfl rfl
  | cons t rest => exact forExcluded_ofTokens_inj

end Insert

/-- A container without a token makes no difference beside the containers that were seen. -/
inductive Overlooked (seen : List Sighting) (excluded : List String) (e : Sighting) : Prop
  /-- It is excluded, and containers that count decide. -/
  | outvoted (he : e.name ∈ excluded) (hcounted : ∃ s ∈ seen, s.name ∉ excluded)
  /-- It is excluded as the others are, and its restarts make no difference for them. -/
  | excluded (he : e.name ∈ excluded) (hsome : seen ≠ []) (hall : ∀ s ∈ seen, s.name ∈ excluded)
      (hrestarts : e.isRestarted = false ∨ Unmoved seen)
  /-- It counts as others do, and its restarts make no difference for them. -/
  | counted (he : e.name ∉ excluded) (hsome : ∃ s ∈ seen, s.name ∉ excluded)
      (hrestarts : e.isRestarted = false ∨
        Unmoved (seen.filter fun s => !excluded.contains s.name))
  /-- It is the only one that counts, and the others have exited. -/
  | alone (he : e.name ∉ excluded) (hall : ∀ s ∈ seen, s.name ∈ excluded)
      (hexited : evaluateSightings seen excluded = exited)

theorem evaluateSightings_cons_of_not_mem {seen : List Sighting} {excluded : List String}
    {e : Sighting} (hname : e.name ∉ excluded) :
    evaluateSightings (e :: seen) excluded =
      ofSightings (e :: seen.filter fun s => !excluded.contains s.name) := by
  rw [evaluateSightings_of_counted ⟨e, List.mem_cons_self, hname⟩,
    List.filter_cons_of_pos (by simpa using hname)]

section Overlooked

variable {seen : List Sighting} {excluded : List String} {e : Sighting} (he : e.token = none)
include he

theorem ofSightings_singleton : ofSightings [e] = exited := by
  rw [ofSightings, List.filterMap_cons_none he]
  rfl

theorem Overlooked.evaluateSightings_eq (h : Overlooked seen excluded e) :
    evaluateSightings (e :: seen) excluded = evaluateSightings seen excluded := by
  cases h with
  | outvoted hname hcounted =>
      obtain ⟨s, hs, hcounts⟩ := hcounted
      rw [evaluateSightings_of_counted ⟨s, List.mem_cons_of_mem e hs, hcounts⟩,
        evaluateSightings_of_counted ⟨s, hs, hcounts⟩,
        List.filter_cons_of_neg (by simpa using hname)]
  | excluded hname hsome hall hrestarts =>
      rw [evaluateSightings_of_excluded (List.cons_ne_nil e seen)
          (List.forall_mem_cons.mpr ⟨hname, hall⟩),
        evaluateSightings_of_excluded hsome hall]
      exact (ofExcludedSightings_cons_eq_iff he seen).mpr hrestarts
  | counted hname hsome hrestarts =>
      rw [evaluateSightings_cons_of_not_mem hname, evaluateSightings_of_counted hsome]
      exact (ofSightings_cons_eq_iff he _).mpr hrestarts
  | alone hname hall hexited =>
      rw [evaluateSightings_cons_of_not_mem hname, counted_eq_nil_iff.mpr hall,
        ofSightings_singleton he, hexited]

theorem Overlooked.of_evaluateSightings_eq
    (h : evaluateSightings (e :: seen) excluded = evaluateSightings seen excluded) :
    Overlooked seen excluded e := by
  by_cases hname : e.name ∈ excluded <;> by_cases hall : ∀ s ∈ seen, s.name ∈ excluded
  · rw [evaluateSightings_of_excluded (List.cons_ne_nil e seen)
      (List.forall_mem_cons.mpr ⟨hname, hall⟩)] at h
    have hsome : seen ≠ [] := by
      -- The status of an excluded container is tagged, that of no container is not.
      rintro rfl
      rw [ofExcludedSightings, List.filterMap_cons_none he] at h
      exact Bool.noConfusion (congrArg Status.excluded h)
    rw [evaluateSightings_of_excluded hsome hall] at h
    exact .excluded hname hsome hall ((ofExcludedSightings_cons_eq_iff he seen).mp h)
  · exact .outvoted hname (by simpa using hall)
  · rw [evaluateSightings_cons_of_not_mem hname, counted_eq_nil_iff.mpr hall,
      ofSightings_singleton he] at h
    exact .alone hname hall h.symm
  · have hsome : ∃ s ∈ seen, s.name ∉ excluded := by
      simpa using hall
    rw [evaluateSightings_cons_of_not_mem hname, evaluateSightings_of_counted hsome] at h
    exact .counted hname hsome ((ofSightings_cons_eq_iff he _).mp h)

end Overlooked

theorem evaluateReported_insert_eq_iff {status : String}
    (hstatus : StatusToken.parse? status = none) (xs ys : List NamedStatus) (name : String)
    (restartCount : Option Nat) (excluded : List String) :
    evaluateReported (xs ++ ⟨name, status, restartCount⟩ :: ys) excluded =
        evaluateReported (xs ++ ys) excluded ↔
      Overlooked ((xs ++ ys).map NamedStatus.sighting) excluded ⟨name, none, restartCount⟩ := by
  have heval : ∀ ss : List NamedStatus, evaluateReported ss excluded =
      evaluateSightings (ss.map NamedStatus.sighting) excluded :=
    fun ss => (Containers.reported ss).evaluate_eq excluded
  have hseen : NamedStatus.sighting ⟨name, status, restartCount⟩ = ⟨name, none, restartCount⟩ := by
    rw [NamedStatus.sighting, hstatus]
  have hmiddle : ((xs ++ ⟨name, status, restartCount⟩ :: ys).map NamedStatus.sighting).Perm
      (⟨name, none, restartCount⟩ :: (xs ++ ys).map NamedStatus.sighting) := by
    rw [← hseen, ← List.map_cons]
    exact List.perm_middle.map NamedStatus.sighting
  rw [heval, heval, evaluateSightings_perm hmiddle]
  exact ⟨Overlooked.of_evaluateSightings_eq rfl, Overlooked.evaluateSightings_eq rfl⟩

/-! ## The same names, tokens and restarts -/

/-- What is seen of the first containers is seen of the second under the same names. -/
structure Within (ss ts : List Sighting) : Prop where
  name : ∀ s ∈ ss, ∃ t ∈ ts, t.name = s.name
  token : ∀ s ∈ ss, ∀ token, s.token = some token →
    ∃ t ∈ ts, t.name = s.name ∧ t.token = some token
  restarted : ∀ s ∈ ss, s.isRestarted = true → ∃ t ∈ ts, t.name = s.name ∧ t.isRestarted = true

namespace Within

variable {ss ts : List Sighting}

theorem of_subset (h : ss ⊆ ts) : Within ss ts :=
  ⟨fun s hs => ⟨s, h hs, rfl⟩, fun s hs _ htoken => ⟨s, h hs, rfl, htoken⟩,
    fun s hs hrestarted => ⟨s, h hs, rfl, hrestarted⟩⟩

/-- A container without a token is not missed when another one of its name is left, restarted if it
was. -/
theorem of_cons {e d : Sighting} (he : e.token = none) (hd : d ∈ ss) (hname : d.name = e.name)
    (hrestarted : e.isRestarted = true → d.isRestarted = true) : Within (e :: ss) ss := by
  have hrest := of_subset (List.Subset.refl ss)
  refine ⟨?_, ?_, ?_⟩ <;> rw [List.forall_mem_cons]
  · exact ⟨⟨d, hd, hname⟩, hrest.name⟩
  · refine ⟨fun token htoken => ?_, hrest.token⟩
    rw [he] at htoken
    exact absurd htoken (Option.some_ne_none token).symm
  · exact ⟨fun h => ⟨d, hd, hname, hrestarted h⟩, hrest.restarted⟩

theorem mono (h : Within ss ts) {rs : List Sighting} (hsub : rs ⊆ ss) : Within rs ts :=
  ⟨fun s hs => h.name s (hsub hs), fun s hs => h.token s (hsub hs),
    fun s hs => h.restarted s (hsub hs)⟩

theorem filter (h : Within ss ts) (p : String → Bool) :
    Within (ss.filter fun s => p s.name) (ts.filter fun t => p t.name) := by
  refine ⟨fun s hs => ?_, fun s hs token htoken => ?_, fun s hs hrestarted => ?_⟩
  all_goals obtain ⟨hs, hp⟩ := List.mem_filter.mp hs
  · obtain ⟨t, ht, hname⟩ := h.name s hs
    exact ⟨t, List.mem_filter.mpr ⟨ht, hname ▸ hp⟩, hname⟩
  · obtain ⟨t, ht, hname, htoken⟩ := h.token s hs token htoken
    exact ⟨t, List.mem_filter.mpr ⟨ht, hname ▸ hp⟩, hname, htoken⟩
  · obtain ⟨t, ht, hname, hrestarted⟩ := h.restarted s hs hrestarted
    exact ⟨t, List.mem_filter.mpr ⟨ht, hname ▸ hp⟩, hname, hrestarted⟩

theorem mem_tokens (h : Within ss ts) {token : StatusToken}
    (htoken : token ∈ ss.filterMap Sighting.token) : token ∈ ts.filterMap Sighting.token := by
  obtain ⟨s, hs, hs'⟩ := List.mem_filterMap.mp htoken
  obtain ⟨t, ht, -, ht'⟩ := h.token s hs token hs'
  exact List.mem_filterMap.mpr ⟨t, ht, ht'⟩

theorem maxCount_pos (h : Within ss ts) (hpos : 0 < maxCount (ss.map Sighting.restartCount)) :
    0 < maxCount (ts.map Sighting.restartCount) := by
  obtain ⟨s, hs, hrestarted⟩ := (maxCount_pos_iff ss).mp hpos
  obtain ⟨t, ht, -, hrestarted⟩ := h.restarted s hs hrestarted
  exact (maxCount_pos_iff ts).mpr ⟨t, ht, hrestarted⟩

end Within

/-- The same names, tokens and restarts are seen, whatever the number of containers. -/
def Similar (ss ts : List Sighting) : Prop := Within ss ts ∧ Within ts ss

namespace Similar

variable {ss ts : List Sighting}

theorem filter (h : Similar ss ts) (p : String → Bool) :
    Similar (ss.filter fun s => p s.name) (ts.filter fun t => p t.name) :=
  ⟨h.1.filter p, h.2.filter p⟩

theorem eq_nil_iff (h : Similar ss ts) : ss = [] ↔ ts = [] := by
  constructor
  · rintro rfl
    refine List.eq_nil_iff_forall_not_mem.mpr fun t ht => ?_
    obtain ⟨s, hs, -⟩ := h.2.name t ht
    exact List.not_mem_nil hs
  · rintro rfl
    refine List.eq_nil_iff_forall_not_mem.mpr fun s hs => ?_
    obtain ⟨t, ht, -⟩ := h.1.name s hs
    exact List.not_mem_nil ht

theorem ofSightings_eq (h : Similar ss ts) : ofSightings ss = ofSightings ts := by
  have htokens : ∀ t, t ∈ ss.filterMap Sighting.token ↔ t ∈ ts.filterMap Sighting.token :=
    fun t => ⟨h.1.mem_tokens, h.2.mem_tokens⟩
  rw [ofSightings, ofSightings, ofTokens_congr htokens]
  apply ofTokens_congr_restarts
  rw [Int.natCast_pos, Int.natCast_pos]
  exact ⟨h.1.maxCount_pos, h.2.maxCount_pos⟩

theorem ofExcludedSightings_eq (h : Similar ss ts) :
    ofExcludedSightings ss = ofExcludedSightings ts := by
  have htokens : (ss.filterMap Sighting.token).isEmpty = (ts.filterMap Sighting.token).isEmpty := by
    rw [Bool.eq_iff_iff, List.isEmpty_iff, List.isEmpty_iff, List.eq_nil_iff_forall_not_mem,
      List.eq_nil_iff_forall_not_mem]
    exact forall_congr' fun t => not_congr ⟨h.1.mem_tokens, h.2.mem_tokens⟩
  rw [ofExcludedSightings, ofExcludedSightings, htokens, h.ofSightings_eq]

theorem evaluateSightings_eq (h : Similar ss ts) (excluded : List String) :
    evaluateSightings ss excluded = evaluateSightings ts excluded := by
  have hcounted := h.filter fun name => !excluded.contains name
  have hempty : (ss.filter fun s => !excluded.contains s.name).isEmpty =
      (ts.filter fun t => !excluded.contains t.name).isEmpty := by
    rw [Bool.eq_iff_iff, List.isEmpty_iff, List.isEmpty_iff, hcounted.eq_nil_iff]
  have hnone : ss.isEmpty = ts.isEmpty := by
    rw [Bool.eq_iff_iff, List.isEmpty_iff, List.isEmpty_iff, h.eq_nil_iff]
  simp only [evaluateSightings, hempty, hnone, h.ofExcludedSightings_eq, hcounted.ofSightings_eq]

end Similar

end Status

namespace Containers

def Similar (cs ds : Containers) : Prop := Status.Similar cs.sightings ds.sightings

namespace Similar

variable {cs ds : Containers} (h : cs.Similar ds)
include h

theorem evaluate_eq (excluded : List String) : cs.evaluate excluded = ds.evaluate excluded := by
  rw [cs.evaluate_eq, ds.evaluate_eq]
  exact Status.Similar.evaluateSightings_eq h excluded

theorem evaluateExcluded_eq (excluded : List String) :
    cs.evaluateExcluded excluded = ds.evaluateExcluded excluded := by
  rw [cs.evaluateExcluded_eq, ds.evaluateExcluded_eq]
  exact (Status.Similar.filter h fun name => excluded.contains name).ofExcludedSightings_eq

theorem named (name : String) : (cs.named name).Similar (ds.named name) := by
  rw [Similar, sightings_named, sightings_named]
  exact Status.Similar.filter h (· == name)

theorem exists_name_iff (name : String) :
    (∃ c ∈ cs.sightings, c.name = name) ↔ ∃ c ∈ ds.sightings, c.name = name := by
  constructor
  · rintro ⟨c, hc, rfl⟩
    exact h.1.name c hc
  · rintro ⟨c, hc, rfl⟩
    exact h.2.name c hc

end Similar

end Containers

namespace Fleet

/-- Two fleets store statuses under the same keys, and the same ones. -/
structure SameStatuses (f g : Fleet) : Prop where
  deploying : f.deploying = g.deploying
  status : ∀ key, (f.store.get? key).map StatusRecord.status =
    (g.store.get? key).map StatusRecord.status

section Rounds

variable {f g : Fleet}

namespace SameStatuses

theorem refl (f : Fleet) : SameStatuses f f := ⟨rfl, fun _ => rfl⟩

theorem isDeploying (h : SameStatuses f g) (key : ResourceKey) :
    f.isDeploying key = g.isDeploying key :=
  isDeploying_congr h.deploying key

theorem record (h : SameStatuses f g) (key : ResourceKey) {r s : StatusRecord}
    (hstatus : r.status = s.status) : SameStatuses (f.record key r) (g.record key s) := by
  refine ⟨h.deploying, fun k => ?_⟩
  rw [store_record, store_record, Store.get?_insert, Store.get?_insert]
  by_cases hk : k = key
  · rw [if_pos hk, if_pos hk]
    exact congrArg some hstatus
  · rw [if_neg hk, if_neg hk]
    exact h.status k

theorem round (h : SameStatuses f g) {f' g' : Fleet} {key : ResourceKey}
    (hf : Confined key f f') (hg : Confined key g g')
    (hfamily : ∀ k, k.owner = key → (f'.store.get? k).map StatusRecord.status =
      (g'.store.get? k).map StatusRecord.status) : SameStatuses f' g' := by
  refine ⟨(hf.deploying.trans h.deploying).trans hg.deploying.symm, fun k => ?_⟩
  by_cases hk : k.owner = key
  · exact hfamily k hk
  · rw [hf.frame k hk, hg.frame k hk]
    exact h.status k

end SameStatuses

variable {cs ds : Containers} (hsimilar : cs.Similar ds) (around : Surroundings)
  (source : StatusSource)
include hsimilar

theorem SameStatuses.recordApplication (h : SameStatuses f g) (app : Application) :
    SameStatuses (Fleet.recordApplication around cs source f app)
      (Fleet.recordApplication around ds source g app) := by
  have hsame := h.isDeploying (.application app.id)
  cases hdep : g.isDeploying (.application app.id) with
  | true =>
      rw [recordApplication_of_deploying _ _ _ (hsame.trans hdep),
        recordApplication_of_deploying _ _ _ hdep]
      exact h.record _ rfl
  | false =>
      rw [recordApplication_of_not_deploying _ _ _ (hsame.trans hdep),
        recordApplication_of_not_deploying _ _ _ hdep]
      exact h.record _ (hsimilar.evaluate_eq _)

theorem mem_partNames_similar (compose : ComposeFile) (sub : String) :
    sub ∈ partNames compose cs ↔ sub ∈ partNames compose ds := by
  rw [mem_partNames, mem_partNames, hsimilar.exists_name_iff]

theorem partRecord_status_similar (compose : ComposeFile) (now : Nat) (sub : String) :
    (partRecord compose cs source now sub).status =
      (partRecord compose ds source now sub).status := by
  have hnamed := hsimilar.named sub
  simp only [partRecord, hnamed.evaluate_eq, hnamed.evaluateExcluded_eq]

theorem recordService_child_status {service : Service}
    (hf : f.isDeploying (.service service.id) = false)
    (hg : g.isDeploying (.service service.id) = false) {k : ResourceKey}
    (hk : k.isChildOf (.service service.id) = true) :
    ((recordService around cs source f service).store.get? k).map StatusRecord.status =
      ((recordService around ds source g service).store.get? k).map StatusRecord.status := by
  apply Option.ext
  intro status
  simp only [Option.map_eq_some_iff, get?_recordService_child_eq_some_iff around _ source hf hk,
    get?_recordService_child_eq_some_iff around _ source hg hk, mem_partNames_similar hsimilar]
  constructor
  · rintro ⟨_, ⟨sub, hsub, rfl, rfl⟩, rfl⟩
    exact ⟨_, ⟨sub, hsub, rfl, rfl⟩,
      (partRecord_status_similar hsimilar source _ around.now sub).symm⟩
  · rintro ⟨_, ⟨sub, hsub, rfl, rfl⟩, rfl⟩
    exact ⟨_, ⟨sub, hsub, rfl, rfl⟩, partRecord_status_similar hsimilar source _ around.now sub⟩

theorem SameStatuses.recordService (h : SameStatuses f g) (service : Service) :
    SameStatuses (Fleet.recordService around cs source f service)
      (Fleet.recordService around ds source g service) := by
  have hsame := h.isDeploying (.service service.id)
  cases hdep : g.isDeploying (.service service.id) with
  | true =>
      rw [recordService_of_deploying _ _ _ (hsame.trans hdep),
        recordService_of_deploying _ _ _ hdep]
      exact h.record _ rfl
  | false =>
      rw [hdep] at hsame
      have hchild := fun k hk =>
        recordService_child_status hsimilar around source hsame hdep (k := k) hk
      refine h.round (recordService_confined around cs source f service)
        (recordService_confined around ds source g service) fun k hk => ?_
      cases htop : k.isTopLevel with
      | false => exact hchild k (ResourceKey.isChildOf_iff.mpr ⟨htop, hk⟩)
      | true =>
          -- The parts have the same statuses, and the service is rolled up from them.
          obtain rfl := (ResourceKey.isTopLevel_iff.mp htop).symm.trans hk
          rw [get?_recordService_self _ _ _ hsame, get?_recordService_self _ _ _ hdep,
            parts_congr hchild]

end Rounds

/-- Snapshots of which the same names, tokens and restarts are seen leave the same statuses. -/
theorem applySnapshot_sameStatuses (f : Fleet) (around : Surroundings) (server : String)
    {snapshot other : Snapshot} (source : StatusSource)
    (h : ∀ id, (snapshot.containers id).Similar (other.containers id)) :
    SameStatuses (f.applySnapshot around server snapshot source)
      (f.applySnapshot around server other source) := by
  unfold applySnapshot
  refine List.foldl_rel (List.foldl_rel (.refl f) ?_) ?_
  · exact fun app _ _ _ hfg => SameStatuses.recordApplication (h app.id) around source hfg app
  · exact fun service _ _ _ hfg =>
      SameStatuses.recordService (h service.id) around source hfg service

end Fleet

/-! ## Reports -/

/-- A reported container is not the only one of its name and its resource, if it belongs to any, and
if it was restarted then so was another one. -/
def AgentContainer.Accompanied (c : AgentContainer) (others : List AgentContainer) : Prop :=
  ∀ id, c.labels.get? resourceLabel = some id →
    ∃ d ∈ others, d.labels.get? resourceLabel = some id ∧ d.named.name = c.named.name ∧
      (c.named.sighting.isRestarted = true → d.named.sighting.isRestarted = true)

theorem Snapshot.mem_sightings_reported {rs : List AgentContainer} {id : String} {s : Sighting} :
    s ∈ ((reported rs).containers id).sightings ↔
      ∃ c ∈ rs, c.labels.get? resourceLabel = some id ∧ c.named.sighting = s := by
  simp [containers, Containers.sightings, and_assoc]

/-- Under every name of a resource, the others of its name make up for the container. -/
theorem Snapshot.similar_of_accompanied {xs ys : List AgentContainer} {c : AgentContainer}
    (hc : StatusToken.parse? c.status = none) (h : c.Accompanied (xs ++ ys)) (id : String) :
    ((reported (xs ++ c :: ys)).containers id).Similar ((reported (xs ++ ys)).containers id) := by
  have hmem : ∀ d, d ∈ xs ++ c :: ys ↔ d = c ∨ d ∈ xs ++ ys := by
    intro d
    rw [List.perm_middle.mem_iff, List.mem_cons]
  have htoken : c.named.sighting.token = none := by
    rw [NamedStatus.sighting_token]
    exact hc
  constructor
  · by_cases hid : c.labels.get? resourceLabel = some id
    · obtain ⟨d, hd, hlabel, hname, hrestarted⟩ := h id hid
      have hseen := mem_sightings_reported.mpr ⟨d, hd, hlabel, rfl⟩
      refine (Status.Within.of_cons htoken hseen hname hrestarted).mono fun s hs => ?_
      obtain ⟨d', hd', hlabel', rfl⟩ := mem_sightings_reported.mp hs
      rcases (hmem d').mp hd' with rfl | hd'
      · exact List.mem_cons_self
      · exact List.mem_cons_of_mem _ (mem_sightings_reported.mpr ⟨d', hd', hlabel', rfl⟩)
    · -- The container belongs to another resource or to none.
      refine .of_subset fun s hs => ?_
      obtain ⟨d', hd', hlabel', rfl⟩ := mem_sightings_reported.mp hs
      rcases (hmem d').mp hd' with rfl | hd'
      · exact absurd hlabel' hid
      · exact mem_sightings_reported.mpr ⟨d', hd', hlabel', rfl⟩
  · refine .of_subset fun s hs => ?_
    obtain ⟨d, hd, hlabel, rfl⟩ := mem_sightings_reported.mp hs
    exact mem_sightings_reported.mpr ⟨d, (hmem d).mpr (.inr hd), hlabel, rfl⟩

namespace Fleet

/-- A container that is reported with an unrecognized status changes nothing of an evaluation exactly
if it is overlooked there, and it changes no status that its report leaves if it is accompanied. -/
theorem unrecognized_overlooked {status : String} (hstatus : StatusToken.parse? status = none) :
    (∀ (xs ys : List NamedStatus) (name : String) (restartCount : Option Nat)
      (excluded : List String),
        Status.evaluateReported (xs ++ ⟨name, status, restartCount⟩ :: ys) excluded =
            Status.evaluateReported (xs ++ ys) excluded ↔
          Status.Overlooked ((xs ++ ys).map NamedStatus.sighting) excluded
            ⟨name, none, restartCount⟩) ∧
    ∀ (f : Fleet) (around : Surroundings) (server : String) (xs ys : List AgentContainer)
      (c : AgentContainer), c.status = status → c.Accompanied (xs ++ ys) →
        ∀ key, ((f.report around ⟨server, xs ++ c :: ys⟩).1.store.get? key).map
            StatusRecord.status =
          ((f.report around ⟨server, xs ++ ys⟩).1.store.get? key).map StatusRecord.status := by
  constructor
  · exact Status.evaluateReported_insert_eq_iff hstatus
  · rintro f around server xs ys c rfl haccompanied key
    cases hserver : f.settings.server? server with
    | none => simp only [report, hserver]
    | some _ =>
        simp only [report, hserver, store_measure]
        have hsimilar := Snapshot.similar_of_accompanied hstatus haccompanied
        exact (applySnapshot_sameStatuses f around server .agent hsimilar).status key

/-- A container of the service that an agent reports. -/
def mailReport (name status : String) (restartCount : Option Nat) : AgentContainer where
  name
  status
  restartCount
  labels := [(resourceLabel, "mail"), (composeServiceLabel, "smtp")]

/-- Beside a healthy container of the same name, the word `up` goes unnoticed. -/
theorem unrecognized_overlooked_shop :
    let f : Fleet := { settings := shopSettings }
    let healthy : NamedStatus := { name := "smtp", status := "running:healthy" }
    let up : NamedStatus := { name := "smtp", status := "Up 3 minutes" }
    Status.evaluateReported [healthy, up] [] = .running .healthy ∧
      ((f.report noFiles ⟨"edge-1", [mailReport "mail-1" "running:healthy" none,
        mailReport "mail-2" "Up 3 minutes" none]⟩).1.store.get? (.service "mail")).map
          StatusRecord.status = some (.running .healthy) := by
  intro f healthy up
  have hup : StatusToken.parse? "Up 3 minutes" = none := by decide +kernel
  obtain ⟨heval, hreport⟩ := unrecognized_overlooked hup
  constructor
  · have hoverlooked : Status.Overlooked [healthy.sighting] [] ⟨"smtp", none, none⟩ :=
      .counted List.not_mem_nil ⟨_, List.mem_cons_self, List.not_mem_nil⟩ (.inl rfl)
    exact ((heval [healthy] [] "smtp" none []).mpr hoverlooked).trans (by decide +kernel)
  · have haccompanied : (mailReport "mail-2" "Up 3 minutes" none).Accompanied
        [mailReport "mail-1" "running:healthy" none] := by
      intro id hid
      exact ⟨_, List.mem_cons_self, hid, rfl, fun h => absurd h Bool.false_ne_true⟩
    exact (hreport f noFiles "edge-1" [mailReport "mail-1" "running:healthy" none] []
      (mailReport "mail-2" "Up 3 minutes" none) rfl haccompanied (.service "mail")).trans
      (by decide +kernel)

/-- A container without a recognized status is noticed in four ways: by its restarts, as the only
one that counts, as the only one there is, and as a part of its own. -/
theorem unrecognized_noticed_shop :
    let f : Fleet := { settings := shopSettings }
    let up (name : String) (restartCount : Option Nat) : NamedStatus :=
      { name, status := "Up 3 minutes", restartCount }
    let exited : NamedStatus := { name := "web", status := "exited" }
    let backup : NamedStatus := { name := "backup", status := "running:healthy" }
    let mail := mailReport "mail-1" "running:healthy" none
    let sidecar : AgentContainer :=
      { name := "sidecar", status := "Up 3 minutes", labels := [(resourceLabel, "mail")] }
    let mailStatus (containers : List AgentContainer) : Option Status :=
      ((f.report noFiles ⟨"edge-1", containers⟩).1.store.get? (.service "mail")).map
        StatusRecord.status
    StatusToken.parse? "Up 3 minutes" = none ∧
      (Status.evaluateReported [exited] [] = .exited ∧
        Status.evaluateReported [exited, up "web" (some 1)] [] = .degraded) ∧
      (Status.evaluateReported [backup] ["backup"] = (Status.running .healthy).tagged ∧
        Status.evaluateReported [backup, up "web" none] ["backup"] = .exited) ∧
      (Status.evaluateReported [] ["backup"] = .exited ∧
        Status.evaluateReported [up "backup" none] ["backup"] = .unknownExcluded) ∧
      (mailStatus [mail] = some (.running .healthy) ∧
        mailStatus [mail, sidecar] = some .degraded) := by
  decide +kernel

end Fleet

end FleetWatch
