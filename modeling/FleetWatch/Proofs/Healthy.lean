import FleetWatch.Proofs.Rollup
import Mathlib.Tactic.SplitIfs

/-! # What is healthy

A status is `running:healthy` exactly when there is something that counts and all that counts is
running and healthy. This holds of the containers of one resource, and it holds of a rollup with the
parts in place of the containers, so nothing gets lost between the two levels.
-/

namespace FleetWatch

namespace StatusToken

/-- A running container whose health check passes. -/
def healthy : StatusToken := .container .running (some .healthy)

/-- A container that is in no other phase is running. -/
theorem eq_running_of_not_inPhase {state : Lifecycle} {health : Option Health}
    (hrestarting : (container state health).inPhase [.restarting] = false)
    (hdead : (container state health).inPhase [.dead, .removing] = false)
    (hexited : (container state health).inPhase [.exited] = false)
    (hbooting : (container state health).inPhase [.created, .starting] = false)
    (hpaused : (container state health).inPhase [.paused] = false) : state = .running := by
  cases state with
  | running => rfl
  | restarting => cases hrestarting
  | exited => cases hexited
  | dead | removing => cases hdead
  | paused => cases hpaused
  | created | starting => cases hbooting

end StatusToken

namespace Status

/-! ## Containers -/

/-- A rule with another result did not apply. -/
theorem not_of_ite_eq {α : Type} {c : Prop} [Decidable c] {a b r : α}
    (h : (if c then a else b) = r) (ha : a ≠ r) : ¬ c ∧ b = r := by
  by_cases hc : c
  · rw [if_pos hc] at h
    exact absurd h ha
  · rw [if_neg hc] at h
    exact ⟨hc, h⟩

/-- Whatever else a token says makes some other rule apply, or the health worse. -/
theorem eq_healthy_of_ofTokens {ts : List StatusToken} {maxRestarts : Int}
    (h : ofTokens ts maxRestarts = running .healthy) : ts ≠ [] ∧ ∀ t ∈ ts, t = .healthy := by
  rw [ofTokens_eq_byFirst] at h
  simp only [rules, byFirst_cons, byFirst_nil, runningHealth] at h
  obtain ⟨hbroken, h⟩ := not_of_ite_eq h (by decide)
  obtain ⟨-, h⟩ := not_of_ite_eq h (by decide)
  obtain ⟨hdead, h⟩ := not_of_ite_eq h (by decide)
  obtain ⟨hmixed, h⟩ := not_of_ite_eq h (by decide)
  obtain ⟨hbooting, h⟩ := not_of_ite_eq h (by decide)
  obtain ⟨-, h⟩ := not_of_ite_eq h (by decide)
  obtain ⟨-, h⟩ := not_of_ite_eq h (by decide)
  by_cases hrunning : ts.any (·.inPhase [.running]) = true
  · rw [if_pos hrunning] at h
    obtain ⟨hsick, h⟩ := not_of_ite_eq (Option.some.inj (congrArg qualifier h)) (by decide)
    obtain ⟨hunsure, -⟩ := not_of_ite_eq h (by decide)
    refine ⟨?_, fun t ht => ?_⟩
    · rintro rfl
      cases hrunning
    -- Something is running, so no token is in a phase that an earlier rule speaks of.
    simp only [hrunning, Bool.or_eq_true, Bool.true_and, not_or, Bool.not_eq_true,
      List.any_eq_false] at hbroken hdead hmixed hbooting hsick hunsure
    cases t with
    | degraded => exact absurd (hbroken.1 _ ht) (by decide)
    | container state health =>
        obtain rfl := StatusToken.eq_running_of_not_inPhase (hbroken.2 _ ht) (hdead _ ht)
          (hmixed _ ht) (hbooting _ ht) (hunsure.2 _ ht)
        rcases health with _ | _ | _ | _
        · cases hunsure.1 _ ht
        · rfl
        · cases hsick _ ht
        · cases hunsure.1 _ ht
  · rw [if_neg hrunning] at h
    exact absurd h (by decide)

theorem ofTokens_of_healthy {ts : List StatusToken} (hne : ts ≠ []) (hall : ∀ t ∈ ts, t = .healthy)
    (maxRestarts : Int) : ofTokens ts maxRestarts = running .healthy := by
  have hany : ∀ p : StatusToken → Bool, ts.any p = p .healthy := by
    intro p
    obtain ⟨t, ht⟩ := List.exists_mem_of_ne_nil ts hne
    rw [Bool.eq_iff_iff, List.any_eq_true]
    constructor
    · rintro ⟨u, hu, hp⟩
      rwa [hall u hu] at hp
    · intro hp
      refine ⟨t, ht, ?_⟩
      rwa [hall t ht]
  rw [ofTokens_eq_byFirst]
  simp only [rules, byFirst_cons, byFirst_nil, runningHealth, hany]
  rfl

theorem ofTokens_eq_running_healthy_iff (ts : List StatusToken) (maxRestarts : Int) :
    ofTokens ts maxRestarts = running .healthy ↔ ts ≠ [] ∧ ∀ t ∈ ts, t = .healthy :=
  ⟨eq_healthy_of_ofTokens, fun h => ofTokens_of_healthy h.1 h.2 maxRestarts⟩

theorem forExcluded_ne_running (s : Status) (q : Qualifier) : s.forExcluded ≠ running q := by
  obtain ⟨base, qualifier, excluded⟩ := s
  cases base <;> cases excluded <;>
    simp [forExcluded, running, tagged, unknownExcluded]

theorem ofExcludedSightings_ne_running (seen : List Sighting) (q : Qualifier) :
    ofExcludedSightings seen ≠ running q := by
  unfold ofExcludedSightings
  split
  · exact fun h => nomatch congrArg Status.excluded h
  · exact forExcluded_ne_running _ q

/-- With a token for each container that counts, containers are healthy together when one counts and
each that counts is running and healthy. -/
theorem evaluateSightings_eq_running_healthy_iff {seen : List Sighting} {excluded : List String}
    (hknown : ∀ s ∈ seen, s.name ∉ excluded → s.token.isSome) :
    evaluateSightings seen excluded = running .healthy ↔
      (∃ s ∈ seen, s.name ∉ excluded) ∧
        ∀ s ∈ seen, s.name ∉ excluded → s.token = some .healthy := by
  have hmem : ∀ s, s ∈ seen.filter (fun s => !excluded.contains s.name) ↔
      s ∈ seen ∧ s.name ∉ excluded := by
    intro s
    simp [List.mem_filter]
  unfold evaluateSightings
  cases hcounted : seen.filter fun s => !excluded.contains s.name with
  | nil =>
      have hnone : ¬ ∃ s ∈ seen, s.name ∉ excluded := by
        rintro ⟨s, hs, hname⟩
        have hin := (hmem s).mpr ⟨hs, hname⟩
        rw [hcounted] at hin
        exact List.not_mem_nil hin
      refine iff_of_false ?_ fun h => hnone h.1
      dsimp only [List.isEmpty_nil]
      rw [if_pos rfl]
      split
      · decide
      · exact ofExcludedSightings_ne_running seen _
  | cons first rest =>
      simp only [hcounted] at hmem
      dsimp only [List.isEmpty_cons]
      rw [if_neg Bool.false_ne_true, ofSightings, ofTokens_eq_running_healthy_iff]
      have hfirst := (hmem first).mp List.mem_cons_self
      obtain ⟨token, htoken⟩ := Option.isSome_iff_exists.mp (hknown first hfirst.1 hfirst.2)
      constructor
      · rintro ⟨-, hall⟩
        refine ⟨⟨first, hfirst⟩, fun s hs hname => ?_⟩
        obtain ⟨t, ht⟩ := Option.isSome_iff_exists.mp (hknown s hs hname)
        rw [ht, hall t (List.mem_filterMap.mpr ⟨s, (hmem s).mpr ⟨hs, hname⟩, ht⟩)]
      · rintro ⟨-, hall⟩
        refine ⟨List.ne_nil_of_mem (List.mem_filterMap.mpr ⟨first, List.mem_cons_self, htoken⟩),
          fun t ht => ?_⟩
        obtain ⟨s, hs, ht⟩ := List.mem_filterMap.mp ht
        obtain ⟨hs, hname⟩ := (hmem s).mp hs
        exact Option.some.inj (ht.symm.trans (hall s hs hname))

/-- The outcomes of the decision table. -/
theorem ofTokens_cases (ts : List StatusToken) (maxRestarts : Int) :
    ofTokens ts maxRestarts = degraded ∨ ofTokens ts maxRestarts = starting ∨
      ofTokens ts maxRestarts = paused ∨ ofTokens ts maxRestarts = exited ∨
      ∃ q, ofTokens ts maxRestarts = running q := by
  rw [ofTokens_eq_byFirst]
  simp only [rules, byFirst_cons, byFirst_nil]
  split_ifs
  all_goals simp

/-! ## Parts -/

/-- The status comes from containers that count, or from none at all. -/
def Plain (s : Status) : Prop := s.excluded = false ∧ s.base ≠ .unknown

theorem ofTokens_plain (ts : List StatusToken) (maxRestarts : Int) :
    (ofTokens ts maxRestarts).Plain := by
  rw [ofTokens_eq_byFirst]
  simp only [rules, byFirst_cons, byFirst_nil]
  iterate 8 refine iteInduction (fun _ => ⟨rfl, Base.noConfusion⟩) fun _ => ?_
  exact ⟨rfl, Base.noConfusion⟩

theorem evaluateSightings_plain {seen : List Sighting} {excluded : List String}
    (h : seen = [] ∨ ∃ s ∈ seen, s.name ∉ excluded) : (evaluateSightings seen excluded).Plain := by
  unfold evaluateSightings
  dsimp only
  split_ifs with hcounted hseen
  · exact ⟨rfl, Base.noConfusion⟩
  · exfalso
    rcases h with rfl | ⟨s, hs, hname⟩
    · exact hseen rfl
    · rw [List.isEmpty_iff, List.filter_eq_nil_iff] at hcounted
      simpa [hname] using hcounted s hs
  · exact ofTokens_plain _ _

/-- A plain status is read back as the token of a healthy container only if it is healthy. -/
theorem Plain.token?_eq_healthy_iff {s : Status} (hs : s.Plain) :
    s.token? = some .healthy ↔ s = running .healthy := by
  obtain ⟨base, qualifier, excluded⟩ := s
  obtain ⟨rfl, hbase⟩ : excluded = false ∧ base ≠ .unknown := hs
  cases base <;> rcases qualifier with _ | _ | _ | _ <;>
    simp_all [token?, running, StatusToken.healthy, Qualifier.health?]

/-- A rollup is healthy when a part counts and each part that counts is healthy. -/
theorem rollup_eq_running_healthy_iff {parts : List (String × Status)} {excluded : List String}
    (hplain : ∀ p ∈ parts, p.1 ∉ excluded → p.2.Plain) :
    rollup parts excluded = running .healthy ↔
      (∃ p ∈ parts, p.1 ∉ excluded) ∧ ∀ p ∈ parts, p.1 ∉ excluded → p.2 = running .healthy := by
  rw [rollup_eq, evaluateSightings_eq_running_healthy_iff]
  · rw [List.forall_mem_map]
    simp only [List.mem_map, exists_exists_and_eq_and, sighting]
    apply and_congr_right
    intro _
    exact forall₃_congr fun p hp hname => (hplain p hp hname).token?_eq_healthy_iff
  · intro s hs hname
    obtain ⟨p, hp, rfl⟩ := List.mem_map.mp hs
    exact (token?_isSome_iff p.2).mpr (hplain p hp hname).2

end Status

namespace Containers

/-- The containers of a resource are healthy together when one counts and each that counts is
running and healthy. -/
theorem evaluate_eq_running_healthy_iff {cs : Containers} {excluded : List String}
    (hknown : ∀ c ∈ cs.sightings, c.token.isSome) :
    cs.evaluate excluded = .running .healthy ↔
      (∃ c ∈ cs.sightings, c.name ∉ excluded) ∧
        ∀ c ∈ cs.sightings, c.name ∉ excluded → c.token = some .healthy := by
  rw [evaluate_eq, Status.evaluateSightings_eq_running_healthy_iff fun c hc _ => hknown c hc]

/-- The containers do not count when there are some and all are excluded. -/
theorem allExcluded_eq_false_iff (cs : Containers) (excluded : List String) :
    cs.allExcluded excluded = false ↔
      cs.sightings = [] ∨ ∃ c ∈ cs.sightings, c.name ∉ excluded := by
  rw [allExcluded_eq, or_iff_not_imp_left]
  simp

theorem evaluate_plain {cs : Containers} {excluded : List String}
    (h : cs.allExcluded excluded = false) : (cs.evaluate excluded).Plain := by
  rw [evaluate_eq]
  exact Status.evaluateSightings_plain ((allExcluded_eq_false_iff cs excluded).mp h)

end Containers

end FleetWatch
