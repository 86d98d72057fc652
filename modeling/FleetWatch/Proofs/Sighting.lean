import FleetWatch.Container.Snapshot
import FleetWatch.Proofs.DecisionTable
import Mathlib.Data.List.Perm.Basic

/-! # One view of both shapes

Containers are observed or reported. What evaluation sees of a container is the same in either
shape: the name it goes by, its token and its restart count. The statuses here are computed from
that view alone, and they are the ones that are computed from either shape. Neither the order of
containers nor the spelling of their statuses matters to them.
-/

namespace FleetWatch

/-- What evaluation sees of a container. -/
structure Sighting where
  /-- The name the container goes by. -/
  name : String
  /-- There is none for a container that was reported with an unknown status. -/
  token : Option StatusToken
  restartCount : Option Nat
  deriving DecidableEq, Repr

/-- What is seen of an observed container. -/
def Observation.sighting (c : Observation) : Sighting :=
  ⟨c.exclusionKey, some c.token, c.restartCount⟩

/-- What is seen of a reported container. -/
def NamedStatus.sighting (s : NamedStatus) : Sighting :=
  ⟨s.name, StatusToken.parse? s.status, s.restartCount⟩

@[simp] theorem Observation.sighting_name (c : Observation) :
    c.sighting.name = c.exclusionKey := rfl

@[simp] theorem Observation.sighting_token (c : Observation) :
    c.sighting.token = some c.token := rfl

@[simp] theorem Observation.sighting_restartCount (c : Observation) :
    c.sighting.restartCount = c.restartCount := rfl

@[simp] theorem NamedStatus.sighting_name (s : NamedStatus) : s.sighting.name = s.name := rfl

@[simp] theorem NamedStatus.sighting_token (s : NamedStatus) :
    s.sighting.token = StatusToken.parse? s.status := by rw [NamedStatus.sighting]

@[simp] theorem NamedStatus.sighting_restartCount (s : NamedStatus) :
    s.sighting.restartCount = s.restartCount := rfl

/-- What is seen of the containers of a resource. -/
def Containers.sightings : Containers → List Sighting
  | observed os => os.map Observation.sighting
  | reported ss => ss.map NamedStatus.sighting

namespace Status

/-- The status of containers without regard to exclusions. -/
def ofSightings (seen : List Sighting) : Status :=
  ofTokens (seen.filterMap Sighting.token) (maxCount (seen.map Sighting.restartCount))

/-- The tagged status of containers that are all excluded. -/
def ofExcludedSightings (seen : List Sighting) : Status :=
  if (seen.filterMap Sighting.token).isEmpty then unknownExcluded
  else (ofSightings seen).forExcluded

/-- The status of a resource under exclusions. -/
def evaluateSightings (seen : List Sighting) (excluded : List String) : Status :=
  let counted := seen.filter fun s => !excluded.contains s.name
  if counted.isEmpty then if seen.isEmpty then exited else ofExcludedSightings seen
  else ofSightings counted

theorem counted_eq_nil_iff {seen : List Sighting} {excluded : List String} :
    (seen.filter fun s => !excluded.contains s.name) = [] ↔ ∀ s ∈ seen, s.name ∈ excluded := by
  simp [List.filter_eq_nil_iff]

theorem evaluateSightings_of_counted {seen : List Sighting} {excluded : List String}
    (h : ∃ s ∈ seen, s.name ∉ excluded) :
    evaluateSightings seen excluded =
      ofSightings (seen.filter fun s => !excluded.contains s.name) := by
  unfold evaluateSightings
  cases hcounted : seen.filter fun s => !excluded.contains s.name with
  | nil =>
      obtain ⟨s, hs, hname⟩ := h
      exact absurd (counted_eq_nil_iff.mp hcounted s hs) hname
  | cons s rest => rfl

theorem evaluateSightings_of_excluded {seen : List Sighting} {excluded : List String}
    (hsome : seen ≠ []) (h : ∀ s ∈ seen, s.name ∈ excluded) :
    evaluateSightings seen excluded = ofExcludedSightings seen := by
  unfold evaluateSightings
  rw [counted_eq_nil_iff.mpr h]
  cases seen with
  | nil => exact absurd rfl hsome
  | cons s rest => rfl

/-! ## Either shape -/

theorem ofObservations_eq (os : List Observation) :
    ofObservations os (maxRestarts os) = ofSightings (os.map Observation.sighting) := by
  have htokens : (os.map Observation.sighting).filterMap Sighting.token =
      os.map Observation.token := by
    simp only [List.filterMap_map, Function.comp_def, Observation.sighting_token]
    exact congrFun List.filterMap_eq_map' os
  simp only [ofSightings, htokens, List.map_map, Function.comp_def,
    Observation.sighting_restartCount]
  rfl

theorem filterMap_token_sighting (ss : List NamedStatus) :
    (ss.map NamedStatus.sighting).filterMap Sighting.token =
      (ss.map NamedStatus.status).filterMap StatusToken.parse? := by
  simp only [List.filterMap_map, Function.comp_def, NamedStatus.sighting_token]

theorem ofTexts_eq (ss : List NamedStatus) :
    ofTexts (ss.map NamedStatus.status) (maxReportedRestarts ss) =
      ofSightings (ss.map NamedStatus.sighting) := by
  simp only [ofTexts, ofSightings, filterMap_token_sighting, List.map_map, Function.comp_def,
    NamedStatus.sighting_restartCount, maxReportedRestarts]

theorem ofExcluded_eq (os : List Observation) (excluded : List String) :
    ofExcluded os excluded =
      ofExcludedSightings ((os.filter (·.isExcluded excluded)).map Observation.sighting) := by
  unfold ofExcluded ofExcludedSightings
  rw [← ofObservations_eq]
  cases os.filter (·.isExcluded excluded) with
  | nil => rfl
  | cons c rest => simp

/-- Texts without a token are as good as absent. -/
theorem filterMap_token_filter (texts : List String) :
    (texts.filter fun t => (StatusToken.parse? t).isSome).filterMap StatusToken.parse? =
      texts.filterMap StatusToken.parse? := by
  induction texts with
  | nil => rfl
  | cons t rest ih =>
      rw [List.filter_cons, List.filterMap_cons]
      cases ht : StatusToken.parse? t with
      | none => simpa only [Option.isSome_none, Bool.false_eq_true, if_false] using ih
      | some token => simp only [Option.isSome_some, if_true, List.filterMap_cons, ht, ih]

theorem ofExcludedTexts_eq_ite (texts : List String) (maxRestarts : Int) :
    ofExcludedTexts texts maxRestarts =
      if (texts.filterMap StatusToken.parse?).isEmpty then unknownExcluded
      else (ofTexts texts maxRestarts).forExcluded := by
  unfold ofExcludedTexts ofTexts
  rw [← filterMap_token_filter]
  cases hknown : texts.filter fun t => (StatusToken.parse? t).isSome with
  | nil => rfl
  | cons t rest =>
      have hmem : t ∈ texts.filter fun t => (StatusToken.parse? t).isSome := by simp [hknown]
      obtain ⟨token, htoken⟩ := Option.isSome_iff_exists.mp (List.mem_filter.mp hmem).2
      simp [htoken]

theorem ofExcludedTexts_eq (ss : List NamedStatus) :
    ofExcludedTexts (ss.map NamedStatus.status) (maxReportedRestarts ss) =
      ofExcludedSightings (ss.map NamedStatus.sighting) := by
  rw [ofExcludedTexts_eq_ite, ofTexts_eq, ← filterMap_token_sighting, ofExcludedSightings]

end Status

namespace Containers

theorem count_eq (cs : Containers) : cs.count = cs.sightings.length := by
  cases cs <;> simp only [count, sightings, List.length_map]

theorem names_eq (cs : Containers) : cs.names = cs.sightings.map Sighting.name := by
  cases cs <;> simp only [names, sightings, List.map_map, Function.comp_def,
    Observation.sighting_name, NamedStatus.sighting_name]

theorem sightings_named (cs : Containers) (name : String) :
    (cs.named name).sightings = cs.sightings.filter (·.name == name) := by
  cases cs <;> simp only [named, sightings, List.filter_map, Function.comp_def,
    Observation.sighting_name, NamedStatus.sighting_name]

theorem mem_sightings_named {cs : Containers} {name : String} {c : Sighting} :
    c ∈ (cs.named name).sightings ↔ c ∈ cs.sightings ∧ c.name = name := by
  rw [sightings_named, List.mem_filter, beq_iff_eq]

theorem allExcluded_eq (cs : Containers) (excluded : List String) :
    cs.allExcluded excluded =
      (!cs.sightings.isEmpty && cs.sightings.all fun s => excluded.contains s.name) := by
  cases cs <;> simp only [allExcluded, sightings, List.all_map, List.isEmpty_map,
    Function.comp_def, Observation.sighting_name, NamedStatus.sighting_name,
    Observation.isExcluded]

theorem evaluateExcluded_eq (cs : Containers) (excluded : List String) :
    cs.evaluateExcluded excluded =
      Status.ofExcludedSightings (cs.sightings.filter fun s => excluded.contains s.name) := by
  cases cs <;> simp only [evaluateExcluded, sightings, Status.ofExcluded_eq,
    Status.ofExcludedTexts_eq, List.filter_map, Function.comp_def, Observation.sighting_name,
    NamedStatus.sighting_name, Observation.isExcluded]

theorem evaluate_eq (cs : Containers) (excluded : List String) :
    cs.evaluate excluded = Status.evaluateSightings cs.sightings excluded := by
  unfold evaluate Status.evaluateSightings
  cases cs with
  | observed os =>
      simp only [sightings, List.filter_map, Function.comp_def, Observation.sighting_name,
        List.isEmpty_map, ← Status.ofObservations_eq]
      unfold Status.evaluate
      simp only [Observation.isExcluded]
      cases hcounted : os.filter fun c => !excluded.contains c.exclusionKey with
      | cons c rest => simp
      | nil =>
          have hall : os.filter (·.isExcluded excluded) = os := by
            rw [List.filter_eq_self]
            intro c hc
            simpa [Observation.isExcluded] using List.filter_eq_nil_iff.mp hcounted c hc
          rw [Status.ofExcluded_eq, hall]
          rfl
  | reported ss =>
      simp only [sightings, List.filter_map, Function.comp_def, NamedStatus.sighting_name,
        List.isEmpty_map, ← Status.ofTexts_eq]
      unfold Status.evaluateReported
      cases ss.filter fun s => !excluded.contains s.name with
      | cons s rest => simp
      | nil =>
          rw [Status.ofExcludedTexts_eq]
          rfl

end Containers

/-! ## Order does not matter -/

namespace Status

theorem maxCount_perm {xs ys : List (Option Nat)} (h : xs.Perm ys) :
    maxCount xs = maxCount ys :=
  (h.filterMap id).foldl_eq 0

theorem ofSightings_perm {ss ts : List Sighting} (h : ss.Perm ts) :
    ofSightings ss = ofSightings ts := by
  unfold ofSightings
  rw [maxCount_perm (h.map _)]
  exact ofTokens_congr (fun t => (h.filterMap _).mem_iff) _

theorem ofExcludedSightings_perm {ss ts : List Sighting} (h : ss.Perm ts) :
    ofExcludedSightings ss = ofExcludedSightings ts := by
  unfold ofExcludedSightings
  rw [ofSightings_perm h, (h.filterMap Sighting.token).isEmpty_eq]

theorem evaluateSightings_perm {ss ts : List Sighting} (h : ss.Perm ts)
    (excluded : List String) : evaluateSightings ss excluded = evaluateSightings ts excluded := by
  have hcounted := h.filter fun s => !excluded.contains s.name
  unfold evaluateSightings
  simp only [hcounted.isEmpty_eq, h.isEmpty_eq, ofExcludedSightings_perm h,
    ofSightings_perm hcounted]

end Status

namespace Containers

/-- The same is seen of the containers, in some order. -/
def Alike (cs ds : Containers) : Prop := cs.sightings.Perm ds.sightings

namespace Alike

variable {cs ds : Containers} (h : cs.Alike ds)
include h

theorem count_eq : cs.count = ds.count := by
  rw [cs.count_eq, ds.count_eq]
  exact h.length_eq

theorem evaluate_eq (excluded : List String) : cs.evaluate excluded = ds.evaluate excluded := by
  rw [cs.evaluate_eq, ds.evaluate_eq]
  exact Status.evaluateSightings_perm h excluded

theorem evaluateExcluded_eq (excluded : List String) :
    cs.evaluateExcluded excluded = ds.evaluateExcluded excluded := by
  rw [cs.evaluateExcluded_eq, ds.evaluateExcluded_eq]
  exact Status.ofExcludedSightings_perm (h.filter _)

theorem named (name : String) : (cs.named name).Alike (ds.named name) := by
  rw [Alike, sightings_named, sightings_named]
  exact h.filter _

end Alike

end Containers

end FleetWatch
