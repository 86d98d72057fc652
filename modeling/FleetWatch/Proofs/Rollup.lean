import FleetWatch.Proofs.Sighting

/-! # Statuses as parts of a whole

A rollup writes the statuses of parts out and reads them back as tokens. The token of a status is
known without its text, and a rollup is nothing but the evaluation of the parts as if each were one
container that was never restarted.
-/

namespace FleetWatch

/-- The health that a qualifier tells of a container. -/
def Qualifier.health? : Qualifier → Option Health
  | healthy => some .healthy
  | unhealthy => some .unhealthy
  | unknown => none

namespace Status

/-- What a status says as a part of a whole. `unknown` says nothing. -/
def token? (s : Status) : Option StatusToken :=
  let health := s.qualifier.bind Qualifier.health?
  match s.base with
  | .running => some (.container .running health)
  | .degraded => some .degraded
  | .starting => some (.container .starting health)
  | .paused => some (.container .paused health)
  | .exited => some (.container .exited health)
  | .unknown => none

/-- The written form of a status is read as its token; a tag for exclusion is overlooked. -/
theorem parse?_text (s : Status) : StatusToken.parse? s.text = s.token? := by
  obtain ⟨base, qualifier, excluded⟩ := s
  cases base <;> rcases qualifier with _ | _ | _ | _ <;> cases excluded <;> decide +kernel

theorem token?_isSome_iff (s : Status) : s.token?.isSome = true ↔ s.base ≠ .unknown := by
  obtain ⟨base, qualifier, excluded⟩ := s
  cases base <;> simp [token?]

/-- What is seen of a part of a whole. -/
def sighting (part : String × Status) : Sighting := ⟨part.1, part.2.token?, none⟩

/-- The texts of parts are read as the tokens of their statuses. -/
theorem filterMap_parse?_text (parts : List (String × Status)) :
    (parts.map fun (_, s) => s.text).filterMap StatusToken.parse? =
      (parts.map sighting).filterMap Sighting.token := by
  simp only [List.filterMap_map, Function.comp_def, parse?_text]
  rfl

theorem maxCount_sighting (parts : List (String × Status)) :
    maxCount ((parts.map sighting).map Sighting.restartCount) = 0 := by
  have hnone : ((parts.map sighting).map Sighting.restartCount).filterMap id = [] := by
    simp [sighting]
  rw [maxCount, hnone]
  rfl

theorem ofTexts_rollup (parts : List (String × Status)) :
    ofTexts (parts.map fun (_, s) => s.text) 0 = ofSightings (parts.map sighting) := by
  rw [ofTexts, filterMap_parse?_text, ofSightings, maxCount_sighting]
  rfl

/-- Parts of which nothing is known have no token in the first place. -/
theorem filterMap_token_known (parts : List (String × Status)) :
    ((parts.filter (·.2.base ≠ .unknown)).map sighting).filterMap Sighting.token =
      (parts.map sighting).filterMap Sighting.token := by
  induction parts with
  | nil => rfl
  | cons part rest ih =>
      by_cases hbase : part.2.base = .unknown
      · have htoken : (sighting part).token = none := by simp [sighting, token?, hbase]
        rw [List.filter_cons_of_neg (by simpa using hbase), List.map_cons,
          List.filterMap_cons_none htoken, ih]
      · rw [List.filter_cons_of_pos (by simpa using hbase), List.map_cons, List.map_cons,
          List.filterMap_cons, List.filterMap_cons, ih]

/-- A rollup evaluates the parts under the exclusions as if they were containers. -/
theorem rollup_eq (parts : List (String × Status)) (excluded : List String) :
    rollup parts excluded = evaluateSightings (parts.map sighting) excluded := by
  have hcounted : (parts.map sighting).filter (fun s => !excluded.contains s.name) =
      (parts.filter fun (name, _) => !excluded.contains name).map sighting := by
    rw [List.filter_map]
    rfl
  unfold rollup evaluateSightings
  simp only [hcounted, List.isEmpty_map, ← ofTexts_rollup]
  cases parts.filter fun (name, _) => !excluded.contains name with
  | cons part rest => simp
  | nil =>
      simp only [List.isEmpty_nil, if_true]
      congr 1
      rw [ofExcludedTexts_eq_ite, ofTexts, filterMap_parse?_text, filterMap_token_known,
        ofExcludedSightings, ofSightings, maxCount_sighting]
      rfl

end Status

end FleetWatch
