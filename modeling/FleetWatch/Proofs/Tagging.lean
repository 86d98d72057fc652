import FleetWatch.Proofs.Noninterference
import FleetWatch.Proofs.WellFormed

/-! # Tag and flag

That a status was computed from excluded containers alone is told twice: by its tag, and by the flag
that says of containers that they are excluded as a whole. A rollup of placements leaves out what is
flagged and does not look at the tag, and whoever is alerted looks at the tag and not at the flag,
so the two must not contradict each other.
-/

namespace FleetWatch.Containers

variable {cs : Containers} {excluded : List String}

theorem counted_counted (cs : Containers) (excluded : List String) :
    (cs.counted excluded).counted excluded = cs.counted excluded := by
  cases cs <;> simp [counted, List.filter_filter]

theorem evaluate_eq_evaluateExcluded (h : cs.allExcluded excluded = true) :
    cs.evaluate excluded = cs.evaluateExcluded excluded := by
  have hall : cs.sightings.filter (fun c => excluded.contains c.name) = cs.sightings := by
    rw [allExcluded_eq, Bool.and_eq_true, List.all_eq_true] at h
    exact List.filter_eq_self.mpr h.2
  rw [evaluate_of_allExcluded h, evaluateExcluded_eq, hall]

/-- If no container counts although they are not excluded as a whole, there is none at all. -/
theorem evaluate_eq_evaluate_counted (h : cs.allExcluded excluded = false) :
    cs.evaluate excluded = (cs.counted excluded).evaluate excluded := by
  have hcounted : (cs.counted excluded).Alike ((cs.counted excluded).counted excluded) := by
    rw [counted_counted]
    exact List.Perm.refl _
  refine evaluate_eq_of_not_allExcluded hcounted ?_ h
  intro hnone
  rw [allExcluded_eq_counted, hnone, Bool.and_true, Bool.not_eq_false'] at h
  rw [h, hnone]

/-- Only containers that are excluded as a whole get a tagged status. These are evaluated as
excluded containers, and their status is tagged or says nothing about health. All others get the
status that they have without the excluded ones among them, and it is not tagged. -/
theorem tag_agrees_with_flag (cs : Containers) (excluded : List String) :
    ((cs.evaluate excluded).excluded = true → cs.allExcluded excluded = true) ∧
      (cs.allExcluded excluded = true →
        cs.evaluate excluded = cs.evaluateExcluded excluded ∧
          ((cs.evaluate excluded).excluded = true ∨ cs.evaluate excluded = .exited)) ∧
      (cs.allExcluded excluded = false →
        (cs.evaluate excluded).excluded = false ∧
          cs.evaluate excluded = (cs.counted excluded).evaluate excluded) := by
  refine ⟨allExcluded_of_evaluate_excluded, ?_, ?_⟩
  · intro hflag
    exact ⟨evaluate_eq_evaluateExcluded hflag, evaluate_excluded_of_allExcluded hflag⟩
  · intro hflag
    exact ⟨(evaluate_plain hflag).1, evaluate_eq_evaluate_counted hflag⟩

/-- A backup of which nothing is known is tagged, one that has exited is flagged alone, and one that
crashes again and again makes no difference to the shop beside it. -/
theorem tag_agrees_with_flag_shop :
    let unread : Containers := .reported [{ name := "backup", status := "Up 3 minutes" }]
    let done : Containers := .observed [{ name := "backup", state := .exited }]
    let mixed : Containers := .reported
      [{ name := "backup", status := "exited", restartCount := some 7 },
        { name := "shop", status := "exited" }]
    (unread.evaluate ["backup"] = .unknownExcluded ∧ unread.allExcluded ["backup"] = true) ∧
      (done.allExcluded ["backup"] = true ∧
        done.evaluate ["backup"] = done.evaluateExcluded ["backup"] ∧
        done.evaluate ["backup"] = .exited) ∧
      mixed.allExcluded ["backup"] = false ∧ (mixed.evaluate ["backup"]).excluded = false ∧
        mixed.evaluate ["backup"] =
          (Containers.reported [{ name := "shop", status := "exited" }]).evaluate ["backup"] := by
  intro unread done mixed
  have hunread : unread.evaluate ["backup"] = .unknownExcluded := by decide +kernel
  have hdone : done.allExcluded ["backup"] = true := by decide
  have hmixed : mixed.allExcluded ["backup"] = false := by decide
  have hshop : mixed.counted ["backup"] = .reported [{ name := "shop", status := "exited" }] := rfl
  refine ⟨⟨hunread, ?_⟩, ⟨hdone, ?_, by decide⟩, hmixed, ?_⟩
  · apply (tag_agrees_with_flag unread ["backup"]).1
    rw [hunread]
    rfl
  · exact ((tag_agrees_with_flag done ["backup"]).2.1 hdone).1
  · rw [← hshop]
    exact (tag_agrees_with_flag mixed ["backup"]).2.2 hmixed

end FleetWatch.Containers
