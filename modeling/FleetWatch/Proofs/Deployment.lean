import FleetWatch.Proofs.Run

/-! # The override of deployments

In every run, whatever is being deployed is stored with the override. Four functions record
resources, and each looks at the deployments first; since an update touches one family only, a
resource that is being deployed keeps its parts or placements as they were.
-/

namespace FleetWatch.Fleet

/-- The override is stored for whatever is being deployed, and only resources are. -/
def Overridden (f : Fleet) : Prop :=
  ∀ key, f.isDeploying key = true → key.isTopLevel = true ∧
    ∃ r, f.store.get? key = some r ∧ r.status = .deploying ∧ r.source = .deployment

/-- Recording the override under a key that may be deployed from now on. -/
theorem Overridden.record {f : Fleet} (hf : Overridden f) {g : Fleet} {key : ResourceKey}
    (hkey : key.isTopLevel = true) (count now : Nat)
    (hstore : g.store = f.store.insert key (.deploying count now))
    (hdep : ∀ k, g.isDeploying k = true → k = key ∨ f.isDeploying k = true) : Overridden g := by
  intro k hk
  rw [hstore]
  by_cases heq : k = key
  · subst heq
    exact ⟨hkey, _, Store.get?_insert_self _ _ _, rfl, rfl⟩
  · rw [Store.get?_insert_of_ne _ _ heq]
    exact hf k ((hdep k hk).resolve_left heq)

theorem Overridden.update {f g : Fleet} (hf : Overridden f) (h : Update f g) : Overridden g := by
  rcases h.confined with ⟨m, rfl⟩ | ⟨key, hkey, hconfined, hoverride⟩
  · exact hf
  · -- An update of what is being deployed repeats the override; any other works elsewhere.
    by_cases hdep : f.isDeploying key = true
    · obtain ⟨count, now, rfl⟩ := hoverride hdep
      exact hf.record hkey count now rfl fun k hk => .inr hk
    · intro k hk
      rw [hconfined.isDeploying] at hk
      obtain ⟨htop, hrecord⟩ := hf k hk
      refine ⟨htop, ?_⟩
      rw [hconfined.frame]
      · exact hrecord
      · rw [ResourceKey.isTopLevel_iff.mp htop]
        rintro rfl
        exact hdep hk

theorem Overridden.setDeploying {f : Fleet} (hf : Overridden f) (now : Nat) {key : ResourceKey}
    (hkey : key.isTopLevel = true) (on : Bool) : Overridden (f.setDeploying now key on) := by
  cases on with
  | true =>
      apply hf.record hkey (f.countOf key) now rfl
      intro k hk
      have hflag := (isDeploying_setDeploying f now key true k).symm.trans hk
      split at hflag
      next heq => exact .inl heq
      next => exact .inr hflag
  | false =>
      intro k hk
      apply hf
      rw [isDeploying_setDeploying] at hk
      split at hk
      next => cases hk
      next => exact hk

theorem Reachable.overridden {f : Fleet} (hf : Reachable f) : Overridden f :=
  hf.invariant (fun _ _ key hkey => absurd hkey (by simp [Fleet.isDeploying]))
    (fun _ _ hf h => hf.update h) (fun _ now _ on hkey hf => hf.setDeploying now hkey on)
    (fun _ _ hf => hf)

/-- An update leaves the parts or placements of what is being deployed alone. -/
theorem Update.get?_child_of_deploying {f g : Fleet} (h : Update f g) {key child : ResourceKey}
    (hkey : key.isTopLevel = true) (hdep : f.isDeploying key = true)
    (hchild : child.isChildOf key = true) : g.store.get? child = f.store.get? child := by
  rcases h.confined with ⟨m, rfl⟩ | ⟨key', hkey', hconfined, hoverride⟩
  · rfl
  · by_cases heq : key = key'
    · subst heq
      obtain ⟨count, now, rfl⟩ := hoverride hdep
      exact Store.get?_insert_of_ne _ _ (ResourceKey.ne_of_isChildOf hchild hkey)
    · apply hconfined.frame
      rw [(ResourceKey.isChildOf_iff.mp hchild).2, ResourceKey.isTopLevel_iff.mp hkey]
      exact heq

theorem Updates.get?_child_of_deploying {f g : Fleet} (h : Updates f g) {key child : ResourceKey}
    (hkey : key.isTopLevel = true) (hdep : f.isDeploying key = true)
    (hchild : child.isChildOf key = true) : g.store.get? child = f.store.get? child := by
  apply h.get?_eq
  intro f₁ f₂ _ hdeploying hupdate
  rw [isDeploying, ← hdeploying] at hdep
  exact hupdate.get?_child_of_deploying hkey hdep hchild

/-- In every run, each resource that is being deployed is stored as `starting:unhealthy` with the
deployment as its source, and no poll, report or check changes its parts or placements. -/
theorem deployment_undisturbed {f : Fleet} (hf : Reachable f) :
    (∀ key, f.isDeploying key = true →
      ∃ r, f.store.get? key = some r ∧ r.status = .deploying ∧ r.source = .deployment) ∧
    ∀ g, Collection f g → ∀ key child, f.isDeploying key = true → child.isChildOf key = true →
      g.store.get? child = f.store.get? child := by
  refine ⟨fun key hkey => (hf.overridden key hkey).2, ?_⟩
  intro g hg key child hkey hchild
  exact hg.updates.get?_child_of_deploying (hf.overridden key hkey).1 hkey hchild

/-- The shop is deployed between two checks; what its first server showed before is still stored
when both servers show nothing. -/
theorem deployment_undisturbed_shop :
    let f := shopChecked.setDeploying 1 (.application "shop") true
    let g := (f.check noFiles fun _ => .ok []).1
    Reachable f ∧ f.isDeploying (.application "shop") = true ∧
      (∃ r, f.store.get? (.application "shop") = some r ∧ r.status = .deploying ∧
        r.source = .deployment) ∧
      (f.store.get? (.placement "shop" "edge-1")).map StatusRecord.containerCount = some 1 ∧
      g.store.get? (.placement "shop" "edge-1") = f.store.get? (.placement "shop" "edge-1") := by
  intro f g
  have hf : Reachable f := .step shopChecked_reachable (.deploy 1 rfl true)
  have hdep : f.isDeploying (.application "shop") = true := rfl
  obtain ⟨hoverride, hchildren⟩ := deployment_undisturbed hf
  exact ⟨hf, hdep, hoverride _ hdep, rfl, hchildren g (.check _ _) _ _ hdep rfl⟩

end FleetWatch.Fleet
