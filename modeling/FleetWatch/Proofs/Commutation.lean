import FleetWatch.Proofs.Footprint
import FleetWatch.Proofs.Rounds
import FleetWatch.Proofs.Run

/-! # Collections in another order

Valid settings give every resource an id of its own. Servers then never share a resource that is
recorded from what one of them shows, and none of these is ever checked, so collections commute:
what is stored in the end does not depend on which of them came first.
-/

namespace FleetWatch

/-! ## Disjoint footprints -/

namespace Settings

variable {s : Settings} (hvalid : s.problems = []) {key : ResourceKey}
include hvalid

theorem not_recordedWith_of_ne {server server' : String} (hne : server ≠ server')
    (h : s.RecordedWith server key) : ¬ s.RecordedWith server' key := by
  rintro (⟨app', happ', hon', hkey'⟩ | ⟨service', hservice', hon', hkey'⟩)
  · rcases h with ⟨app, happ, hon, hkey⟩ | ⟨service, -, -, hkey⟩
    · have hid := ResourceKey.application_inj.mp (hkey.symm.trans hkey')
      obtain rfl := application_eq_of_id hvalid happ happ' hid
      exact hne (hon.1.symm.trans hon'.1)
    · exact ResourceKey.service_ne_application _ _ (hkey.symm.trans hkey')
  · rcases h with ⟨app, -, -, hkey⟩ | ⟨service, hservice, hon, hkey⟩
    · exact ResourceKey.application_ne_service _ _ (hkey.symm.trans hkey')
    · have hid := ResourceKey.service_inj.mp (hkey.symm.trans hkey')
      obtain rfl := service_eq_of_id hvalid hservice hservice' hid
      exact hne (hon.symm.trans hon')

theorem not_checked_of_recordedWith {server : String} (h : s.RecordedWith server key) :
    ¬ s.Checked key := by
  rintro ⟨app', happ', hkey'⟩
  obtain ⟨hmem', hmulti⟩ := List.mem_filter.mp happ'
  rcases h with ⟨app, happ, hon, hkey⟩ | ⟨service, -, -, hkey⟩
  · have hid := ResourceKey.application_inj.mp (hkey.symm.trans hkey')
    obtain rfl := application_eq_of_id hvalid happ hmem' hid
    exact Bool.false_ne_true (hon.2.symm.trans hmulti)
  · exact ResourceKey.service_ne_application _ _ (hkey.symm.trans hkey')

theorem not_checked_of_recorded (h : s.Recorded key) : ¬ s.Checked key :=
  h.elim fun _ hrecorded => not_checked_of_recordedWith hvalid hrecorded

/-- However the servers of valid settings are listed, none of them records what another one does. -/
theorem pairwise_recordedWith {order : List Server} (horder : order.Perm s.servers) :
    order.Pairwise fun server server' =>
      ∀ key, s.RecordedWith server.name key → ¬ s.RecordedWith server'.name key := by
  have hnames : (order.map Server.name).Nodup :=
    (horder.map Server.name).nodup_iff.mpr (nodup_of_problems hvalid).1
  exact (List.pairwise_map.mp hnames).imp fun hne _ => not_recordedWith_of_ne hvalid hne

end Settings

/-! ## Collections -/

namespace Fleet

section Collections

variable {f : Fleet} (hvalid : f.settings.problems = []) (around : Surroundings)
  (inspect : Inspector)

/-- How many resources are recorded does not depend on the order in which servers answer. -/
theorem count_pollInOrder_perm (around' : Surroundings) {order order' : List Server}
    (h : order.Perm order') :
    (f.pollInOrder around inspect order).2 = (f.pollInOrder around' inspect order').2 := by
  have hupdated := (h.filter (answers inspect)).map fun server => f.resourcesOn server.name
  exact hupdated.sum_nat

include hvalid

theorem pollInOrder_perm {order order' : List Server} (horder : order.Perm f.settings.servers)
    (horder' : order'.Perm f.settings.servers) (now now' : Nat) :
    (f.pollInOrder { around with now } inspect order).1.Alike
      (f.pollInOrder { around with now := now' } inspect order').1 := by
  have hpolled := Local.foldl_perm (pollServer_local around inspect)
    (horder.trans horder'.symm) (.refl _ f)
    (Settings.pairwise_recordedWith hvalid horder) now now'
  exact ⟨hpolled.settings, hpolled.deploying, hpolled.records⟩

end Collections

/-- In valid settings, the stored records do not depend on the order in which servers answer to a
poll, in which two servers report, or in which a check comes before or after a poll or a report.
Only the times of the records do. A poll also records as many resources in any order. -/
theorem collections_commute {f : Fleet} (hvalid : f.settings.problems = [])
    (around : Surroundings) (inspect inspect' : Inspector) (t₁ t₂ t₃ t₄ : Nat) :
    let polled (t : Nat) (order : List Server) (g : Fleet) :=
      g.pollInOrder { around with now := t } inspect order
    let reported (t : Nat) (r : AgentReport) (g : Fleet) := (g.report { around with now := t } r).1
    let checked (t : Nat) (g : Fleet) := (g.check { around with now := t } inspect').1
    (∀ order order' : List Server, order.Perm f.settings.servers →
      order'.Perm f.settings.servers →
        (polled t₁ order f).1.store.SameButTimes (polled t₂ order' f).1.store ∧
        (polled t₁ order f).2 = (polled t₂ order' f).2 ∧
        (checked t₂ (polled t₁ order f).1).store.SameButTimes
          (polled t₄ order' (checked t₃ f)).1.store) ∧
    (∀ r r' : AgentReport, r.server ≠ r'.server →
      (reported t₂ r' (reported t₁ r f)).store.SameButTimes
        (reported t₄ r (reported t₃ r' f)).store) ∧
    ∀ r : AgentReport,
      (checked t₂ (reported t₁ r f)).store.SameButTimes
        (reported t₄ r (checked t₃ f)).store := by
  intro polled reported checked
  refine ⟨fun order order' horder horder' => ?_, fun r r' hservers => ?_, fun r => ?_⟩
  · have hpolls := pollInOrder_perm hvalid around inspect horder horder' t₁ t₂
    have hchecked := (check_local around inspect').alikeOn hpolls (fun _ _ => trivial) t₂ t₂
    have hcomm := (pollInOrder_local around inspect order').comm (check_local around inspect')
      (fun _ => Settings.not_checked_of_recorded hvalid) t₂ t₂ t₃ t₄
    exact ⟨hpolls.store, count_pollInOrder_perm _ inspect _ (horder.trans horder'.symm),
      (hchecked.trans hcomm).store⟩
  · exact ((report_local around r).comm (report_local around r')
      (fun _ => Settings.not_recordedWith_of_ne hvalid hservers) t₁ t₂ t₃ t₄).store
  · exact ((report_local around r).comm (check_local around inspect')
      (fun _ => Settings.not_checked_of_recordedWith hvalid) t₁ t₂ t₃ t₄).store

/-- The shop, and an application that the second server has to itself. -/
def marketSettings : Settings :=
  { shopSettings with
    applications := { id := "board", server := "edge-2" } :: shopSettings.applications }

/-- The servers of the market answer in the other order, report in the other order, and are checked
first. -/
theorem collections_commute_market :
    let f : Fleet := { settings := marketSettings }
    let early : Surroundings := { noFiles with now := 0 }
    let late : Surroundings := { noFiles with now := 60 }
    let order := marketSettings.servers.reverse
    let stopped : AgentReport :=
      { server := "edge-1"
        containers := [{ name := "mail-1", status := "exited", labels := mailContainer.labels }] }
    let empty : AgentReport := { server := "edge-2", containers := [] }
    let polled := f.pollInOrder late shopInspector order
    let reported := ((f.report early empty).1.report late stopped).1
    let polledLast := ((f.check early shopInspector).1.pollInOrder late shopInspector order).1
    let reportedLast := ((f.check early shopInspector).1.report late stopped).1
    let status (g : Fleet) (key : ResourceKey) := (g.store.get? key).map StatusRecord.status
    polled.2 = 2 ∧ status polled.1 (.service "mail") = some (.running .healthy) ∧
      status polledLast (.application "shop") = some (.running .healthy) ∧
      status reported (.service "mail") = some .exited ∧
      status reported (.application "board") = some .exited ∧
      status reportedLast (.application "shop") = some (.running .healthy) := by
  intro f early late order stopped empty polled reported polledLast reportedLast status
  have hvalid : f.settings.problems = [] := by decide
  obtain ⟨hpolls, hreports, hchecks⟩ :=
    collections_commute hvalid noFiles shopInspector shopInspector 0 60 0 60
  obtain ⟨hpoll, hcount, hlast⟩ := hpolls _ order (.refl _) (List.reverse_perm _)
  have hreport := hreports stopped empty (by decide)
  have hstatus {s t : Store} (h : s.SameButTimes t) (k : ResourceKey) :
      (t.get? k).map StatusRecord.status = (s.get? k).map StatusRecord.status :=
    (StatusRecord.map_eq_of_undated (fun _ => rfl) (h k)).symm
  refine ⟨hcount.symm.trans (by decide), (hstatus hpoll _).trans (by decide),
    (hstatus hlast _).trans (by decide), (hstatus hreport _).trans (by decide),
    (hstatus hreport _).trans (by decide), ?_⟩
  have hreportLast := hstatus (hchecks stopped) (.application "shop")
  dsimp only [status, reportedLast, early, late] at hreportLast ⊢
  exact hreportLast.trans (by decide)

end Fleet

end FleetWatch
