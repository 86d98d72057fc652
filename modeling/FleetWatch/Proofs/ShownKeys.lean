import FleetWatch.Proofs.Parents
import FleetWatch.Proofs.Pieces

/-! # Shown keys

A key is shown as its kind and its id, and after the id comes the server of a placement behind an
`@`, or the name of a part behind a slash. The id ends at the first such mark, whatever the rest
looks like: keys are told apart by what is shown of them as long as no id has the mark of its kind
in it. With the mark in its id, a key is shown as another key is.
-/

namespace FleetWatch

namespace Text

/-- What may follow a text, behind a mark. -/
def marked (mark : Char) : Option String → List Char
  | some rest => mark :: rest.toList
  | none => []

variable {mark : Char} {s t : List Char}

theorem cut_append_marked (h : mark ∉ s) (rest? : Option String) :
    cut mark (s ++ marked mark rest?) = rest?.map fun rest => (s, rest.toList) := by
  cases rest? with
  | some rest => exact cut_append h rest.toList
  | none =>
      rw [marked, List.append_nil]
      exact cut_of_not_mem h

/-- A text ends at the first mark, if it has none itself. -/
theorem append_marked_inj (hs : mark ∉ s) (ht : mark ∉ t) {rest? rest'? : Option String}
    (h : s ++ marked mark rest? = t ++ marked mark rest'?) : s = t ∧ rest? = rest'? := by
  have hcut := congrArg (cut mark) h
  rw [cut_append_marked hs, cut_append_marked ht] at hcut
  cases rest? with
  | some rest =>
      obtain ⟨rest', rfl, hpieces⟩ := Option.map_eq_some_iff.mp hcut.symm
      obtain ⟨hst, hrest⟩ := Prod.mk.inj hpieces
      exact ⟨hst.symm, congrArg some (String.toList_inj.mp hrest.symm)⟩
  | none =>
      obtain rfl := Option.map_eq_none_iff.mp hcut.symm
      exact ⟨List.append_cancel_right h, rfl⟩

end Text

/-! ## Keys -/

namespace ResourceKind

/-- What ends the id in the texts of keys of this kind. -/
def mark : ResourceKind → Char
  | application => '@'
  | service => '/'

theorem text_inj {a b : ResourceKind} (h : a.text = b.text) : a = b :=
  Option.some.inj ((ofText?_text a).symm.trans ((congrArg ofText? h).trans (ofText?_text b)))

theorem slash_not_mem_text (kind : ResourceKind) : '/' ∉ kind.text.toList := by
  cases kind <;> decide

end ResourceKind

namespace ResourceKey

/-- What is shown after the id: the server of a placement, or the name of a part. -/
def tail? (k : ResourceKey) : Option String :=
  match k.kind with
  | .application => k.server
  | .service => k.subResource

/-- The key of an application or a service, or of one of its placements or parts. -/
def ofTail (kind : ResourceKind) (id : String) (tail? : Option String) : ResourceKey :=
  match kind with
  | .application => { kind := .application, id, server := tail? }
  | .service => { kind := .service, id, subResource := tail? }

theorem ofTail_isRegular (kind : ResourceKind) (id : String) (tail? : Option String) :
    (ofTail kind id tail?).IsRegular := by
  cases kind with
  | application => exact ⟨fun _ => rfl, fun h => nomatch h⟩
  | service => exact ⟨fun h => (nomatch h), fun _ => rfl⟩

theorem kind_ofTail (kind : ResourceKind) (id : String) (tail? : Option String) :
    (ofTail kind id tail?).kind = kind := by
  cases kind <;> rfl

theorem id_ofTail (kind : ResourceKind) (id : String) (tail? : Option String) :
    (ofTail kind id tail?).id = id := by
  cases kind <;> rfl

theorem IsRegular.eq_ofTail {k : ResourceKey} (h : k.IsRegular) :
    k = ofTail k.kind k.id k.tail? := by
  obtain ⟨kind, id, subResource, server⟩ := k
  cases kind with
  | application =>
      obtain rfl : subResource = none := h.application rfl
      rfl
  | service =>
      obtain rfl : server = none := h.service rfl
      rfl

theorem toList_text_ofTail (kind : ResourceKind) (id : String) (tail? : Option String) :
    (ofTail kind id tail?).text.toList =
      kind.text.toList ++ '/' :: (id.toList ++ Text.marked kind.mark tail?) := by
  cases kind <;> cases tail? <;> simp [ofTail, text, Text.marked, ResourceKind.mark]

/-- The key is that of an application, of a service or of one of their placements and parts, and the
mark that ends the id is not in the id. -/
structure IsLegible (k : ResourceKey) : Prop where
  isRegular : k.IsRegular
  mark_not_mem : k.kind.mark ∉ k.id.toList

theorem eq_of_text_eq {a b : ResourceKey} (ha : a.IsLegible) (hb : b.IsLegible)
    (h : a.text = b.text) : a = b := by
  have hchars := congrArg String.toList h
  rw [ha.isRegular.eq_ofTail, hb.isRegular.eq_ofTail, toList_text_ofTail, toList_text_ofTail]
    at hchars
  -- The kind ends at the first slash, and the id at the first mark after it.
  have hcut := congrArg (Text.cut '/') hchars
  rw [Text.cut_append a.kind.slash_not_mem_text, Text.cut_append b.kind.slash_not_mem_text] at hcut
  obtain ⟨hkind, hrest⟩ := Prod.mk.inj (Option.some.inj hcut)
  have hkind := ResourceKind.text_inj (String.toList_inj.mp hkind)
  rw [hkind] at hrest
  obtain ⟨hid, htail⟩ :=
    Text.append_marked_inj (hkind ▸ ha.mark_not_mem) hb.mark_not_mem hrest
  rw [ha.isRegular.eq_ofTail, hb.isRegular.eq_ofTail, hkind, String.toList_inj.mp hid, htail]

/-- With a mark in its id, a key is shown as that of a placement or part of another resource. -/
theorem exists_text_eq_of_mark_mem {a : ResourceKey} (ha : a.IsRegular)
    (hmark : a.kind.mark ∈ a.id.toList) :
    ∃ b : ResourceKey, b.IsLegible ∧ b ≠ a ∧ b.text = a.text := by
  obtain ⟨before, after, hid, hbefore⟩ := List.eq_append_cons_of_mem hmark
  let tail := String.ofList (after ++ Text.marked a.kind.mark a.tail?)
  -- The other key has the id up to its first mark, and all the rest as what comes after the id.
  refine ⟨ofTail a.kind (String.ofList before) (some tail), ⟨ofTail_isRegular _ _ _, ?_⟩, ?_, ?_⟩
  · rw [kind_ofTail, id_ofTail, String.toList_ofList]
    exact hbefore
  · intro heq
    have hids := congrArg (fun k => k.id.toList.length) heq
    simp only [id_ofTail, String.toList_ofList, hid, List.length_append, List.length_cons] at hids
    omega
  · have htext : a.text = (ofTail a.kind a.id a.tail?).text := congrArg text ha.eq_ofTail
    rw [htext, ← String.toList_inj, toList_text_ofTail, toList_text_ofTail, hid,
      String.toList_ofList, List.append_assoc]
    simp only [tail, Text.marked, String.toList_ofList, List.cons_append]

end ResourceKey

/-! ## Keys in an answer -/

namespace Json

mutual

/-- The values of all members with a name, at any depth, in the order in which they are written. -/
def valuesOf (name : String) : Json → List Json
  | arr items => itemValuesOf name items
  | obj members => memberValuesOf name members
  | _ => []

def itemValuesOf (name : String) : List Json → List Json
  | [] => []
  | item :: rest => item.valuesOf name ++ itemValuesOf name rest

def memberValuesOf (name : String) : List (String × Json) → List Json
  | [] => []
  | (other, value) :: rest =>
      (if other = name then [value] else []) ++ value.valuesOf name ++ memberValuesOf name rest

end

theorem itemValuesOf_map {α : Type} {name : String} {item : α → Json} {value : α → Json}
    (h : ∀ x, (item x).valuesOf name = [value x]) (xs : List α) :
    itemValuesOf name (xs.map item) = xs.map value := by
  induction xs with
  | nil => rfl
  | cons x rest ih => rw [List.map_cons, itemValuesOf, h, ih, List.map_cons, List.singleton_append]

end Json

namespace Api

open Http (Request)

/-- The key of a record as a value. -/
def shownKey (e : StoreEntry) : Json := .str e.1.text

theorem valuesOf_view (e : StoreEntry) : (view e).valuesOf "key" = [shownKey e] := rfl

theorem valuesOf_listing (f : Fleet) :
    (Json.arr (f.store.entries.map view)).valuesOf "key" = f.store.entries.map shownKey :=
  Json.itemValuesOf_map valuesOf_view f.store.entries

theorem valuesOf_familyAnswer {key : ResourceKey} {family : List StoreEntry} {j : Json}
    (h : familyAnswer key family = .ok j) : j.valuesOf "key" = family.map shownKey := by
  cases family with
  | nil => cases h
  | cons own children =>
      cases h
      change shownKey own :: (Json.itemValuesOf "key" (children.map view) ++ []) = _
      rw [Json.itemValuesOf_map valuesOf_view, List.append_nil, List.map_cons]

/-- The keys in an answer are those of records that are stored, of each at most once. -/
def ShowsStored (f : Fleet) (j : Json) : Prop :=
  ∃ shown : List StoreEntry, shown.Nodup ∧ (∀ e ∈ shown, e ∈ f.store.entries) ∧
    j.valuesOf "key" = shown.map shownKey

theorem ShowsStored.of_eq_nil {f : Fleet} {j : Json} (h : j.valuesOf "key" = []) :
    ShowsStored f j :=
  ⟨[], List.nodup_nil, fun _ he => absurd he List.not_mem_nil, h⟩

section Answers

variable {f : Fleet} {around : Surroundings} {r : Request} {j : Json}

theorem reading_eq_ok {answer : Except Refusal Json} (h : reading r answer = .ok j) :
    answer = .ok j := by
  unfold reading at h
  split at h
  next => exact h
  next => cases h

theorem listing_showsStored : ShowsStored f (.arr (f.store.entries.map view)) :=
  ⟨f.store.entries, f.store.nodup_entries, fun _ he => he, valuesOf_listing f⟩

theorem resource_showsStored {kind id : List Char} (h : resource f kind id = .ok j) :
    ShowsStored f j := by
  cases hsegments : segments kind id with
  | error refusal => simp [resource, hsegments, bind, Except.bind] at h
  | ok named =>
      obtain ⟨word, name⟩ := named
      cases hkey : resourceKey word name with
      | error refusal => simp [resource, hsegments, hkey, bind, Except.bind] at h
      | ok key =>
          have hnames : Names kind id key := ⟨word, name, hsegments, hkey⟩
          rw [resource_of_names hnames] at h
          exact ⟨f.store.family key, Store.nodup_family hnames.isTopLevel,
            fun e he => ((Store.mem_family_iff hnames.isTopLevel).mp he).2.1,
            valuesOf_familyAnswer h⟩

theorem push_showsStored (h : (push f around r).2 = .ok j) : ShowsStored f j := by
  unfold push at h
  split at h
  next => cases h
  next =>
    split at h
    next => cases h
    next =>
      split at h
      next => cases h
      next =>
        split at h
        next =>
          cases h
          exact .of_eq_nil rfl
        next => cases h

theorem setDeploying_showsStored {kind id : List Char}
    (h : (setDeploying f around r kind id).2 = .ok j) : ShowsStored f j := by
  unfold setDeploying at h
  split at h
  next => cases h
  next =>
    split at h
    next => cases h
    next =>
      split at h
      next => cases h
      next =>
        cases h
        exact .of_eq_nil rfl

theorem answer_showsStored {path : List Char} (h : (answer f around r path).2 = .ok j) :
    ShowsStored f j := by
  unfold answer at h
  split at h
  next => cases h
  next =>
    obtain rfl := Except.ok.inj (reading_eq_ok h)
    exact .of_eq_nil rfl
  next =>
    obtain rfl := Except.ok.inj (reading_eq_ok h)
    exact listing_showsStored
  next => exact resource_showsStored (reading_eq_ok h)
  next => exact push_showsStored h
  next => exact setDeploying_showsStored h

theorem refusal_showsStored {refusal : Refusal} (h : refusal.body = .json j) : ShowsStored f j := by
  unfold Refusal.body at h
  split at h
  · cases h
  · cases h
    exact .of_eq_nil rfl
  · cases h

/-- Whatever is answered in JSON. -/
theorem respond_showsStored {g : Fleet} {response : Response}
    (h : respond f around r = some (g, response)) (hbody : response.body = .json j) :
    ShowsStored f j := by
  unfold respond at h
  split at h
  next => cases h
  next =>
    obtain ⟨path, -, hanswer⟩ := Option.map_eq_some_iff.mp h
    have hshows : ∀ value, (answer f around r path).2 = .ok value → ShowsStored f value :=
      fun _ => answer_showsStored
    generalize answer f around r path = answered at hanswer hshows
    obtain ⟨-, rfl⟩ := Prod.mk.inj hanswer
    split at hbody
    next => cases hbody
    next =>
      cases hresult : answered.2 with
      | ok value =>
          rw [hresult] at hbody
          cases hbody
          exact hshows j hresult
      | error refusal =>
          rw [hresult] at hbody
          exact refusal_showsStored hbody

/-- The list of all resources. -/
theorem respond_listing (hformed : r.isWellFormed = true) (hmethod : r.method = "GET")
    (hpath : Http.targetPath? r.target = some "/api/resources".toList) :
    respond f around r = some (f, ⟨200, .json (.arr (f.store.entries.map view))⟩) := by
  have hroute : Route.ofPath? "/api/resources".toList = some .resources := by decide +kernel
  have hanswer : answer f around r "/api/resources".toList =
      (f, .ok (.arr (f.store.entries.map view))) := by
    rw [answer, hroute]
    simp only [reading, hmethod, decide_true, Bool.true_or, if_true]
  rw [respond, hformed, hpath, Option.map_some, hanswer, hmethod]
  rfl

end Answers

end Api

/-! ## Keys of stored records -/

namespace Store

theorem eq_of_mem_entries {s : Store} {e e' : StoreEntry} (he : e ∈ s.entries)
    (he' : e' ∈ s.entries) (hkey : e.1 = e'.1) : e = e' := by
  have hget : s.get? e.1 = some e.2 := get?_eq_some_iff.mpr he
  have hget' : s.get? e'.1 = some e'.2 := get?_eq_some_iff.mpr he'
  rw [hkey] at hget
  exact Prod.ext hkey (Option.some.inj (hget.symm.trans hget'))

/-- Where all stored keys are legible, records are told apart by what is shown of their keys. -/
theorem nodup_map_shownKey {s : Store} (hs : ∀ e ∈ s.entries, e.1.IsLegible)
    {shown : List StoreEntry} (hshown : shown.Nodup) (hmem : ∀ e ∈ shown, e ∈ s.entries) :
    (shown.map Api.shownKey).Nodup := by
  apply hshown.map_on
  intro e he e' he' htext
  have htext : e.1.text = e'.1.text := Json.str.inj htext
  have hkey := ResourceKey.eq_of_text_eq (hs e (hmem e he)) (hs e' (hmem e' he')) htext
  exact eq_of_mem_entries (hmem e he) (hmem e' he') hkey

end Store

theorem Fleet.Reachable.isLegible {f : Fleet} (hf : Reachable f)
    (hids : ∀ k, (f.store.get? k).isSome → k.kind.mark ∉ k.id.toList) :
    ∀ e ∈ f.store.entries, e.1.IsLegible := by
  intro e he
  have hget : f.store.get? e.1 = some e.2 := Store.get?_eq_some_iff.mpr he
  exact ⟨(hf.recordable e.1 e.2 hget).isRegular, hids e.1 (Option.isSome_of_eq_some hget)⟩

/-- Keys are told apart by what is shown of them, as long as the ids of applications have no `@` and
those of services have no slash, whatever the names of servers and parts look like. So in every run
with such ids no answer shows two records under one key, and the list of all resources shows every
record under a key of its own. Other ids would not do: a key with the mark of its kind in its id is
shown as another one. -/
theorem shown_keys_identify :
    (∀ a b : ResourceKey, a.IsLegible → b.IsLegible → a.text = b.text → a = b) ∧
    (∀ a : ResourceKey, a.IsRegular → a.kind.mark ∈ a.id.toList →
      ∃ b : ResourceKey, b.IsLegible ∧ b ≠ a ∧ b.text = a.text) ∧
    ∀ f : Fleet, Fleet.Reachable f →
      (∀ k, (f.store.get? k).isSome → k.kind.mark ∉ k.id.toList) →
      (f.store.entries.map Api.shownKey).Nodup ∧
      ∀ around (r : Http.Request),
        (∀ g response j, Api.respond f around r = some (g, response) → response.body = .json j →
          (j.valuesOf "key").Nodup ∧
            ∀ value ∈ j.valuesOf "key", value ∈ f.store.entries.map Api.shownKey) ∧
        (r.isWellFormed = true → r.method = "GET" →
          Http.targetPath? r.target = some "/api/resources".toList →
            ∃ j, Api.respond f around r = some (f, ⟨200, .json j⟩) ∧
              j.valuesOf "key" = f.store.entries.map Api.shownKey) := by
  refine ⟨fun a b => ResourceKey.eq_of_text_eq, fun a => ResourceKey.exists_text_eq_of_mark_mem,
    fun f hf hids => ?_⟩
  have hlegible := hf.isLegible hids
  refine ⟨Store.nodup_map_shownKey hlegible f.store.nodup_entries fun _ he => he,
    fun around r => ⟨fun g response j hrespond hbody => ?_, fun hformed hmethod hpath => ?_⟩⟩
  · obtain ⟨shown, hnodup, hmem, hvalues⟩ := Api.respond_showsStored hrespond hbody
    rw [hvalues]
    refine ⟨Store.nodup_map_shownKey hlegible hnodup hmem, fun value hvalue => ?_⟩
    obtain ⟨e, he, rfl⟩ := List.mem_map.mp hvalue
    exact List.mem_map_of_mem (hmem e he)
  · exact ⟨_, Api.respond_listing hformed hmethod hpath, Api.valuesOf_listing f⟩

/-- Servers and a part with marks in their names. -/
def markedSettings : Settings where
  servers := [{ name := "edge@1", host := "10.0.0.5" }, { name := "@/", host := "10.0.0.6" }]
  applications := [{ id := "a/b", server := "edge@1", additionalServers := ["@/"] }]
  services := [{ id := "a@b", server := "edge@1", composePath := "mail.yml" }]

/-- The one container of the service. -/
def markedContainer : Observation :=
  { Fleet.mailContainer with
    service := some "c/d@1"
    labels := [(resourceLabel, "a@b"), (composeServiceLabel, "c/d@1")] }

/-- The resources have been checked and polled. -/
def markedFleet : Fleet :=
  let inspect : Inspector := fun _ => .ok [markedContainer]
  (((({ settings := markedSettings } : Fleet).check Fleet.noFiles inspect).1).poll Fleet.noFiles
    inspect).1

/-- An application whose id is that of the service could not be told from a placement. -/
theorem shown_keys_identify_marked :
    Fleet.Reachable markedFleet ∧
      (∀ k, (markedFleet.store.get? k).isSome → k.kind.mark ∉ k.id.toList) ∧
      (markedFleet.store.entries.map fun e => e.1.text) =
        ["application/a/b", "application/a/b@@/", "application/a/b@edge@1", "service/a@b",
          "service/a@b/c/d@1"] ∧
      (markedFleet.store.entries.map Api.shownKey).Nodup ∧
      ∃ b : ResourceKey, b.IsLegible ∧ b ≠ .application "a@b" ∧ b.text = "application/a@b" := by
  obtain ⟨-, hambiguous, hstored⟩ := shown_keys_identify
  have hf : Fleet.Reachable markedFleet :=
    .step (.step (.start markedSettings none) (.collect (.check _ _)))
      (.collect (.poll _ _ (.refl _)))
  have hentries : ∀ e ∈ markedFleet.store.entries, e.1.kind.mark ∉ e.1.id.toList := by
    decide +kernel
  have hids : ∀ k, (markedFleet.store.get? k).isSome → k.kind.mark ∉ k.id.toList := by
    intro k hk
    obtain ⟨r, hr⟩ := Option.isSome_iff_exists.mp hk
    exact hentries (k, r) (Store.get?_eq_some_iff.mp hr)
  exact ⟨hf, hids, by decide +kernel, (hstored markedFleet hf hids).1,
    hambiguous _ (.of_isTopLevel rfl) (by decide +kernel)⟩

end FleetWatch
