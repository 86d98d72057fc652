import FleetWatch.Proofs.Pieces
import FleetWatch.Status

/-! # The written form of a status

The written form is `<base>[:<qualifier>][:excluded]`. No part has a colon in it and no qualifier is
the word for excluded, so a status is read from its written form. Conversely the parts that a status
is read from are the parts of that status, so that it is read from nothing else: a tag that stands
twice or before a qualifier, an empty or a further part, another case or white space are refused.
-/

namespace FleetWatch

theorem Base.text_of_ofText? {word : String} {base : Base} (h : Base.ofText? word = some base) :
    word = base.text := by
  unfold Base.ofText? at h
  split at h <;> cases h <;> rfl

theorem Qualifier.text_of_ofText? {word : String} {qualifier : Qualifier}
    (h : Qualifier.ofText? word = some qualifier) : word = qualifier.text := by
  unfold Qualifier.ofText? at h
  split at h <;> cases h <;> rfl

theorem Qualifier.text_ne_excludedTag (qualifier : Qualifier) :
    qualifier.text ≠ Status.excludedTag := by
  cases qualifier <;> decide

namespace Status

/-! ## Parts -/

theorem colon_not_mem_parts (s : Status) : ∀ part ∈ s.parts, ':' ∉ part.toList := by
  obtain ⟨base, qualifier, excluded⟩ := s
  have hbase : ':' ∉ base.text.toList := by cases base <;> decide
  have hqualifier : ∀ q : Qualifier, ':' ∉ q.text.toList := by
    intro q
    cases q <;> decide
  have htag : ':' ∉ excludedTag.toList := by decide
  cases qualifier <;> cases excluded <;> simp [parts, hbase, hqualifier, htag]

theorem ofParts?_parts (s : Status) : ofParts? s.parts = some s := by
  obtain ⟨base, qualifier, excluded⟩ := s
  cases qualifier with
  | none => cases excluded <;> simp [parts, ofParts?, base.ofText?_text]
  | some q =>
      have htag := q.text_ne_excludedTag
      cases excluded <;> simp [parts, ofParts?, base.ofText?_text, q.ofText?_text, htag]

/-- Parts are read as the status that has these parts. -/
theorem parts_of_ofParts? {pieces : List String} {s : Status} (h : ofParts? pieces = some s) :
    s.parts = pieces := by
  unfold ofParts? at h
  split at h
  case h_1 word =>
    obtain ⟨base, hbase, h⟩ := Option.bind_eq_some_iff.mp h
    cases h
    rw [Base.text_of_ofText? hbase]
    rfl
  case h_2 word last =>
    obtain ⟨base, hbase, h⟩ := Option.bind_eq_some_iff.mp h
    rw [Base.text_of_ofText? hbase]
    split at h
    next htag =>
      cases h
      rw [htag]
      rfl
    next htag =>
      obtain ⟨qualifier, hqualifier, h⟩ := Option.bind_eq_some_iff.mp h
      cases h
      rw [Qualifier.text_of_ofText? hqualifier]
      rfl
  case h_3 word middle last =>
    obtain ⟨base, hbase, h⟩ := Option.bind_eq_some_iff.mp h
    obtain ⟨qualifier, hqualifier, h⟩ := Option.bind_eq_some_iff.mp h
    rw [Base.text_of_ofText? hbase, Qualifier.text_of_ofText? hqualifier]
    split at h
    next htag =>
      cases h
      rw [htag]
      rfl
    next htag => cases h
  case h_4 => cases h

/-! ## Texts -/

theorem parse?_written (s : Status) : parse? s.text = some s := by
  have hfields : Text.fields ':' s.text = s.parts :=
    Text.fields_intercalate (List.cons_ne_nil _ _) s.colon_not_mem_parts
  rw [parse?, hfields, ofParts?_parts]

theorem text_of_parse? {text : String} {s : Status} (h : parse? text = some s) :
    text = s.text := by
  rw [Status.text, parts_of_ofParts? h]
  exact (Text.intercalate_fields ':' text).symm

theorem parse?_eq_some_iff {text : String} {s : Status} :
    parse? text = some s ↔ text = s.text := by
  constructor
  · exact text_of_parse?
  · rintro rfl
    exact s.parse?_written

/-- A text is read as a status exactly when it is the written form of this status. Any other text
is refused, and the error carries it as it is. -/
theorem read_iff_written (text : String) :
    (∀ s, parse text = .ok s ↔ text = s.text) ∧
      ∀ e, parse text = .error e ↔ e = ⟨text⟩ ∧ ∀ s : Status, text ≠ s.text := by
  unfold parse
  cases hread : parse? text with
  | some status =>
      obtain rfl := text_of_parse? hread
      constructor
      · intro s
        rw [Except.ok.injEq, ← parse?_eq_some_iff, hread, Option.some.injEq]
      · intro e
        simp only [reduceCtorEq, false_iff, not_and, not_forall, not_not]
        exact fun _ => ⟨status, rfl⟩
  | none =>
      have hunwritten : ∀ s : Status, text ≠ s.text := by
        intro s hs
        rw [parse?_eq_some_iff.mpr hs] at hread
        cases hread
      constructor
      · intro s
        simp only [reduceCtorEq, hunwritten s]
      · intro e
        rw [Except.error.injEq, and_iff_left hunwritten, eq_comm]

/-- A tag stands once and at the end, and a part that is absent leaves no colon behind. -/
example : ["running:excluded", "running:excluded:excluded", "running:excluded:healthy", "running:",
      "Running:healthy", "running:healthy:excluded "].map parse? =
    [some ⟨.running, none, true⟩, none, none, none, none, none] := by
  decide +kernel

end Status

end FleetWatch
