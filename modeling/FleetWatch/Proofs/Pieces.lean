import FleetWatch.Text.Fields
import Mathlib.Data.List.Basic
import Mathlib.Data.List.TakeWhile

/-! # Pieces of a text

A text is cut at a separator, at the first one or at all of them. The pieces of a text, joined by
separators, are the text again, and texts that are joined are cut into the same texts as long as
none of them has the separator in it.
-/

namespace FleetWatch.Text

section Pieces

variable {sep : Char} {s : List Char}

theorem cut_of_not_mem (h : sep ∉ s) : cut sep s = none := by
  induction s with
  | nil => rfl
  | cons c rest ih =>
      rw [List.mem_cons, not_or] at h
      simp [cut, Ne.symm h.1, ih h.2]

theorem cut_append (h : sep ∉ s) (rest : List Char) :
    cut sep (s ++ sep :: rest) = some (s, rest) := by
  induction s with
  | nil => simp [cut]
  | cons c more ih =>
      rw [List.mem_cons, not_or] at h
      simp [cut, Ne.symm h.1, ih h.2]

theorem fieldsOf_eq_splitOn (sep : Char) (s : List Char) : fieldsOf sep s = s.splitOn sep := by
  induction s with
  | nil => rfl
  | cons c rest ih =>
      obtain ⟨first, more, hfields⟩ := List.exists_cons_of_ne_nil (fieldsOf_ne_nil sep rest)
      rw [List.splitOn_cons_eq_if_modifyHead, ← ih, fieldsOf, hfields]
      simp only [beq_iff_eq, List.modifyHead_cons]

theorem fieldsOf_of_not_mem (h : sep ∉ s) : fieldsOf sep s = [s] := by
  rw [fieldsOf_eq_splitOn, List.splitOn_eq_singleton h]

theorem fieldsOf_append (h : sep ∉ s) (rest : List Char) :
    fieldsOf sep (s ++ sep :: rest) = s :: fieldsOf sep rest := by
  simp only [fieldsOf_eq_splitOn, List.splitOn_append_cons_self_of_not_mem h]

theorem upTo_of_not_mem (h : sep ∉ s) : upTo sep s = s := by
  rw [upTo, List.takeWhile_eq_self_iff]
  intro c hc
  simpa using ne_of_mem_of_not_mem hc h

theorem upTo_append (h : sep ∉ s) (rest : List Char) : upTo sep (s ++ sep :: rest) = s := by
  rw [upTo, List.takeWhile_append_of_pos]
  · simp
  · intro c hc
    simpa using ne_of_mem_of_not_mem hc h

theorem not_mem_upTo {c : Char} (h : c ∉ s) : c ∉ upTo sep s :=
  fun hmem => h (List.takeWhile_subset _ hmem)

/-- The first piece ends at the first separator. -/
theorem exists_fieldsOf_eq_cons (sep : Char) (s : List Char) :
    ∃ more, fieldsOf sep s = upTo sep s :: more := by
  by_cases h : sep ∈ s
  · obtain ⟨before, after, rfl, hbefore⟩ := List.eq_append_cons_of_mem h
    exact ⟨_, by rw [fieldsOf_append hbefore, upTo_append hbefore]⟩
  · exact ⟨[], by rw [fieldsOf_of_not_mem h, upTo_of_not_mem h]⟩

theorem not_mem_of_mem_fieldsOf {piece : List Char} (h : piece ∈ fieldsOf sep s) :
    sep ∉ piece := by
  induction s generalizing piece with
  | nil => simp_all [fieldsOf]
  | cons c rest ih =>
      obtain ⟨first, more, hfields⟩ := List.exists_cons_of_ne_nil (fieldsOf_ne_nil sep rest)
      rw [hfields] at ih
      by_cases hsep : c = sep
      · rw [fieldsOf, if_pos hsep, hfields] at h
        rcases List.mem_cons.mp h with rfl | h
        · exact List.not_mem_nil
        · exact ih h
      · rw [fieldsOf, if_neg hsep, hfields] at h
        rcases List.mem_cons.mp h with rfl | h
        · exact List.not_mem_cons_of_ne_of_not_mem (Ne.symm hsep) (ih List.mem_cons_self)
        · exact ih (List.mem_cons_of_mem _ h)

end Pieces

/-! ## Joining -/

theorem toList_fields (sep : Char) (s : String) :
    (fields sep s).map String.toList = fieldsOf sep s.toList := by
  simp [fields, Function.comp_def]

/-- The pieces of a text, with separators between them, are the text. -/
theorem intercalate_fields (sep : Char) (s : String) :
    String.intercalate (String.singleton sep) (fields sep s) = s := by
  rw [← String.toList_inj, String.toList_intercalate, toList_fields, String.toList_singleton,
    fieldsOf_eq_splitOn, List.intercalate_splitOn]

/-- Texts without the separator, with separators between them, are cut into the same texts. -/
theorem fields_intercalate {sep : Char} {pieces : List String} (hne : pieces ≠ [])
    (h : ∀ piece ∈ pieces, sep ∉ piece.toList) :
    fields sep (String.intercalate (String.singleton sep) pieces) = pieces := by
  have hpieces : ∀ piece ∈ pieces.map String.toList, sep ∉ piece := by simpa using h
  rw [fields, String.toList_intercalate, String.toList_singleton, fieldsOf_eq_splitOn,
    List.splitOn_intercalate sep hpieces (by simpa using hne)]
  simp [Function.comp_def]

end FleetWatch.Text
