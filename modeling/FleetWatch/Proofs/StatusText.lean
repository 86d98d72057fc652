import FleetWatch.Proofs.DecisionTable
import FleetWatch.Proofs.Pieces
import Mathlib.Data.List.DropRight

/-! # Status texts

A status text is cut at its first opening parenthesis or, if there is none, at its colons. The base
that stands before the cut is all that a phase is read from, so the two written forms of a status
say the same, and behind a parenthesis any text may follow. Behind a colon any text may follow that
has no opening parenthesis; with one, the text is cut there and no base is left.
-/

namespace FleetWatch

namespace Text

/-! ## White space and letter case -/

section Blank

/-- The letters are two ranges of code points. -/
theorem isAlpha_iff {c : Char} :
    c.isAlpha = true ↔ 65 ≤ c.toNat ∧ c.toNat ≤ 90 ∨ 97 ≤ c.toNat ∧ c.toNat ≤ 122 := by
  have hupper : c.isUpper = true ↔ 65 ≤ c.toNat ∧ c.toNat ≤ 90 := decide_eq_true_iff
  have hlower : c.isLower = true ↔ 97 ≤ c.toNat ∧ c.toNat ≤ 122 :=
    Bool.and_eq_true_iff.trans (and_congr decide_eq_true_iff decide_eq_true_iff)
  rw [← hupper, ← hlower]
  exact Bool.or_eq_true_iff

/-- In lower case the first range is moved onto the second. -/
theorem toNat_toLower (c : Char) :
    c.toLower.toNat = if 65 ≤ c.toNat ∧ c.toNat ≤ 90 then c.toNat + 32 else c.toNat := by
  have hupper : c.val ≥ 'A'.val ∧ c.val ≤ 'Z'.val ↔ 65 ≤ c.toNat ∧ c.toNat ≤ 90 := Iff.rfl
  unfold Char.toLower
  split
  case isTrue h =>
    have hrange := hupper.mp h
    rw [if_pos hrange]
    change (c.toNat + 32) % 2 ^ 32 = c.toNat + 32
    omega
  case isFalse h => rw [if_neg (mt hupper.mpr h)]

@[simp] theorem isAlpha_toLower (c : Char) : c.toLower.isAlpha = c.isAlpha := by
  rw [Bool.eq_iff_iff, isAlpha_iff, isAlpha_iff, toNat_toLower]
  split <;> omega

@[simp] theorem toLower_toLower (c : Char) : c.toLower.toLower = c.toLower := by
  have hcode := toNat_toLower c
  rw [← Char.toNat_inj, toNat_toLower c.toLower, if_neg]
  split at hcode <;> omega

theorem toLower_eq_iff_of_not_isAlpha {c d : Char} (hd : d.isAlpha = false) :
    c.toLower = d ↔ c = d := by
  have hletters := mt isAlpha_iff.mpr (Bool.eq_false_iff.mp hd)
  rw [← Char.toNat_inj, ← Char.toNat_inj, toNat_toLower]
  split <;> omega

theorem isBlank_of_isAlpha {c : Char} (h : c.isAlpha = true) : isBlank c = false := by
  have hletters := isAlpha_iff.mp h
  simp only [isBlank, Bool.or_eq_false_iff, Bool.and_eq_false_iff, decide_eq_false_iff_not,
    beq_eq_false_iff_ne]
  omega

theorem isBlank_toLower (c : Char) : isBlank c.toLower = isBlank c := by
  cases halpha : c.isAlpha with
  | true =>
      have hlower : c.toLower.isAlpha = true := by rw [isAlpha_toLower, halpha]
      rw [isBlank_of_isAlpha halpha, isBlank_of_isAlpha hlower]
  | false => rw [(toLower_eq_iff_of_not_isAlpha halpha).mpr rfl]

theorem mem_lowerAscii_iff {d : Char} (hd : d.isAlpha = false) {s : List Char} :
    d ∈ lowerAscii s ↔ d ∈ s := by
  simp [lowerAscii, toLower_eq_iff_of_not_isAlpha hd]

theorem lowerAscii_append (s t : List Char) :
    lowerAscii (s ++ t) = lowerAscii s ++ lowerAscii t := List.map_append

theorem lowerAscii_append_cons {sep : Char} (hsep : sep.toLower = sep) (s t : List Char) :
    lowerAscii (s ++ sep :: t) = lowerAscii s ++ sep :: lowerAscii t := by
  simp [lowerAscii, hsep]

theorem lowerAscii_upTo {sep : Char} (hsep : sep.isAlpha = false) (s : List Char) :
    lowerAscii (upTo sep s) = upTo sep (lowerAscii s) := by
  have hend : (fun c => decide (c ≠ sep)) ∘ Char.toLower = fun c => decide (c ≠ sep) := by
    funext c
    simp [toLower_eq_iff_of_not_isAlpha hsep]
  rw [upTo, upTo, lowerAscii, lowerAscii, List.takeWhile_map, hend]

theorem lowerAscii_lowerAscii (s : List Char) : lowerAscii (lowerAscii s) = lowerAscii s := by
  simp [lowerAscii]

theorem lowerAscii_trimChars (s : List Char) :
    lowerAscii (trimChars s) = trimChars (lowerAscii s) := by
  have hblank : isBlank ∘ Char.toLower = isBlank := funext isBlank_toLower
  simp only [lowerAscii, trimChars, dropEnd, dropStart, ← List.map_reverse, List.dropWhile_map,
    hblank]

variable {w : List Char} (hw : ∀ c ∈ w, isBlank c = true)
include hw

theorem not_mem_of_blank {c : Char} (hc : isBlank c = false) : c ∉ w := by
  intro hmem
  simp [hw c hmem] at hc

theorem lowerAscii_blank : ∀ c ∈ lowerAscii w, isBlank c = true := by
  simpa [lowerAscii, isBlank_toLower] using hw

theorem dropEnd_isBlank_append (s : List Char) :
    dropEnd isBlank (s ++ w) = dropEnd isBlank s := by
  rw [dropEnd, List.reverse_append, List.dropWhile_append_of_pos, dropEnd]
  simpa using hw

theorem trimChars_append (s : List Char) : trimChars (s ++ w) = trimChars s := by
  unfold trimChars dropStart
  rw [List.dropWhile_append]
  split
  next h => rw [List.dropWhile_eq_nil_iff.mpr hw, List.isEmpty_iff.mp h]
  next => exact dropEnd_isBlank_append hw _

theorem trimChars_blank_append (s : List Char) : trimChars (w ++ s) = trimChars s := by
  rw [trimChars, dropStart, List.dropWhile_append_of_pos hw, trimChars, dropStart]

end Blank

/-- Trimming takes white space away at both ends. -/
theorem exists_eq_append_trimChars (s : List Char) :
    ∃ before after, (∀ c ∈ before, isBlank c = true) ∧ (∀ c ∈ after, isBlank c = true) ∧
      s = before ++ trimChars s ++ after := by
  refine ⟨s.takeWhile isBlank, (dropStart isBlank s).rtakeWhile isBlank, ?_, ?_, ?_⟩
  · exact fun c hc => List.mem_takeWhile_imp hc
  · exact fun c hc => List.mem_rtakeWhile_imp hc
  · have hend : trimChars s ++ (dropStart isBlank s).rtakeWhile isBlank = dropStart isBlank s :=
      List.rdropWhile_append_rtakeWhile
    rw [List.append_assoc, hend]
    exact List.takeWhile_append_dropWhile.symm

theorem trimChars_trimChars (s : List Char) : trimChars (trimChars s) = trimChars s := by
  obtain ⟨before, after, hbefore, hafter, hs⟩ := exists_eq_append_trimChars s
  conv_rhs => rw [hs, trimChars_append hafter, trimChars_blank_append hbefore]

/-- Trimming takes away nothing but white space. -/
theorem mem_trimChars_iff {c : Char} (hc : isBlank c = false) {s : List Char} :
    c ∈ trimChars s ↔ c ∈ s := by
  obtain ⟨before, after, hbefore, hafter, hs⟩ := exists_eq_append_trimChars s
  conv_rhs => rw [hs]
  simp [not_mem_of_blank hbefore hc, not_mem_of_blank hafter hc]

/-- The second text is the first one with white space around it. -/
def Padded (s padded : String) : Prop :=
  ∃ before after, isBlankText before = true ∧ isBlankText after = true ∧
    padded = before ++ s ++ after

section Padded

variable {s padded : String} (h : Padded s padded)
include h

theorem Padded.trimChars_lowerAscii :
    trimChars (lowerAscii padded.toList) = trimChars (lowerAscii s.toList) := by
  obtain ⟨before, after, hbefore, hafter, rfl⟩ := h
  have hbefore := lowerAscii_blank (List.all_eq_true.mp hbefore)
  have hafter := lowerAscii_blank (List.all_eq_true.mp hafter)
  simp only [String.toList_append, lowerAscii_append, trimChars_append hafter,
    trimChars_blank_append hbefore]

theorem Padded.not_mem {c : Char} (hc : isBlank c = false) (hs : c ∉ s.toList) :
    c ∉ padded.toList := by
  obtain ⟨before, after, hbefore, hafter, rfl⟩ := h
  have hbefore := not_mem_of_blank (List.all_eq_true.mp hbefore) hc
  have hafter := not_mem_of_blank (List.all_eq_true.mp hafter) hc
  simp [hbefore, hafter, hs]

end Padded

/-- What stands before the last closing parenthesis is kept, whatever white space follows it. -/
theorem dropEnd_closing {inner w : List Char} (hinner : ')' ∉ inner)
    (hw : ∀ c ∈ w, isBlank c = true) :
    dropEnd (· == ')') (dropEnd isBlank (inner ++ ')' :: w)) = inner := by
  have hblank : dropEnd isBlank (inner ++ ')' :: w) = inner ++ [')'] := by
    rw [List.append_cons, dropEnd_isBlank_append hw]
    exact List.rdropWhile_concat_neg _ _ _ (by decide)
  rw [hblank]
  change List.rdropWhile _ (inner ++ [')']) = inner
  rw [List.rdropWhile_concat_pos _ _ _ (by decide), List.rdropWhile_eq_self_iff]
  intro hne
  simpa using ne_of_mem_of_not_mem (List.getLast_mem hne) hinner

/-- What is left of a qualifier whose parenthesis is not closed. -/
theorem trimChars_unclosed {s : List Char} (hclose : ')' ∉ s) (hcomma : ',' ∉ s) :
    trimChars (upTo ',' (dropEnd (· == ')') (dropEnd isBlank s))) = trimChars s := by
  obtain ⟨w, hw, hs⟩ : ∃ w, (∀ c ∈ w, isBlank c = true) ∧ dropEnd isBlank s ++ w = s :=
    ⟨s.rtakeWhile isBlank, fun c hc => List.mem_rtakeWhile_imp hc,
      List.rdropWhile_append_rtakeWhile⟩
  have hsub : ∀ c ∈ dropEnd isBlank s, c ∈ s := by
    intro c hc
    rw [← hs]
    exact List.mem_append_left _ hc
  have hend : dropEnd (· == ')') (dropEnd isBlank s) = dropEnd isBlank s := by
    refine List.rdropWhile_eq_self_iff.mpr fun hne => ?_
    simpa using ne_of_mem_of_not_mem (hsub _ (List.getLast_mem hne)) hclose
  rw [hend, upTo_of_not_mem fun hmem => hcomma (hsub _ hmem)]
  conv_rhs => rw [← hs, trimChars_append hw]

end Text

theorem Lifecycle.text_of_ofText? {word : String} {state : Lifecycle}
    (h : Lifecycle.ofText? word = some state) : word = state.text := by
  unfold Lifecycle.ofText? at h
  split at h <;> cases h <;> rfl

namespace StatusToken

open Text

/-! ## Cutting a status text -/

/-- A text with an opening parenthesis is cut at the first one. -/
theorem split_parenthesis {base : List Char} (hbase : '(' ∉ base) (rest : List Char) :
    split (base ++ '(' :: rest) =
      (trimChars base,
        some (trimChars (upTo ',' (dropEnd (· == ')') (dropEnd isBlank rest))))) := by
  simp only [split, cut_append hbase]

/-- A text without an opening parenthesis is cut at its colons, of which two matter. -/
theorem split_colon {base rest : List Char} (hbase : '(' ∉ base) (hcolon : ':' ∉ base)
    (hrest : '(' ∉ rest) :
    split (base ++ ':' :: rest) = (trimChars base, some (trimChars (upTo ':' rest))) := by
  have hnone : '(' ∉ base ++ ':' :: rest := by simp [hbase, hrest]
  obtain ⟨more, hmore⟩ := exists_fieldsOf_eq_cons ':' rest
  simp only [split, cut_of_not_mem hnone, fieldsOf_append hcolon, hmore]

theorem split_plain {s : List Char} (hparenthesis : '(' ∉ s) (hcolon : ':' ∉ s) :
    split s = (trimChars s, none) := by
  simp only [split, cut_of_not_mem hparenthesis, fieldsOf_of_not_mem hcolon]

/-- A text is cut at its first opening parenthesis, or else at its first colon, or not at all. -/
theorem exists_cut (s : List Char) :
    (∃ base rest, s = base ++ '(' :: rest ∧ '(' ∉ base) ∨
      '(' ∉ s ∧ ((∃ base rest, s = base ++ ':' :: rest ∧ ':' ∉ base) ∨ ':' ∉ s) := by
  by_cases hparenthesis : '(' ∈ s
  · exact .inl (List.eq_append_cons_of_mem hparenthesis)
  · refine .inr ⟨hparenthesis, ?_⟩
    by_cases hcolon : ':' ∈ s
    · exact .inl (List.eq_append_cons_of_mem hcolon)
    · exact .inr hcolon

theorem trimChars_upTo_append {w : List Char} (hw : ∀ c ∈ w, isBlank c = true) {sep : Char}
    (hsep : isBlank sep = false) (s : List Char) :
    trimChars (upTo sep (s ++ w)) = trimChars (upTo sep s) := by
  by_cases hmem : sep ∈ s
  · obtain ⟨before, after, rfl, hbefore⟩ := List.eq_append_cons_of_mem hmem
    rw [List.append_assoc, List.cons_append, upTo_append hbefore, upTo_append hbefore]
  · have happend : sep ∉ s ++ w := by simp [hmem, not_mem_of_blank hw hsep]
    rw [upTo_of_not_mem hmem, upTo_of_not_mem happend, trimChars_append hw]

/-- White space around a text does not matter to what it is cut into. -/
theorem split_padded {before after : List Char} (hbefore : ∀ c ∈ before, isBlank c = true)
    (hafter : ∀ c ∈ after, isBlank c = true) (s : List Char) :
    split (before ++ s ++ after) = split s := by
  have hparenthesis : '(' ∉ before := not_mem_of_blank hbefore (by decide)
  have hcolon : ':' ∉ before := not_mem_of_blank hbefore (by decide)
  have hparenthesis' : '(' ∉ after := not_mem_of_blank hafter (by decide)
  have hcolon' : ':' ∉ after := not_mem_of_blank hafter (by decide)
  obtain ⟨base, rest, rfl, hbase⟩ | ⟨hs, ⟨base, rest, rfl, hbase⟩ | hplain⟩ := exists_cut s
  · have hcut : before ++ (base ++ '(' :: rest) ++ after =
        (before ++ base) ++ '(' :: (rest ++ after) := by simp
    rw [hcut, split_parenthesis (by simp [hparenthesis, hbase]), split_parenthesis hbase,
      trimChars_blank_append hbefore, dropEnd_isBlank_append hafter]
  · have hcut : before ++ (base ++ ':' :: rest) ++ after =
        (before ++ base) ++ ':' :: (rest ++ after) := by simp
    simp only [List.mem_append, List.mem_cons, not_or] at hs
    rw [hcut, split_colon (by simp [hparenthesis, hs]) (by simp [hcolon, hbase])
        (by simp [hparenthesis', hs]), split_colon hs.1 hbase hs.2.2,
      trimChars_blank_append hbefore, trimChars_upTo_append hafter (by decide)]
  · rw [split_plain (by simp [hparenthesis, hparenthesis', hs])
        (by simp [hcolon, hcolon', hplain]), split_plain hs hplain, trimChars_append hafter,
      trimChars_blank_append hbefore]

/-- A status text may as well be cut before it is trimmed. -/
theorem parse?_eq (raw : String) :
    parse? raw =
      ofParts? (split (lowerAscii raw.toList)).1 (split (lowerAscii raw.toList)).2 := by
  obtain ⟨before, after, hbefore, hafter, hs⟩ :=
    exists_eq_append_trimChars (lowerAscii raw.toList)
  have hsplit : split (lowerAscii raw.toList) = split (trimChars (lowerAscii raw.toList)) := by
    conv_lhs => rw [hs, split_padded hbefore hafter]
  rw [parse?, lowerAscii_trimChars, hsplit]

theorem parse?_eq_of_parenthesis {raw : String} (before after : List Char)
    (hraw : raw.toList = before ++ '(' :: after) (hbefore : '(' ∉ before) :
    parse? raw =
      ofParts? (trimChars (lowerAscii before))
        (some (trimChars (upTo ','
          (dropEnd (· == ')') (dropEnd isBlank (lowerAscii after)))))) := by
  have hlower : lowerAscii raw.toList = lowerAscii before ++ '(' :: lowerAscii after := by
    rw [hraw, lowerAscii_append_cons (by decide)]
  rw [parse?_eq, hlower, split_parenthesis]
  rwa [mem_lowerAscii_iff (by decide)]

/-- What is written in parentheses is cut at its first comma. -/
theorem parse?_eq_of_closed {raw : String} (before inner after : List Char)
    (hraw : raw.toList = before ++ '(' :: (inner ++ ')' :: after)) (hbefore : '(' ∉ before)
    (hinner : ')' ∉ inner) (hafter : ∀ c ∈ after, isBlank c = true) :
    parse? raw =
      ofParts? (trimChars (lowerAscii before))
        (some (trimChars (lowerAscii (upTo ',' inner)))) := by
  have hclosed : ')' ∉ lowerAscii inner := by rwa [mem_lowerAscii_iff (by decide)]
  rw [parse?_eq_of_parenthesis before _ hraw hbefore, lowerAscii_append_cons (by decide),
    dropEnd_closing hclosed (lowerAscii_blank hafter), lowerAscii_upTo (by decide)]

theorem parse?_eq_of_unclosed {raw : String} (before after : List Char)
    (hraw : raw.toList = before ++ '(' :: after) (hbefore : '(' ∉ before) (hclose : ')' ∉ after)
    (hcomma : ',' ∉ after) :
    parse? raw =
      ofParts? (trimChars (lowerAscii before)) (some (trimChars (lowerAscii after))) := by
  rw [parse?_eq_of_parenthesis before after hraw hbefore, trimChars_unclosed]
  · rwa [mem_lowerAscii_iff (by decide)]
  · rwa [mem_lowerAscii_iff (by decide)]

theorem parse?_eq_of_colon {raw : String} (before after : List Char)
    (hraw : raw.toList = before ++ ':' :: after) (hbefore : '(' ∉ before) (hcolon : ':' ∉ before)
    (hafter : '(' ∉ after) :
    parse? raw =
      ofParts? (trimChars (lowerAscii before))
        (some (trimChars (lowerAscii (upTo ':' after)))) := by
  have hlower : lowerAscii raw.toList = lowerAscii before ++ ':' :: lowerAscii after := by
    rw [hraw, lowerAscii_append_cons (by decide)]
  rw [parse?_eq, hlower, split_colon, lowerAscii_upTo (by decide)]
  · rwa [mem_lowerAscii_iff (by decide)]
  · rwa [mem_lowerAscii_iff (by decide)]
  · rwa [mem_lowerAscii_iff (by decide)]

theorem parse?_eq_of_plain {raw : String} (hparenthesis : '(' ∉ raw.toList)
    (hcolon : ':' ∉ raw.toList) :
    parse? raw = ofParts? (trimChars (lowerAscii raw.toList)) none := by
  rw [parse?_eq, split_plain]
  · rwa [mem_lowerAscii_iff (by decide)]
  · rwa [mem_lowerAscii_iff (by decide)]

/-! ## The base -/

/-- The base that a word names, whatever its case and the white space around it: a phase, or none
for `degraded`. -/
def baseOf? (word : String) : Option (Option Lifecycle) :=
  if normalWord word = "degraded" then some none else (Lifecycle.parse? word).map some

theorem normalWord_eq (word : String) :
    normalWord word = String.ofList (trimChars (lowerAscii word.toList)) := by
  rw [normalWord, lowerAscii_trimChars]

theorem baseOf?_of_padded {word padded : String} (h : Padded word padded) :
    baseOf? padded = baseOf? word := by
  have hnormal : normalWord padded = normalWord word := by
    rw [normalWord_eq, normalWord_eq, h.trimChars_lowerAscii]
  rw [baseOf?, baseOf?, Lifecycle.parse?, Lifecycle.parse?, hnormal]

/-- What stands before the cut decides which base a text is read with. -/
theorem map_state?_ofParts? (word : List Char) (qualifier : Option (List Char)) :
    (ofParts? (trimChars (lowerAscii word)) qualifier).map state? =
      baseOf? (String.ofList word) := by
  have hnormal : normalWord (String.ofList word) =
      String.ofList (trimChars (lowerAscii word)) := by
    rw [normalWord_eq, String.toList_ofList]
  have hagain : normalWord (String.ofList (trimChars (lowerAscii word))) =
      String.ofList (trimChars (lowerAscii word)) := by
    rw [normalWord_eq, String.toList_ofList, lowerAscii_trimChars, trimChars_trimChars,
      lowerAscii_lowerAscii]
  unfold ofParts? baseOf? Lifecycle.parse?
  rw [hagain, hnormal]
  split
  · rfl
  · rw [Option.map_map]
    rfl

/-- A word that is read as one of letters is made of letters, with white space around them. -/
theorem isAlpha_of_normalWord {word text : String} (h : normalWord word = text)
    (htext : text.toList.all Char.isAlpha = true) {c : Char} (hmem : c ∈ word.toList)
    (hblank : isBlank c = false) : c.isAlpha = true := by
  have hlower : c.toLower ∈ (normalWord word).toList := by
    rw [normalWord_eq, String.toList_ofList, mem_trimChars_iff (by rwa [isBlank_toLower])]
    exact List.mem_map_of_mem hmem
  rw [h] at hlower
  rw [← isAlpha_toLower]
  exact List.all_eq_true.mp htext _ hlower

theorem isAlpha_of_baseOf? {word : String} {base : Option Lifecycle} (h : baseOf? word = some base)
    {c : Char} (hmem : c ∈ word.toList) (hblank : isBlank c = false) : c.isAlpha = true := by
  by_cases hdegraded : normalWord word = "degraded"
  · exact isAlpha_of_normalWord hdegraded (by decide) hmem hblank
  · rw [baseOf?, if_neg hdegraded] at h
    obtain ⟨state, hstate, -⟩ := Option.map_eq_some_iff.mp h
    have hletters : state.text.toList.all Char.isAlpha = true := by cases state <;> decide
    exact isAlpha_of_normalWord (Lifecycle.text_of_ofText? hstate) hletters hmem hblank

/-- No base has a separator in it. -/
theorem not_mem_of_baseOf? {c : Char} (hc : c = '(' ∨ c = ':') {word : String}
    {base : Option Lifecycle} (h : baseOf? word = some base) : c ∉ word.toList := by
  intro hmem
  rcases hc with rfl | rfl
  · cases isAlpha_of_baseOf? h hmem (by decide)
  · cases isAlpha_of_baseOf? h hmem (by decide)

/-- Behind a base and a parenthesis any text may follow, and the base is read. Behind a base and a
colon any text may follow that has no opening parenthesis; with one, no base is left to be read. -/
theorem base_read_unless_parenthesis {word : String} {base : Option Lifecycle}
    (hbase : baseOf? word = some base) (tail : String) :
    (parse? (word ++ " (" ++ tail)).map state? = some base ∧
      (parse? (word ++ ":" ++ tail)).map state? =
        if '(' ∈ tail.toList then none else some base := by
  have hparenthesis := not_mem_of_baseOf? (.inl rfl) hbase
  have hcolon := not_mem_of_baseOf? (.inr rfl) hbase
  constructor
  · have hspace : Padded word (String.ofList (word.toList ++ [' '])) :=
      ⟨"", " ", by decide, by decide, by simp⟩
    rw [parse?_eq_of_parenthesis (word.toList ++ [' ']) tail.toList (by simp)
        (by simp [hparenthesis]), map_state?_ofParts?, baseOf?_of_padded hspace, hbase]
  · split
    next htail =>
      -- The base is taken to reach up to the parenthesis, and so it has a colon in it.
      obtain ⟨before, after, htail, hbefore⟩ := List.eq_append_cons_of_mem htail
      rw [parse?_eq_of_parenthesis (word.toList ++ ':' :: before) after (by simp [htail])
          (by simp [hparenthesis, hbefore]), map_state?_ofParts?, Option.eq_none_iff_forall_ne_some]
      intro base' hbase'
      exact not_mem_of_baseOf? (.inr rfl) hbase' (by simp)
    next htail =>
      rw [parse?_eq_of_colon word.toList tail.toList (by simp) hparenthesis hcolon htail,
        map_state?_ofParts?, String.ofList_toList, hbase]

/-- What follows in parentheses may be anything, and so may be what follows behind a colon as long
as it has none. -/
theorem base_read_unless_parenthesis_shop :
    baseOf? "\tExited" = some (some .exited) ∧
      (parse? ("\tExited" ++ " (" ++ "137), (:")).map state? = some (some .exited) ∧
      (parse? ("\tExited" ++ ":" ++ "137), :")).map state? = some (some .exited) ∧
      (parse? ("\tExited" ++ ":" ++ "since (137)")).map state? = none := by
  have hbase : baseOf? "\tExited" = some (some .exited) := by decide +kernel
  refine ⟨hbase, (base_read_unless_parenthesis hbase _).1, ?_, ?_⟩
  · rw [(base_read_unless_parenthesis hbase _).2, if_neg (by decide)]
  · rw [(base_read_unless_parenthesis hbase _).2, if_pos (by decide)]

/-- A container that has exited is overlooked beside a healthy one, because its exit code follows
behind a colon in parentheses. -/
theorem base_lost_behind_parenthesis :
    (baseOf? "exited" = some (some .exited) ∧
      parse? ("exited" ++ ":" ++ "unknown (137)") = none) ∧
    Status.ofTexts ["running:healthy", "exited:unknown (137)"] 0 = .running .healthy ∧
      Status.ofTexts ["running:healthy", "exited:unknown"] 0 = .degraded := by
  decide +kernel

/-! ## The two forms -/

/-- The form with parentheses and the form with colons are read as the same token, whatever white
space is around the whole text, before the parenthesis and around the qualifier. -/
theorem parenthesized_eq_colons {base qualifier tail : String}
    (hbase : '(' ∉ base.toList ∧ ':' ∉ base.toList)
    (hqualifier : '(' ∉ qualifier.toList ∧ ')' ∉ qualifier.toList ∧ ',' ∉ qualifier.toList ∧
      ':' ∉ qualifier.toList)
    (htail : '(' ∉ tail.toList ∧ ')' ∉ tail.toList) {b b' q q' after after' : String}
    (hb : Padded base b) (hb' : Padded base b') (hq : Padded qualifier q)
    (hq' : Padded qualifier q') (hafter : isBlankText after = true)
    (hafter' : isBlankText after' = true) :
    parse? (b ++ "(" ++ q ++ ")" ++ after) = parse? (b' ++ ":" ++ q') ∧
      parse? (b ++ "(" ++ q ++ ", " ++ tail ++ ")" ++ after) =
        parse? (b' ++ ":" ++ q' ++ ":" ++ tail ++ after') := by
  obtain ⟨hopen, hclose, hcomma, hcolon⟩ := hqualifier
  have hblank : ∀ c ∈ after.toList, isBlank c = true := List.all_eq_true.mp hafter
  have hbefore : '(' ∉ b.toList := hb.not_mem (by decide) hbase.1
  have hbefore' : '(' ∉ b'.toList := hb'.not_mem (by decide) hbase.1
  have hcolon' : ':' ∉ b'.toList := hb'.not_mem (by decide) hbase.2
  have hclosed : ')' ∉ q.toList := hq.not_mem (by decide) hclose
  have hopened : '(' ∉ q'.toList := hq'.not_mem (by decide) hopen
  have hcomma : ',' ∉ q.toList := hq.not_mem (by decide) hcomma
  have hcolon : ':' ∉ q'.toList := hq'.not_mem (by decide) hcolon
  have hsame : ofParts? (trimChars (lowerAscii b.toList)) (some (trimChars (lowerAscii q.toList))) =
      ofParts? (trimChars (lowerAscii b'.toList)) (some (trimChars (lowerAscii q'.toList))) := by
    rw [hb.trimChars_lowerAscii, hb'.trimChars_lowerAscii, hq.trimChars_lowerAscii,
      hq'.trimChars_lowerAscii]
  constructor
  · rw [parse?_eq_of_closed b.toList q.toList after.toList (by simp) hbefore hclosed hblank,
      upTo_of_not_mem hcomma, hsame,
      parse?_eq_of_colon b'.toList q'.toList (by simp) hbefore' hcolon' hopened,
      upTo_of_not_mem hcolon]
  · have hinner : ')' ∉ q.toList ++ ',' :: ' ' :: tail.toList := by simp [hclosed, htail.2]
    have hblank' : '(' ∉ after'.toList :=
      not_mem_of_blank (List.all_eq_true.mp hafter') (by decide)
    have hrest : '(' ∉ q'.toList ++ ':' :: (tail.toList ++ after'.toList) := by
      simp [hopened, htail.1, hblank']
    rw [parse?_eq_of_closed b.toList _ after.toList (by simp) hbefore hinner hblank,
      upTo_append hcomma, hsame,
      parse?_eq_of_colon b'.toList _ (by simp) hbefore' hcolon' hrest, upTo_append hcolon]

/-- A running and healthy container in either form, with white space in all places of the first. -/
theorem parenthesized_eq_colons_shop :
    parse? ("\tRunning\u00A0" ++ "(" ++ " HEALTHY\n" ++ ")" ++ " ") =
        parse? ("Running" ++ ":" ++ "HEALTHY") ∧
      parse? ("\tRunning\u00A0" ++ "(" ++ " HEALTHY\n" ++ ", " ++ "excluded" ++ ")" ++ " ") =
        parse? ("Running" ++ ":" ++ "HEALTHY" ++ ":" ++ "excluded" ++ "") ∧
      parse? ("Running" ++ ":" ++ "HEALTHY") = some (.container .running (some .healthy)) := by
  obtain ⟨hshort, hlong⟩ := @parenthesized_eq_colons "Running" "HEALTHY" "excluded" (by decide)
    (by decide) (by decide) "\tRunning\u00A0" "Running" " HEALTHY\n" "HEALTHY" " " ""
    ⟨"\t", "\u00A0", by decide⟩ ⟨"", "", by decide⟩ ⟨" ", "\n", by decide⟩ ⟨"", "", by decide⟩
    (by decide) (by decide)
  exact ⟨hshort, hlong, by decide +kernel⟩

end StatusToken

end FleetWatch
