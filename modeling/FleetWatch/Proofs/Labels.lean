import FleetWatch.Proofs.StatusText
import FleetWatch.Status.Label

/-! # Labels are read back

A label shows the base of a status with its first letter capitalized and the qualifier in
parentheses, which is the second of the two forms that a status text may have. Hence the label of a
text that has a token is read as the same token, as long as the text closes no parenthesis, lists
nothing behind a comma and spells its base without capital letters, before which a label puts
spaces.
-/

namespace FleetWatch

theorem Health.text_of_ofText? {word : String} {health : Health}
    (h : Health.ofText? word = some health) : word = health.text := by
  unfold Health.ofText? at h
  split at h <;> cases h <;> rfl

namespace Text

/-! ## Titles -/

/-- The text with a space before every upper-case character. -/
def spaced (w : List Char) : List Char := w.flatMap fun c => if isUpper c then [' ', c] else [c]

theorem spaced_cons (c : Char) (w : List Char) :
    spaced (c :: w) = (if isUpper c then [' ', c] else [c]) ++ spaced w := List.flatMap_cons

theorem spaced_append (w v : List Char) : spaced (w ++ v) = spaced w ++ spaced v :=
  List.flatMap_append

theorem spaced_of_forall {w : List Char} (h : ∀ c ∈ w, isUpper c = false) : spaced w = w := by
  induction w with
  | nil => rfl
  | cons c rest ih =>
      obtain ⟨hc, hrest⟩ := List.forall_mem_cons.mp h
      rw [spaced_cons, hc, ih hrest]
      rfl

theorem mem_spaced {c : Char} (hc : c ≠ ' ') {w : List Char} : c ∈ spaced w ↔ c ∈ w := by
  rw [spaced, List.mem_flatMap]
  constructor
  · rintro ⟨d, hd, hmem⟩
    split at hmem <;> simp_all
  · intro hmem
    refine ⟨c, hmem, ?_⟩
    split <;> simp

/-- The code points of the ASCII letters and of white space. -/
def plainCodes : List Nat :=
  List.range' 0x41 26 ++ List.range' 0x61 26 ++ List.range' 0x9 5 ++ List.range' 0x2000 11 ++
    [0x20, 0x85, 0xA0, 0x1680, 0x2028, 0x2029, 0x202F, 0x205F, 0x3000]

section Plain

variable {c : Char} (hc : isBlank c = true ∨ c.isAlpha = true)
include hc

theorem toNat_mem_plainCodes : c.toNat ∈ plainCodes := by
  simp only [isBlank, isAlpha_iff, Bool.or_eq_true, Bool.and_eq_true, decide_eq_true_eq,
    beq_iff_eq] at hc
  simp only [plainCodes, List.mem_append, List.mem_range'_1, List.mem_cons, List.not_mem_nil,
    or_false]
  omega

theorem lowerAscii_capital : lowerAscii (capital c) = [c.toLower] := by
  have hcodes : ∀ n ∈ plainCodes,
      lowerAscii (capital (Char.ofNat n)) = [(Char.ofNat n).toLower] := by decide +kernel
  have hcode := hcodes _ (toNat_mem_plainCodes hc)
  rwa [Char.ofNat_toNat] at hcode

/-- Among these characters only the letters from A to Z are upper case. -/
theorem isUpper_eq : isUpper c = c.isUpper := by
  have hcodes : ∀ n ∈ plainCodes, isUpper (Char.ofNat n) = (Char.ofNat n).isUpper := by
    decide +kernel
  have hcode := hcodes _ (toNat_mem_plainCodes hc)
  rwa [Char.ofNat_toNat] at hcode

end Plain

theorem headline_append {b : List Char} (hb : b ≠ []) (w : List Char) :
    headline (b ++ w) = headline b ++ spaced w := by
  cases b with
  | nil => exact absurd rfl hb
  | cons first rest =>
      change capital first ++ spaced (rest ++ w) = capital first ++ spaced rest ++ spaced w
      rw [spaced_append, List.append_assoc]

theorem headline_parenthesis {b : List Char} (hb : b ≠ []) (w : List Char) :
    headline (b ++ '(' :: w) = headline b ++ '(' :: spaced w := by
  have hparenthesis : isUpper '(' = false := by decide
  rw [headline_append hb, spaced_cons, hparenthesis]
  rfl

/-- A title differs from the word by no more than the case of its letters. -/
theorem lowerAscii_headline {w : List Char}
    (hplain : ∀ c ∈ w, isBlank c = true ∨ c.isAlpha = true)
    (hupper : ∀ c ∈ w.tail, c.isUpper = false) : lowerAscii (headline w) = lowerAscii w := by
  cases w with
  | nil => rfl
  | cons first rest =>
      obtain ⟨hfirst, hrest⟩ := List.forall_mem_cons.mp hplain
      have hspaced : spaced rest = rest :=
        spaced_of_forall fun c hc => (isUpper_eq (hrest c hc)).trans (hupper c hc)
      change lowerAscii (capital first ++ spaced rest) = lowerAscii (first :: rest)
      rw [hspaced, lowerAscii_append, lowerAscii_capital hfirst]
      rfl

/-! ## Labels -/

theorem labelOf_of_not_mem {s : String} (h : ':' ∉ s.toList)
    (hproxy : ("Proxy:".toList.isPrefixOf s.toList || s.isEmpty) = false) :
    (labelOf s).toList = headline s.toList := by
  rw [labelOf, hproxy, if_neg Bool.false_ne_true, fieldsOf_of_not_mem h]
  exact String.toList_ofList

/-- What a label shows in the parentheses is the qualifier, with a tag or without one. -/
theorem labelOf_of_colon {s : String} {base rest : List Char} (hs : s.toList = base ++ ':' :: rest)
    (hbase : ':' ∉ base)
    (hproxy : ("Proxy:".toList.isPrefixOf s.toList || s.isEmpty) = false) :
    ∃ tag, (tag = [] ∨ tag = ", excluded".toList) ∧
      (labelOf s).toList =
        headline base ++ ' ' :: '(' :: (upTo ':' rest ++ tag ++ ')' :: []) := by
  obtain ⟨more, hmore⟩ := exists_fieldsOf_eq_cons ':' rest
  rw [labelOf, hproxy, if_neg Bool.false_ne_true, hs, fieldsOf_append hbase, hmore]
  refine ⟨if more.head? = some Status.excludedTag.toList then ", excluded".toList else [], ?_, ?_⟩
  · split
    · exact .inr rfl
    · exact .inl rfl
  · have hopen : " (".toList = [' ', '('] := rfl
    rw [String.toList_ofList, hopen]
    simp only [List.append_assoc, List.cons_append, List.nil_append]

section Tag

variable {tag : List Char} (htag : tag = [] ∨ tag = ", excluded".toList)
include htag

/-- A tag stands behind a comma. -/
theorem upTo_tag {q : List Char} (hq : ',' ∉ q) : upTo ',' (q ++ tag) = q := by
  rcases htag with rfl | rfl
  · rw [List.append_nil, upTo_of_not_mem hq]
  · exact upTo_append hq _

theorem not_mem_append_tag {q : List Char} (hq : ')' ∉ q) : ')' ∉ q ++ tag := by
  rcases htag with rfl | rfl <;> simp [hq]

end Tag

/-- A title has no character that is not in the word, but for the case of letters. -/
theorem mem_headline {w : List Char} (hplain : ∀ c ∈ w, isBlank c = true ∨ c.isAlpha = true)
    (hupper : ∀ c ∈ w.tail, c.isUpper = false) {d : Char} (hd : d.isAlpha = false) :
    d ∈ headline w ↔ d ∈ w := by
  rw [← mem_lowerAscii_iff hd, lowerAscii_headline hplain hupper, mem_lowerAscii_iff hd]

end Text

namespace StatusToken

open Text

theorem parse?_congr {raw raw' : String} (h : lowerAscii raw.toList = lowerAscii raw'.toList) :
    parse? raw = parse? raw' := by
  rw [parse?_eq, parse?_eq, h]

/-- A base that is read is made of letters and white space, and there is something of it. -/
theorem plain_of_ofParts? {word : List Char} {qualifier : Option (List Char)} {t : StatusToken}
    (h : ofParts? (trimChars (lowerAscii word)) qualifier = some t) :
    word ≠ [] ∧ ∀ c ∈ word, isBlank c = true ∨ c.isAlpha = true := by
  have hbase : baseOf? (String.ofList word) = some t.state? := by
    rw [← map_state?_ofParts? word qualifier, h]
    rfl
  constructor
  · rintro rfl
    have hempty : baseOf? (String.ofList []) = none := by decide
    rw [hempty] at hbase
    cases hbase
  · intro c hc
    cases hblank : isBlank c with
    | true => exact .inl rfl
    | false => exact .inr (isAlpha_of_baseOf? hbase (by simpa using hc) hblank)

theorem isAlpha_of_health? {word : String} {health : Health} (h : Health.parse? word = some health)
    {c : Char} (hmem : c ∈ word.toList) (hblank : isBlank c = false) : c.isAlpha = true := by
  have hletters : health.text.toList.all Char.isAlpha = true := by cases health <;> decide
  exact isAlpha_of_normalWord (Health.text_of_ofText? h) hletters hmem hblank

/-- A qualifier with a character in it that no result is spelled with is as good as none. -/
theorem ofParts?_of_mem {c : Char} (hblank : isBlank c = false) (halpha : c.isAlpha = false)
    {qualifier : List Char} (hmem : c ∈ qualifier) (base : List Char) :
    ofParts? base (some (trimChars (lowerAscii qualifier))) = ofParts? base none := by
  have hmem : c ∈ trimChars (lowerAscii qualifier) := by
    rwa [mem_trimChars_iff hblank, mem_lowerAscii_iff halpha]
  have hnone : Health.parse? (String.ofList (trimChars (lowerAscii qualifier))) = none := by
    rw [Option.eq_none_iff_forall_ne_some]
    intro health hhealth
    have hletter := isAlpha_of_health? hhealth (String.toList_ofList ▸ hmem) hblank
    simp [halpha] at hletter
  simp [ofParts?, hnone]

/-- Spaces before upper-case characters other than the letters from A to Z do no harm, because no
check result is spelled with such a character in the first place. -/
theorem ofParts?_spaced {qualifier : List Char} (hupper : ∀ c ∈ qualifier, c.isUpper = false)
    (base : List Char) :
    ofParts? base (some (trimChars (lowerAscii (spaced qualifier)))) =
      ofParts? base (some (trimChars (lowerAscii qualifier))) := by
  by_cases hall : ∀ c ∈ qualifier, isUpper c = false
  · rw [spaced_of_forall hall]
  · obtain ⟨c, hc, hcase⟩ : ∃ c ∈ qualifier, isUpper c = true := by simpa using hall
    have hstrange : ¬(isBlank c = true ∨ c.isAlpha = true) := by
      intro hplain
      rw [isUpper_eq hplain, hupper c hc] at hcase
      cases hcase
    rw [not_or, Bool.not_eq_true, Bool.not_eq_true] at hstrange
    obtain ⟨hblank, halpha⟩ := hstrange
    have hspace : c ≠ ' ' := by
      rintro rfl
      cases hblank
    rw [ofParts?_of_mem hblank halpha ((mem_spaced hspace).mpr hc),
      ofParts?_of_mem hblank halpha hc]

/-- A tag behind the qualifier is not read. -/
theorem parse?_eq_of_tagged {raw : String} (before qualifier : List Char) {tag : List Char}
    (hraw : raw.toList = before ++ '(' :: (qualifier ++ tag ++ ')' :: []))
    (htag : tag = [] ∨ tag = ", excluded".toList) (hbefore : '(' ∉ before)
    (hclose : ')' ∉ qualifier) (hcomma : ',' ∉ qualifier) :
    parse? raw =
      ofParts? (trimChars (lowerAscii before)) (some (trimChars (lowerAscii qualifier))) := by
  rw [parse?_eq_of_closed before _ [] hraw hbefore (not_mem_append_tag htag hclose)
    (List.forall_mem_nil _), upTo_tag htag hcomma]

section Label

variable {s : String} {t : StatusToken} (h : parse? s = some t)
  (hproxy : ("Proxy:".toList.isPrefixOf s.toList || s.isEmpty) = false)
  (hupper : ∀ c ∈ (upTo ':' s.toList).tail, c.isUpper = false)

section

include h hproxy hupper

theorem parse?_labelOf_plain (hopen : '(' ∉ s.toList) (hcolon : ':' ∉ s.toList) :
    parse? (labelOf s) = parse? s := by
  rw [parse?_eq_of_plain hopen hcolon] at h
  rw [upTo_of_not_mem hcolon] at hupper
  apply parse?_congr
  rw [labelOf_of_not_mem hcolon hproxy]
  exact lowerAscii_headline (plain_of_ofParts? h).2 hupper

end

variable (hclose : ')' ∉ s.toList) (hcomma : ',' ∉ s.toList)

include h hproxy hupper hclose hcomma

theorem parse?_labelOf_colon {b rest : List Char} (hs : s.toList = b ++ ':' :: rest)
    (hcolon : ':' ∉ b) (hopen : '(' ∉ s.toList) : parse? (labelOf s) = parse? s := by
  simp only [hs, List.mem_append, List.mem_cons, not_or] at hopen hclose hcomma
  have hread := parse?_eq_of_colon b rest hs hopen.1 hcolon hopen.2.2
  rw [hread] at h ⊢
  rw [hs, upTo_append hcolon] at hupper
  obtain ⟨-, hplain⟩ := plain_of_ofParts? h
  obtain ⟨tag, htag, hlabel⟩ := labelOf_of_colon hs hcolon hproxy
  have hbefore : '(' ∉ headline b ++ [' '] := by simp [mem_headline hplain hupper, hopen.1]
  rw [parse?_eq_of_tagged (headline b ++ [' ']) (upTo ':' rest) (by simp [hlabel]) htag hbefore
      (not_mem_upTo hclose.2.2) (not_mem_upTo hcomma.2.2), lowerAscii_append,
    trimChars_append (lowerAscii_blank (List.forall_mem_singleton.mpr rfl)),
    lowerAscii_headline hplain hupper]

/-- A parenthesis that is not closed is shown with what follows it. -/
theorem parse?_labelOf_open {b rest : List Char} (hs : s.toList = b ++ '(' :: rest)
    (hopen : '(' ∉ b) (hcolon : ':' ∉ s.toList) : parse? (labelOf s) = parse? s := by
  have hlabel := labelOf_of_not_mem hcolon hproxy
  rw [upTo_of_not_mem hcolon] at hupper
  simp only [hs, List.mem_append, List.mem_cons, not_or] at hclose hcomma
  have hread := parse?_eq_of_unclosed b rest hs hopen hclose.2.2 hcomma.2.2
  rw [hread] at h ⊢
  obtain ⟨hne, hplain⟩ := plain_of_ofParts? h
  rw [hs, List.tail_append_of_ne_nil hne, List.forall_mem_append, List.forall_mem_cons] at hupper
  obtain ⟨hbase, -, hrest⟩ := hupper
  rw [hs, headline_parenthesis hne] at hlabel
  rw [parse?_eq_of_unclosed (headline b) (spaced rest) hlabel, ofParts?_spaced hrest,
    lowerAscii_headline hplain hbase]
  · rwa [mem_headline hplain hbase rfl]
  · simpa [mem_spaced] using hclose.2.2
  · simpa [mem_spaced] using hcomma.2.2

/-- With a parenthesis that is not closed before a colon, no result is read on either side. -/
theorem parse?_labelOf_open_colon {b rest : List Char} (hs : s.toList = b ++ '(' :: rest)
    (hopen : '(' ∉ b) (hcolon : ':' ∈ s.toList) : parse? (labelOf s) = parse? s := by
  simp only [hs, List.mem_append, List.mem_cons, not_or] at hclose hcomma
  have hread := parse?_eq_of_unclosed b rest hs hopen hclose.2.2 hcomma.2.2
  obtain ⟨hne, hplain⟩ := plain_of_ofParts? (hread.symm.trans h)
  have hbase : ':' ∉ b := by
    intro hmem
    rcases hplain _ hmem with hblank | halpha
    · cases hblank
    · cases halpha
  obtain ⟨inner, rest, rfl, hinner⟩ : ∃ inner rest', rest = inner ++ ':' :: rest' ∧ ':' ∉ inner :=
    List.eq_append_cons_of_mem (by simpa [hs, hbase] using hcolon)
  rw [ofParts?_of_mem (c := ':') (by decide) (by decide) (by simp)] at hread
  simp only [List.mem_append, List.mem_cons, not_or] at hclose hcomma
  have hcut : ':' ∉ b ++ '(' :: inner := by simp [hbase, hinner]
  have hs' : s.toList = (b ++ '(' :: inner) ++ ':' :: rest := by simp [hs]
  rw [hs', upTo_append hcut, List.tail_append_of_ne_nil hne, List.forall_mem_append] at hupper
  obtain ⟨tag, htag, hlabel⟩ := labelOf_of_colon hs' hcut hproxy
  have hshown : ∀ d, d ≠ ' ' → d ≠ '(' → d ∉ inner → d ∉ rest →
      d ∉ spaced inner ++ ' ' :: '(' :: upTo ':' rest := by
    intro d hspace hd hinner hrest
    simp [mem_spaced hspace, hinner, hspace, hd, not_mem_upTo hrest]
  have hspaced : (labelOf s).toList = headline b ++
      '(' :: ((spaced inner ++ ' ' :: '(' :: upTo ':' rest) ++ tag ++ ')' :: []) := by
    rw [hlabel, headline_parenthesis hne]
    simp
  rw [hread, parse?_eq_of_tagged (headline b) _ hspaced htag,
    ofParts?_of_mem (c := '(') (by decide) (by decide) (by simp),
    lowerAscii_headline hplain hupper.1]
  · rwa [mem_headline hplain hupper.1 rfl]
  · exact hshown ')' (by decide) (by decide) hclose.2.2.1 hclose.2.2.2.2
  · exact hshown ',' (by decide) (by decide) hcomma.2.2.1 hcomma.2.2.2.2

end Label

/-- The label of a text that has a token is read as the same token, whichever of the two forms the
text has. The text closes no parenthesis, has no comma, and up to its first colon there is no letter
from A to Z after the first character. -/
theorem parse?_labelOf {s : String} (hclose : ')' ∉ s.toList) (hcomma : ',' ∉ s.toList)
    (hupper : ∀ c ∈ (upTo ':' s.toList).tail, c.isUpper = false) {t : StatusToken}
    (h : parse? s = some t) : parse? (labelOf s) = some t := by
  cases hproxy : "Proxy:".toList.isPrefixOf s.toList || s.isEmpty with
  | true =>
      rw [labelOf, hproxy, if_pos rfl]
      exact h
  | false =>
      rw [← h]
      obtain ⟨b, rest, hs, hb⟩ | ⟨hopen, ⟨b, rest, hs, hb⟩ | hcolon⟩ := exists_cut s.toList
      · by_cases hcolon : ':' ∈ s.toList
        · exact parse?_labelOf_open_colon h hproxy hupper hclose hcomma hs hb hcolon
        · exact parse?_labelOf_open h hproxy hupper hclose hcomma hs hb hcolon
      · exact parse?_labelOf_colon h hproxy hupper hclose hcomma hs hb hopen
      · exact parse?_labelOf_plain h hproxy hupper hopen hcolon

/-- The tag of the first label and the space that the second one has before an upper-case letter are
not read. -/
theorem parse?_labelOf_shop :
    (labelOf "Running: HEALTHY :excluded:3" = "Running ( HEALTHY , excluded)" ∧
      parse? (labelOf "Running: HEALTHY :excluded:3") =
        some (.container .running (some .healthy))) ∧
    labelOf "exited (137 É" = "Exited (137  É" ∧
      parse? (labelOf "exited (137 É") = some (.container .exited none) := by
  have hcolons : (upTo ':' "Running: HEALTHY :excluded:3".toList).tail.all (!·.isUpper) = true := by
    decide
  have hlegacy : (upTo ':' "exited (137 É".toList).tail.all (!·.isUpper) = true := by decide
  refine ⟨⟨by decide +kernel, ?_⟩, by decide +kernel, ?_⟩
  · exact parse?_labelOf (by decide) (by decide) (by simpa using List.all_eq_true.mp hcolons)
      (by decide +kernel)
  · exact parse?_labelOf (by decide) (by decide) (by simpa using List.all_eq_true.mp hlegacy)
      (by decide +kernel)

/-- With a capital letter inside, the label falls apart into words. -/
example : parse? "eXited" = some (.container .exited none) ∧ labelOf "eXited" = "E Xited" ∧
    parse? (labelOf "eXited") = none := by
  decide +kernel

end StatusToken

end FleetWatch
