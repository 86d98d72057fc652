import FleetWatch.Json.Reader
import Mathlib.Data.List.Forall2
import Mathlib.Tactic.IntervalCases
import Mathlib.Tactic.SplitIfs

/-! # What is written is read

A value that was written without white space is read back, whatever comes after it. A reader fits a
JSON value if it takes this value for what was meant by it. Whether a reader of a record or of an
array fits is a matter of the readers of its fields or items alone: names, marks and the number of
steps that a loop may take are settled here for all of them.
-/

namespace FleetWatch.Json

/-! ## Marks -/

/-- The text is at its end, or at a mark that comes after a value. -/
inductive AtMark : List Char → Prop
  | atEnd : AtMark []
  | comma (rest : List Char) : AtMark (',' :: rest)
  | bracket (rest : List Char) : AtMark (']' :: rest)
  | brace (rest : List Char) : AtMark ('}' :: rest)

/-- Texts with a comma before each but the first of all. -/
def separated (first : Bool) : List (List Char) → List Char
  | [] => []
  | text :: rest => (if first then text else ',' :: text) ++ separated false rest

theorem joinChars_eq (texts : List (List Char)) : joinChars [','] texts = separated true texts := by
  induction texts with
  | nil => rfl
  | cons text rest ih =>
      cases rest with
      | nil => exact (List.append_nil text).symm
      | cons next more =>
          calc joinChars [','] (text :: next :: more)
              = text ++ [','] ++ separated true (next :: more) := by rw [← ih]; rfl
            _ = separated true (text :: next :: more) := by simp [separated]

/-- There are as many characters as texts, if none of these is empty. -/
theorem length_le_separated {texts : List (List Char)} (h : ∀ text ∈ texts, text ≠ [])
    (first : Bool) : texts.length ≤ (separated first texts).length := by
  induction texts generalizing first with
  | nil => exact Nat.zero_le _
  | cons text rest ih =>
      have hrest := ih (fun t ht => h t (List.mem_cons_of_mem _ ht)) false
      have hpos := List.length_pos_iff.mpr (h text List.mem_cons_self)
      cases first <;> simp only [separated, Bool.false_eq_true, if_false, if_true,
        List.length_append, List.length_cons] <;> omega

/-- A value among others is followed by a mark. -/
theorem atMark_separated (texts : List (List Char)) {rest : List Char} (h : AtMark rest) :
    AtMark (separated false texts ++ rest) := by
  cases texts with
  | nil => exact h
  | cons text more => exact .comma _

namespace Reader

theorem skipSpace_cons {c : Char} (h : isSpace c = false) (rest : List Char) :
    skipSpace (c :: rest) = c :: rest := by
  rw [skipSpace, List.dropWhile_cons, h]
  rfl

theorem isSpace_of_isDigit {c : Char} (h : c.isDigit = true) : isSpace c = false := by
  by_contra hspace
  simp only [isSpace, Bool.not_eq_false, Bool.or_eq_true, beq_iff_eq] at hspace
  rcases hspace with ((rfl | rfl) | rfl) | rfl <;> exact absurd h (by decide)

end Reader

theorem exists_toDigits_eq_cons (n : Nat) :
    ∃ c digits, Nat.toDigits 10 n = c :: digits ∧ c.isDigit = true := by
  obtain ⟨c, digits, htext⟩ := List.exists_cons_of_ne_nil (Nat.toDigits_ne_nil (n := n))
  have hmem : c ∈ Nat.toDigits 10 n := htext ▸ List.mem_cons_self
  exact ⟨c, digits, htext, Nat.isDigit_of_mem_toDigits (by decide) le_rfl hmem⟩

/-- The first character of a value that was written. -/
theorem exists_compactChars_eq_cons (j : Json) :
    ∃ c rest, compactChars j = c :: rest ∧ Reader.isSpace c = false ∧ c ≠ ']' := by
  cases j with
  | null => exact ⟨_, _, rfl, rfl, by decide⟩
  | bool value => cases value <;> exact ⟨_, _, rfl, rfl, by decide⟩
  | num value =>
      cases value with
      | ofNat n =>
          obtain ⟨c, rest, htext, hdigit⟩ := exists_toDigits_eq_cons n
          refine ⟨c, rest, htext, Reader.isSpace_of_isDigit hdigit, ?_⟩
          rintro rfl
          exact absurd hdigit (by decide)
      | negSucc n => exact ⟨_, _, rfl, rfl, by decide⟩
  | str text => exact ⟨_, _, rfl, rfl, by decide⟩
  | arr items => exact ⟨_, _, rfl, rfl, by decide⟩
  | obj members => exact ⟨_, _, rfl, rfl, by decide⟩

namespace Reader

theorem expecting_cons {α : Type} {c : Char} (h : isSpace c = false)
    (read : List Char → Except Fault (α × List Char)) (rest : List Char) :
    expecting read (c :: rest) = read (c :: rest) := by
  rw [expecting, skipSpace_cons h]

/-! ## Strings -/

theorem hexUnit_of_lt {n : Nat} (h : n < 32) (rest : List Char) :
    hexUnit ('0' :: '0' :: hexDigit (n / 16) :: hexDigit (n % 16) :: rest) = .ok (n, rest) := by
  have hdigits : natOfDigits? 16 ['0', '0', hexDigit (n / 16), hexDigit (n % 16)] = some n := by
    interval_cases n <;> rfl
  rw [hexUnit, hdigits]

/-- A control character is no surrogate, so that its number is enough. -/
theorem escape_control {c : Char} (h : c.toNat < 32) (rest : List Char) :
    escape ('u' :: '0' :: '0' :: hexDigit (c.toNat / 16) :: hexDigit (c.toNat % 16) :: rest) =
      .ok (c, rest) := by
  have hlow : ¬ (decide (0xDC00 ≤ c.toNat) && decide (c.toNat ≤ 0xDFFF)) = true := by
    rw [Bool.and_eq_true, decide_eq_true_iff, decide_eq_true_iff]
    omega
  have hhigh : ¬ (decide (0xD800 ≤ c.toNat) && decide (c.toNat ≤ 0xDBFF)) = true := by
    rw [Bool.and_eq_true, decide_eq_true_iff, decide_eq_true_iff]
    omega
  rw [escape.eq_2, hexUnit_of_lt h]
  simp only [if_neg hlow, if_neg hhigh, Char.ofNat_toNat]

theorem stringChars_of_escape {s rest : List Char} {c : Char} (h : escape s = .ok (c, rest))
    (steps : Nat) :
    stringChars (steps + 1) ('\\' :: s) =
      (stringChars steps rest).map fun (cs, rest) => (c :: cs, rest) := by
  rw [stringChars, h]
  cases hrest : stringChars steps rest <;> simp [hrest, Except.map]

theorem stringChars_of_plain {c : Char} (hquote : c ≠ '"') (hslash : c ≠ '\\')
    (hcontrol : ¬ c.toNat < 32) (s : List Char) (steps : Nat) :
    stringChars (steps + 1) (c :: s) =
      (stringChars steps s).map fun (cs, rest) => (c :: cs, rest) := by
  rw [stringChars.eq_5 _ _ _ hquote hslash, if_neg hcontrol]
  cases stringChars steps s <;> rfl

/-- An escaped character is read back. -/
theorem stringChars_escapeChar (c : Char) (s : List Char) (steps : Nat) :
    stringChars (steps + 1) (escapeChar c ++ s) =
      (stringChars steps s).map fun (cs, rest) => (c :: cs, rest) := by
  unfold escapeChar
  split_ifs with hquote hslash hnewline hreturn htab hback hfeed hcontrol
  · subst hquote
    exact stringChars_of_escape rfl steps
  · subst hslash
    exact stringChars_of_escape rfl steps
  · subst hnewline
    exact stringChars_of_escape rfl steps
  · subst hreturn
    exact stringChars_of_escape rfl steps
  · subst htab
    exact stringChars_of_escape rfl steps
  · obtain rfl : c = Char.ofNat 8 := by rw [← hback, Char.ofNat_toNat]
    exact stringChars_of_escape rfl steps
  · obtain rfl : c = Char.ofNat 12 := by rw [← hfeed, Char.ofNat_toNat]
    exact stringChars_of_escape rfl steps
  · exact stringChars_of_escape (escape_control hcontrol s) steps
  · exact stringChars_of_plain hquote hslash hcontrol s steps

theorem stringChars_flatMap (cs rest : List Char) {steps : Nat} (h : cs.length < steps) :
    stringChars steps (cs.flatMap escapeChar ++ '"' :: rest) = .ok (cs, rest) := by
  induction cs generalizing steps with
  | nil =>
      obtain ⟨more, rfl⟩ := Nat.exists_eq_add_of_lt h
      rfl
  | cons c cs ih =>
      obtain ⟨more, rfl⟩ := Nat.exists_eq_add_of_lt h
      rw [List.flatMap_cons, List.append_assoc, stringChars_escapeChar, ih (by grind)]
      rfl

theorem length_le_flatMap_escapeChar (cs : List Char) :
    cs.length ≤ (cs.flatMap escapeChar).length := by
  induction cs with
  | nil => exact le_rfl
  | cons c cs ih =>
      have hpos : 0 < (escapeChar c).length := by
        unfold escapeChar
        split_ifs <;> exact Nat.succ_pos _
      rw [List.flatMap_cons, List.length_append, List.length_cons]
      omega

/-- A string is read back up to its closing quote. -/
theorem restOfString_append (text : String) (rest : List Char) :
    restOfString (text.toList.flatMap escapeChar ++ '"' :: rest) = .ok (text, rest) := by
  have hsteps : text.toList.length <
      (text.toList.flatMap escapeChar ++ '"' :: rest).length + 1 := by
    have := length_le_flatMap_escapeChar text.toList
    rw [List.length_append]
    omega
  rw [restOfString, stringChars_flatMap _ _ hsteps]
  exact congrArg Except.ok (Prod.ext String.ofList_toList rfl)

theorem strText_append (text : String) (rest : List Char) :
    strText text ++ rest = '"' :: (text.toList.flatMap escapeChar ++ '"' :: rest) := by
  simp [strText]

/-! ## Numbers -/

theorem decimalValue_toDigits (n : Nat) : decimalValue (Nat.toDigits 10 n) = n := by
  have hfold : decimalValue (Nat.toDigits 10 n) = Nat.ofDigitChars 10 (Nat.toDigits 10 n) 0 := by
    rw [decimalValue, Nat.ofDigitChars_eq_foldl]
    congr 1
    funext sofar c
    rw [Nat.mul_comm]
    rfl
  rw [hfold, Nat.ofDigitChars_toDigits (by decide) le_rfl]

/-- Only zero is written with a zero in front. -/
theorem eq_zero_of_toDigits {n : Nat} {rest : List Char} (h : Nat.toDigits 10 n = '0' :: rest) :
    n = 0 := by
  induction n using Nat.strongRecOn generalizing rest with
  | ind n ih =>
      rw [Nat.toDigits_eq_if (by decide)] at h
      split at h
      next hlt => exact Nat.digitChar_eq_zero.mp (List.cons_eq_cons.mp h).1
      next hlt =>
        obtain ⟨front, hfront⟩ : ∃ front, Nat.toDigits 10 (n / 10) = '0' :: front := by
          rcases List.append_eq_cons_iff.mp h with ⟨hnil, -⟩ | ⟨front, hfront, -⟩
          · exact absurd hnil Nat.toDigits_ne_nil
          · exact ⟨front, hfront⟩
        have := ih (n / 10) (by omega) hfront
        omega

theorem takeWhile_isDigit_of_atMark {rest : List Char} (h : AtMark rest) :
    rest.takeWhile Char.isDigit = [] ∧ rest.dropWhile Char.isDigit = rest := by
  cases h <;> exact ⟨rfl, rfl⟩

theorem wholeDigits_toDigits (n : Nat) {rest : List Char} (h : AtMark rest) (atEnd : Fault) :
    wholeDigits atEnd (Nat.toDigits 10 n ++ rest) = .ok (Nat.toDigits 10 n, rest) := by
  rcases Nat.eq_zero_or_pos n with rfl | hpos
  · cases h <;> rfl
  · obtain ⟨c, digits, htext, hdigit⟩ := exists_toDigits_eq_cons n
    have hdigits : ∀ d ∈ Nat.toDigits 10 n, d.isDigit = true := fun d hd =>
      Nat.isDigit_of_mem_toDigits (by decide) le_rfl hd
    have hzero : c ≠ '0' := by
      rintro rfl
      exact hpos.ne' (eq_zero_of_toDigits htext)
    obtain ⟨htake, hdrop⟩ := takeWhile_isDigit_of_atMark h
    have htaken : (Nat.toDigits 10 n ++ rest).takeWhile Char.isDigit = Nat.toDigits 10 n := by
      rw [List.takeWhile_append_of_pos hdigits, htake, List.append_nil]
    have hdropped : (Nat.toDigits 10 n ++ rest).dropWhile Char.isDigit = rest := by
      rw [List.dropWhile_append_of_pos hdigits, hdrop]
    rw [htext] at htaken hdropped ⊢
    rw [List.cons_append, wholeDigits.eq_4 _ _ _ hzero, if_pos hdigit,
      ← List.cons_append, htaken, hdropped]

theorem numeral_toDigits (n : Nat) {rest : List Char} (h : AtMark rest) (atEnd : Fault) :
    numeral atEnd (Nat.toDigits 10 n ++ rest) =
      .ok (⟨false, Nat.toDigits 10 n, none, none⟩, rest) := by
  have hsign : ∀ more, Nat.toDigits 10 n ++ rest ≠ '-' :: more := by
    intro more heq
    obtain ⟨c, digits, htext, hdigit⟩ := exists_toDigits_eq_cons n
    rw [htext, List.cons_append] at heq
    obtain rfl := (List.cons_eq_cons.mp heq).1
    exact absurd hdigit (by decide)
  rw [numeral.eq_2 _ _ hsign, wholeDigits_toDigits n h]
  cases h <;> rfl

/-! ## Values -/

/-- The reader takes the JSON value for `a`, whatever comes after it. -/
def Reads {α : Type} (read : Reader α) (j : Json) (a : α) : Prop :=
  ∀ rest, AtMark rest → read (compactChars j ++ rest) = .ok (a, rest)

theorem Reads.map {α β : Type} {read : Reader α} {j : Json} {a : α} (h : Reads read j a)
    (f : α → β) : Reads (do return f (← read)) j (f a) := by
  intro rest hrest
  change andThen read (fun a => done (f a)) _ = _
  rw [andThen, h rest hrest]
  rfl

theorem reads_string (text : String) : Reads string (.str text) text := by
  intro rest _
  change string (strText text ++ rest) = _
  rw [strText_append, string, expecting_cons rfl]
  exact restOfString_append text rest

theorem reads_word {α : Type} {ofText? : String → Option α} {text : String} {a : α}
    (h : ofText? text = some a) : Reads (word ofText?) (.str text) a := by
  intro rest _
  change word ofText? (strText text ++ rest) = _
  rw [strText_append, word, expecting_cons rfl]
  simp only [restOfString_append, h]

theorem reads_bool (value : Bool) : Reads bool (.bool value) value := by
  intro rest _
  cases value <;> rfl

theorem Reads.optional {α : Type} {read : Reader α} {text : String} {a : α}
    (h : Reads read (.str text) a) : Reads (optional read) (.str text) (some a) := by
  intro rest hrest
  have hread : read (strText text ++ rest) = .ok (a, rest) := h rest hrest
  change Reader.optional read (strText text ++ rest) = _
  rw [strText_append] at hread ⊢
  rw [Reader.optional, skipSpace_cons rfl]
  change (read _).map _ = _
  rw [hread]
  rfl

theorem reads_natural {bits n : Nat} (h : n < 2 ^ bits) : Reads (natural bits) (.num n) n := by
  intro rest hrest
  change natural bits (Nat.toDigits 10 n ++ rest) = _
  obtain ⟨c, digits, htext, hdigit⟩ := exists_toDigits_eq_cons n
  have hnumeral := numeral_toDigits n hrest .ended
  have hvalue : Numeral.toInt? ⟨false, Nat.toDigits 10 n, none, none⟩ = some (n : Int) := by
    simp [Numeral.toInt?, decimalValue_toDigits]
  have hrange : (decide (0 ≤ (n : Int)) && decide ((n : Int) ≤ twoTo bits - 1)) = true := by
    have htwo : ((twoTo bits : Nat) : Int) = ((2 ^ bits : Nat) : Int) := rfl
    rw [Bool.and_eq_true, decide_eq_true_iff, decide_eq_true_iff, htwo]
    omega
  rw [htext] at hnumeral hvalue ⊢
  rw [natural, List.cons_append, integer, expecting_cons (isSpace_of_isDigit hdigit)]
  simp only [hdigit, Bool.or_true, if_true]
  rw [← List.cons_append, hnumeral]
  simp only [hvalue, hrange, if_true]
  rfl

/-! ## Members of an object -/

/-- Members lead from one state of what has been read of an object to another: the value of each
fits what is read under its name in the state before it. -/
inductive Fills {σ : Type} (member : σ → String → Except Fault (Reader σ)) :
    List (String × Json) → σ → σ → Prop
  | nil (state : σ) : Fills member [] state state
  | cons {name : String} {j : Json} {rest : List (String × Json)} {read : Reader σ}
      {state next last : σ} (hmember : member state name = .ok read) (hread : Reads read j next)
      (hrest : Fills member rest next last) : Fills member ((name, j) :: rest) state last

theorem compactMembers_eq_map (ms : List (String × Json)) :
    compactMembers ms = ms.map fun m => strText m.1 ++ ':' :: compactChars m.2 := by
  induction ms with
  | nil => rfl
  | cons m rest ih => exact congrArg (_ :: ·) ih

theorem length_le_members (ms : List (String × Json)) :
    ms.length ≤ (separated true (compactMembers ms)).length := by
  have hne : ∀ text ∈ compactMembers ms, text ≠ [] := by
    intro text hmem
    rw [compactMembers_eq_map] at hmem
    obtain ⟨m, -, rfl⟩ := List.mem_map.mp hmem
    exact List.cons_ne_nil _ _
  calc ms.length = (compactMembers ms).length := by rw [compactMembers_eq_map, List.length_map]
    _ ≤ (separated true (compactMembers ms)).length := length_le_separated hne true

theorem nextName_separated (first : Bool) (name : String) (j : Json)
    (texts : List (List Char)) (rest : List Char) :
    nextName first (separated first ((strText name ++ ':' :: compactChars j) :: texts) ++ rest) =
      .ok (true, name.toList.flatMap escapeChar ++
        '"' :: ':' :: (compactChars j ++ (separated false texts ++ rest))) := by
  cases first <;> simp [separated, strText, nextName, skipSpace_cons (c := ',') rfl,
    skipSpace_cons (c := '"') rfl]

theorem Fills.members_eq {σ : Type} {member : σ → String → Except Fault (Reader σ)}
    {ms : List (String × Json)} {state last : σ} (h : Fills member ms state last) (first : Bool)
    {steps : Nat} (hsteps : ms.length < steps) (rest : List Char) :
    members member steps first state (separated first (compactMembers ms) ++ '}' :: rest) =
      .ok (last, '}' :: rest) := by
  induction h generalizing first steps with
  | nil state =>
      obtain ⟨more, rfl⟩ := Nat.exists_eq_add_of_lt hsteps
      rfl
  | @cons name j ms read state next last hmember hread hrest ih =>
      obtain ⟨more, rfl⟩ := Nat.exists_eq_add_of_lt hsteps
      have hvalue := hread _ (atMark_separated (compactMembers ms) (.brace rest))
      have hcolon : colon.andThen (fun _ => read)
          (':' :: (compactChars j ++ (separated false (compactMembers ms) ++ '}' :: rest))) =
            .ok (next, separated false (compactMembers ms) ++ '}' :: rest) := hvalue
      rw [members.eq_2, compactMembers, nextName_separated]
      simp only [restOfString_append, hmember, hcolon]
      exact ih false (by grind)

/-- A record is read from the object of its fields. -/
theorem reads_record {σ α : Type} {fields : List (Field σ)} {blank last : σ}
    {build : σ → Option α} {a : α} {ms : List (String × Json)}
    (h : Fills (fieldMember fields) ms blank last) (hbuild : build last = some a) :
    Reads (record fields blank build) (.obj ms) a := by
  intro rest _
  have htext : compactChars (.obj ms) ++ rest =
      '{' :: (separated true (compactMembers ms) ++ '}' :: rest) := by
    rw [compactChars, joinChars_eq]
    simp
  have hsteps : ms.length <
      (separated true (compactMembers ms) ++ '}' :: rest).length + 1 := by
    have := length_le_members ms
    rw [List.length_append]
    omega
  rw [htext, record, expecting_cons rfl]
  simp only [andThen, h.members_eq true hsteps, hbuild]
  rfl

/-! ## Items of an array -/

theorem compactItems_eq_map (js : List Json) : compactItems js = js.map compactChars := by
  induction js with
  | nil => rfl
  | cons j rest ih => exact congrArg (_ :: ·) ih

theorem length_le_items (js : List Json) :
    js.length ≤ (separated true (compactItems js)).length := by
  have hne : ∀ text ∈ compactItems js, text ≠ [] := by
    intro text hmem
    rw [compactItems_eq_map] at hmem
    obtain ⟨j, -, rfl⟩ := List.mem_map.mp hmem
    obtain ⟨c, more, htext, -⟩ := exists_compactChars_eq_cons j
    exact htext ▸ List.cons_ne_nil c more
  calc js.length = (compactItems js).length := by rw [compactItems_eq_map, List.length_map]
    _ ≤ (separated true (compactItems js)).length := length_le_separated hne true

theorem nextItem_separated (first : Bool) (j : Json) (texts : List (List Char))
    (rest : List Char) :
    nextItem first (separated first (compactChars j :: texts) ++ rest) =
      .ok (true, compactChars j ++ (separated false texts ++ rest)) := by
  obtain ⟨c, more, htext, hspace, hbracket⟩ := exists_compactChars_eq_cons j
  cases first <;> simp [separated, htext, nextItem, skipSpace_cons (c := ',') rfl,
    skipSpace_cons hspace, hbracket]

theorem items_eq {α : Type} {read : Reader α} {js : List Json} {as : List α}
    (h : List.Forall₂ (Reads read) js as) (first : Bool) {steps : Nat}
    (hsteps : js.length < steps) (rest : List Char) :
    items read steps first (separated first (compactItems js) ++ ']' :: rest) =
      .ok (as, ']' :: rest) := by
  induction h generalizing first steps with
  | nil =>
      obtain ⟨more, rfl⟩ := Nat.exists_eq_add_of_lt hsteps
      rfl
  | @cons j a js as hread hrest ih =>
      obtain ⟨more, rfl⟩ := Nat.exists_eq_add_of_lt hsteps
      have hvalue := hread _ (atMark_separated (compactItems js) (.bracket rest))
      have hmore := ih false (show js.length < (j :: js).length + more by grind)
      rw [items.eq_2, compactItems, nextItem_separated]
      simp only [hvalue, hmore]

/-- An array is read item by item. -/
theorem reads_array {α : Type} {read : Reader α} {js : List Json} {as : List α}
    (h : List.Forall₂ (Reads read) js as) : Reads (array read) (.arr js) as := by
  intro rest _
  have htext : compactChars (.arr js) ++ rest =
      '[' :: (separated true (compactItems js) ++ ']' :: rest) := by
    rw [compactChars, joinChars_eq]
    simp
  have hsteps : js.length < (separated true (compactItems js) ++ ']' :: rest).length + 1 := by
    have := length_le_items js
    rw [List.length_append]
    omega
  rw [htext, array, expecting_cons rfl]
  simp only [andThen, items_eq h true hsteps]
  rfl

/-- What was written is all that is there. -/
theorem Reads.run_compact {α : Type} {read : Reader α} {j : Json} {a : α} (h : Reads read j a) :
    run read j.compact = .ok a := by
  have hread : read (compactChars j) = .ok (a, []) := by
    simpa using h [] .atEnd
  rw [run, compact, String.toList_ofList, hread]
  rfl

end Reader

end FleetWatch.Json
