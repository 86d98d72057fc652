import FleetWatch.Compose

/-! # What a compose file declares and excludes

The services that a file declares and the ones that it excludes are entries of one mapping, the one
under `services`, and an entry is excluded on grounds that its own definition gives. Local tags are
looked through at the top of the document, on names and on definitions, and for the declared
services on the mapping too. For the excluded ones they are not: from a mapping of services that
bears a tag nothing is excluded, whatever its definitions say.
-/

namespace FleetWatch

open Yaml (Value)

namespace Yaml.Value

/-- What stands under `services` at the top of a document. -/
def services? (document : Value) : Option Value :=
  document.asMapping?.bind fun root => entry? "services" root

/-- The entries of the mapping of services, tagged or not. There are none without such a mapping. -/
def serviceEntries (document : Value) : List (Value × Value) :=
  (document.services?.bind asMapping?).getD []

def isTagged : Value → Bool
  | tagged _ _ => true
  | _ => false

/-- What stands under `services` bears a local tag. -/
def servicesTagged (document : Value) : Bool := document.services?.any isTagged

end Yaml.Value

namespace ComposeFile

/-! ## Grounds for an exclusion -/

/-- The grounds on which the definition of a service opts it out of health checks. -/
inductive OptedOut (definition : List (Value × Value)) : Prop
  | flag (h : Value.entry? "exclude_from_hc" definition = some (.bool true))
  | word (text : String) (h : Value.entry? "exclude_from_hc" definition = some (.string text))
      (htext : Text.lowerAscii text.toList = "true".toList)
  | neverRestarted (policy : String)
      (h : Value.entry? "restart" definition = some (.string policy))
      (hpolicy : Text.trim policy = "no")
  | restartOff (h : Value.entry? "restart" definition = some (.bool false))

theorem flaggedOut_iff (definition : List (Value × Value)) :
    flaggedOut definition = true ↔
      Value.entry? "exclude_from_hc" definition = some (.bool true) ∨
        ∃ text, Value.entry? "exclude_from_hc" definition = some (.string text) ∧
          Text.lowerAscii text.toList = "true".toList := by
  unfold flaggedOut
  split
  next flag h => simp [h]
  next text h => simp [h]
  next hflag htext =>
    simp only [Bool.false_eq_true, false_iff, not_or, not_exists, not_and]
    exact ⟨hflag true, fun text h => absurd h (htext text)⟩

theorem neverRestarted_iff (definition : List (Value × Value)) :
    neverRestarted definition = true ↔
      Value.entry? "restart" definition = some (.bool false) ∨
        ∃ policy, Value.entry? "restart" definition = some (.string policy) ∧
          Text.trim policy = "no" := by
  have htrim : ∀ policy, Text.trim policy = "no" ↔ Text.trimChars policy.toList = "no".toList := by
    intro policy
    rw [Text.trim, ← String.toList_inj, String.toList_ofList]
  unfold neverRestarted
  split
  next policy h => simp [h, htrim]
  next flag h => simp [h]
  next hpolicy hflag =>
    simp only [Bool.false_eq_true, false_iff, not_or, not_exists, not_and]
    exact ⟨hflag false, fun policy h => absurd h (hpolicy policy)⟩

theorem optsOut_iff (definition : Value) :
    optsOut definition = true ↔ ∃ pairs, definition.asMapping? = some pairs ∧ OptedOut pairs := by
  unfold optsOut
  cases definition.asMapping? with
  | none => simp
  | some pairs =>
      simp only [Option.some.injEq, exists_eq_left', Bool.or_eq_true, flaggedOut_iff,
        neverRestarted_iff]
      constructor
      · rintro ((h | ⟨text, h, htext⟩) | h | ⟨policy, h, hpolicy⟩)
        · exact .flag h
        · exact .word text h htext
        · exact .restartOff h
        · exact .neverRestarted policy h hpolicy
      · rintro (h | ⟨text, h, htext⟩ | ⟨policy, h, hpolicy⟩ | h)
        · exact .inl (.inl h)
        · exact .inl (.inr ⟨text, h, htext⟩)
        · exact .inr (.inr ⟨policy, h, hpolicy⟩)
        · exact .inr (.inl h)

/-! ## Entries -/

section Entries

variable {entries : List (Value × Value)} {name : String}

theorem mem_declaredIn :
    name ∈ declaredIn entries ↔ ∃ entry ∈ entries, entry.1.asString? = some name := by
  simp only [declaredIn, List.mem_filterMap]

theorem mem_excludedIn :
    name ∈ excludedIn entries ↔
      ∃ entry ∈ entries, entry.1.asString? = some name ∧
        ∃ pairs, entry.2.asMapping? = some pairs ∧ OptedOut pairs := by
  simp only [excludedIn, mem_distinctSorted, List.mem_filterMap, Option.ite_none_right_eq_some,
    optsOut_iff]
  exact exists_congr fun entry => and_congr_right fun _ => and_comm

end Entries

/-! ## Documents -/

/-- The two lists are read off the same entries, but a tag on the mapping empties the second. -/
theorem ofValue_fst (document : Value) :
    (ofValue document).1 =
      { services := declaredIn document.serviceEntries,
        excluded := if document.servicesTagged then [] else excludedIn document.serviceEntries } := by
  unfold ofValue Value.serviceEntries Value.servicesTagged Value.services?
  cases document.asMapping? with
  | none => cases document.untagged <;> rfl
  | some root =>
      simp only [Option.bind_some]
      cases Value.entry? "services" root with
      | none => rfl
      | some services => cases services <;> rfl

theorem parse_of_document {text : String} {document : Value}
    (h : Value.parse? text = some document) : parse text = (ofValue document).1 := by
  rw [parse, read, h]

/-- The declared services are the names in the mapping of services, tagged or not. If it bears no
tag, the excluded ones are those of them with an entry that opts out; if it bears one, there are
none. A text that is no document declares nothing and excludes nothing. -/
theorem excluded_iff_of_untagged (text : String) :
    (Value.parse? text = none → parse text = {}) ∧
      ∀ document, Value.parse? text = some document →
        (∀ name, name ∈ (parse text).services ↔
          ∃ entry ∈ document.serviceEntries, entry.1.asString? = some name) ∧
        (document.servicesTagged = false → ∀ name, name ∈ (parse text).excluded ↔
          name ∈ (parse text).services ∧
            ∃ entry ∈ document.serviceEntries, entry.1.asString? = some name ∧
              ∃ pairs, entry.2.asMapping? = some pairs ∧ OptedOut pairs) ∧
        (document.servicesTagged = true → (parse text).excluded = []) := by
  constructor
  · intro hnone
    rw [parse, read, hnone]
  · intro document hdocument
    rw [parse_of_document hdocument, ofValue_fst]
    refine ⟨fun name => mem_declaredIn, ?_, ?_⟩
    · intro htag name
      rw [htag, if_neg Bool.false_ne_true, mem_excludedIn, mem_declaredIn]
      constructor
      · rintro ⟨entry, hmem, hname, hgrounds⟩
        exact ⟨⟨entry, hmem, hname⟩, entry, hmem, hname, hgrounds⟩
      · exact And.right
    · intro htag
      rw [htag, if_pos rfl]

/-- Tags stand on a name and on a definition, and no ground is spelled in its plain form. -/
def oddCompose : String :=
  "services:\n  !part web:\n    exclude_from_hc: tRUE\n  job: !once\n    restart: \" no \"\n" ++
    "  db:\n    restart: always\n"

/-- The mapping of services bears a tag. -/
def taggedCompose : String := "services: !x\n  backup:\n    restart: \"no\"\n"

/-- Of three services two are excluded, on grounds that their entries give. Under a tag none is, and
half a document is none. -/
theorem excluded_iff_of_untagged_shop :
    (∃ document, Value.parse? oddCompose = some document ∧ document.servicesTagged = false ∧
      (∃ entry ∈ document.serviceEntries, entry.1.asString? = some "web" ∧
        ∃ pairs, entry.2.asMapping? = some pairs ∧ OptedOut pairs) ∧
      (∃ entry ∈ document.serviceEntries, entry.1.asString? = some "db") ∧
      ¬ ∃ entry ∈ document.serviceEntries, entry.1.asString? = some "db" ∧
        ∃ pairs, entry.2.asMapping? = some pairs ∧ OptedOut pairs) ∧
    (∃ document, Value.parse? taggedCompose = some document ∧ document.servicesTagged = true ∧
      (parse taggedCompose).excluded = []) ∧
    Value.parse? "services: [" = none ∧ parse "services: [" = {} := by
  refine ⟨?_, ?_, ?_⟩
  · have hodd : (Value.parse? oddCompose).map (fun d => ((ofValue d).1, d.servicesTagged)) =
        some (⟨["web", "job", "db"], ["job", "web"]⟩, false) := by decide +kernel
    obtain ⟨document, hdocument, hread⟩ := Option.map_eq_some_iff.mp hodd
    obtain ⟨hread, htag⟩ := Prod.mk.inj hread
    obtain ⟨hservices, hexcluded, -⟩ := (excluded_iff_of_untagged oddCompose).2 document hdocument
    have hexcluded := hexcluded htag
    rw [parse_of_document hdocument, hread] at hservices hexcluded
    refine ⟨document, hdocument, htag, ?_, ?_, ?_⟩
    · exact ((hexcluded "web").mp (by decide)).2
    · exact (hservices "db").mp (by decide)
    · intro hdb
      have hmem := (hexcluded "db").mpr ⟨by decide, hdb⟩
      exact absurd hmem (by decide)
  · have htagged : (Value.parse? taggedCompose).map Value.servicesTagged = some true := by
      decide +kernel
    obtain ⟨document, hdocument, htag⟩ := Option.map_eq_some_iff.mp htagged
    obtain ⟨-, -, hexcluded⟩ := (excluded_iff_of_untagged taggedCompose).2 document hdocument
    exact ⟨document, hdocument, htag, hexcluded htag⟩
  · have hnone : Value.parse? "services: [" = none :=
      Option.isNone_iff_eq_none.mp (by decide +kernel)
    exact ⟨hnone, (excluded_iff_of_untagged "services: [").1 hnone⟩

/-- The backup is declared, and its own definition opts it out. It is not excluded, because the
mapping that it is declared in bears a tag. -/
theorem declared_but_not_excluded_shop :
    (∃ document, Value.parse? taggedCompose = some document ∧
      "backup" ∈ (parse taggedCompose).services ∧
      ∃ entry ∈ document.serviceEntries, entry.1.asString? = some "backup" ∧
        ∃ pairs, entry.2.asMapping? = some pairs ∧ OptedOut pairs) ∧
    "backup" ∉ (parse taggedCompose).excluded := by
  have hread : (Value.parse? taggedCompose).map
      (fun d => ((ofValue d).1, excludedIn d.serviceEntries)) =
        some (⟨["backup"], []⟩, ["backup"]) := by decide +kernel
  obtain ⟨document, hdocument, hread⟩ := Option.map_eq_some_iff.mp hread
  obtain ⟨hread, hentries⟩ := Prod.mk.inj hread
  rw [parse_of_document hdocument, hread]
  refine ⟨⟨document, hdocument, by decide, mem_excludedIn.mp ?_⟩, by decide⟩
  rw [hentries]
  exact List.mem_singleton_self _

end ComposeFile

end FleetWatch
