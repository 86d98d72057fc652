import FleetWatch.Json.Reader

/-! # Keys of stored statuses

A status is stored for an application or a service, for one placement of an application on a
server, or for one part of a service. Keys are ordered by kind, with applications first, then by
id, part and server; a part or server that is absent comes before all that are present.
-/

namespace FleetWatch

open Json (Reader)

/-- The kind of resource a status belongs to. -/
inductive ResourceKind where
  | application
  | service
  deriving DecidableEq, Repr

namespace ResourceKind

def text : ResourceKind → String
  | application => "application"
  | service => "service"

def ofText? : String → Option ResourceKind
  | "application" => some application
  | "service" => some service
  | _ => none

/-- Reads a kind from its word in the singular or the plural. -/
def parse? (raw : String) : Option ResourceKind :=
  match raw with
  | "applications" => some application
  | "services" => some service
  | _ => ofText? raw

/-- The place of a kind in the order of keys. -/
def rank : ResourceKind → Nat
  | application => 0
  | service => 1

theorem rank_inj {a b : ResourceKind} (h : a.rank = b.rank) : a = b := by
  cases a <;> cases b <;> simp_all [rank]

theorem ofText?_text (k : ResourceKind) : ofText? k.text = some k := by cases k <;> rfl

end ResourceKind

/-- The key of a stored status. -/
structure ResourceKey where
  kind : ResourceKind
  id : String
  /-- The part of a service. -/
  subResource : Option String := none
  /-- The server of a placement of an application. -/
  server : Option String := none
  deriving DecidableEq, Repr

namespace ResourceKey

def application (id : String) : ResourceKey := { kind := .application, id }

/-- The key of the placement of an application on a server. -/
def placement (id server : String) : ResourceKey :=
  { kind := .application, id, server := some server }

def service (id : String) : ResourceKey := { kind := .service, id }

/-- The key of a part of a service. -/
def part (id sub : String) : ResourceKey := { kind := .service, id, subResource := some sub }

/-- The key stands for a whole application or service. -/
def isTopLevel (k : ResourceKey) : Bool := k.subResource.isNone && k.server.isNone

/-- The key stands for a part or placement of the resource that `parent` names. -/
def isChildOf (k parent : ResourceKey) : Bool :=
  !k.isTopLevel && k.kind == parent.kind && k.id == parent.id

/-- How a key is shown: `application/shop@edge-1`, `service/crm/db`. -/
def text (k : ResourceKey) : String :=
  k.kind.text ++ "/" ++ k.id ++
    (match k.subResource with | some sub => "/" ++ sub | none => "") ++
    (match k.server with | some server => "@" ++ server | none => "")

/-! ## Order -/

def cmp : ResourceKey → ResourceKey → Ordering :=
  compareLex (compareOn fun k => k.kind.rank)
    (compareLex (compareOn fun k => k.id)
      (compareLex (compareOn fun k => k.subResource) (compareOn fun k => k.server)))

instance : Std.TransCmp cmp := inferInstanceAs (Std.TransCmp (compareLex _ _))

instance : LT ResourceKey := ⟨fun a b => cmp a b = .lt⟩

instance (a b : ResourceKey) : Decidable (a < b) := inferInstanceAs (Decidable (_ = _))

theorem lt_iff {a b : ResourceKey} : a < b ↔ cmp a b = .lt := Iff.rfl

theorem eq_of_cmp {a b : ResourceKey} (h : cmp a b = .eq) : a = b := by
  obtain ⟨ak, ai, ap, as⟩ := a
  obtain ⟨bk, bi, bp, bs⟩ := b
  simp only [cmp, compareLex, compareOn, Ordering.then_eq_eq] at h
  obtain ⟨hk, hi, hp, hs⟩ := h
  have hk := ResourceKind.rank_inj (Std.LawfulEqOrd.eq_of_compare hk)
  have hi := Std.LawfulEqOrd.eq_of_compare hi
  have hp := Std.LawfulEqOrd.eq_of_compare hp
  have hs := Std.LawfulEqOrd.eq_of_compare hs
  subst hk hi hp hs
  rfl

theorem lt_irrefl (a : ResourceKey) : ¬ a < a := by
  simp [lt_iff, Std.ReflCmp.compare_self]

theorem lt_trans {a b c : ResourceKey} (hab : a < b) (hbc : b < c) : a < c :=
  Std.TransCmp.lt_trans hab hbc

theorem lt_of_not_lt_of_ne {a b : ResourceKey} (h : ¬ a < b) (hne : a ≠ b) : b < a := by
  rw [lt_iff] at h ⊢
  rw [@Std.OrientedCmp.eq_swap _ cmp]
  cases hc : cmp a b with
  | lt => exact absurd hc h
  | eq => exact absurd (eq_of_cmp hc) hne
  | gt => rfl

theorem ne_of_lt {a b : ResourceKey} (h : a < b) : a ≠ b := fun e => lt_irrefl b (e ▸ h)

/-! ## JSON -/

/-- The key as JSON; absent parts are left out. -/
def json (k : ResourceKey) : Json :=
  .obj ([("kind", .str k.kind.text), ("id", .str k.id)] ++
    (k.subResource.map fun sub => ("sub_resource", Json.str sub)).toList ++
    (k.server.map fun server => ("server", Json.str server)).toList)

/-- The fields of a key, as far as they have been read. -/
structure Parts where
  kind : Option ResourceKind := none
  id : Option String := none
  subResource : Option (Option String) := none
  server : Option (Option String) := none

def reader : Reader ResourceKey :=
  Reader.record
    [⟨"kind", fun p => p.kind.isSome, fun p => do
      return { p with kind := some (← Reader.word ResourceKind.ofText?) }⟩,
     ⟨"id", fun p => p.id.isSome, fun p => do return { p with id := some (← Reader.string) }⟩,
     ⟨"sub_resource", fun p => p.subResource.isSome, fun p => do
      return { p with subResource := some (← Reader.optional Reader.string) }⟩,
     ⟨"server", fun p => p.server.isSome, fun p => do
      return { p with server := some (← Reader.optional Reader.string) }⟩]
    ({} : Parts)
    fun p => do return ⟨← p.kind, ← p.id, p.subResource.join, p.server.join⟩

end ResourceKey

end FleetWatch
