import Std.Data.ExtTreeMap

/-!
# Stream identifiers

An identifier has 31 bits. Its parity tells who opened the stream, and both
sides number their streams in steps of two. Main statement: the successors of
an id are the ids that follow it in steps of two, as far as 31 bits go
(`StreamId.next?_eq_some_iff`).
-/

namespace StreamMux

/-- A 31-bit stream identifier. Id 0 is the connection itself. -/
structure StreamId where
  value : Fin 0x80000000
  deriving DecidableEq, Repr

namespace StreamId

/-- The id in a 32-bit field; the reserved high bit is dropped. -/
def ofRaw (raw : UInt32) : StreamId :=
  ⟨Fin.ofNat 0x80000000 raw.toNat⟩

def zero : StreamId := ⟨0⟩

def max : StreamId := ⟨Fin.last 0x7FFFFFFF⟩

instance : Inhabited StreamId := ⟨zero⟩

def toNat (id : StreamId) : Nat := id.value.val

def isZero (id : StreamId) : Bool := id.toNat == 0

/-- Clients open streams with odd ids. -/
def isClientInitiated (id : StreamId) : Bool := id.toNat % 2 == 1

def isServerInitiated (id : StreamId) : Bool := id.toNat != 0 && id.toNat % 2 == 0

/-- The next id of the same parity, if 31 bits can hold it. -/
def next? (id : StreamId) : Option StreamId :=
  if h : id.toNat + 2 < 0x80000000 then some ⟨⟨id.toNat + 2, h⟩⟩ else none

/-- The next `n` ids of the same parity; fewer where the ids run out. -/
def successors (id : StreamId) : Nat → List StreamId
  | 0 => []
  | n + 1 =>
    match id.next? with
    | none => []
    | some next => next :: next.successors n

instance : ToString StreamId where
  toString id := s!"StreamId({id.toNat})"

instance : Ord StreamId where
  compare a b := compare a.value b.value

instance : Std.TransOrd StreamId where
  eq_swap {a b} := Std.OrientedOrd.eq_swap (a := a.value) (b := b.value)
  isLE_trans {a b c} := Std.TransOrd.isLE_trans (a := a.value) (b := b.value) (c := c.value)

instance : Std.LawfulEqOrd StreamId where
  eq_of_compare {a b} h := by
    cases a; cases b
    exact congrArg StreamId.mk (Std.LawfulEqOrd.eq_of_compare h)

@[simp] theorem toNat_ofRaw (raw : UInt32) : (ofRaw raw).toNat = raw.toNat % 0x80000000 := rfl

theorem toNat_lt (id : StreamId) : id.toNat < 0x80000000 := id.value.isLt

@[ext] theorem ext_toNat {a b : StreamId} (h : a.toNat = b.toNat) : a = b := by
  cases a; cases b
  exact congrArg StreamId.mk (Fin.ext h)

/-- An id has a successor exactly when two can be added within 31 bits. -/
theorem next?_eq_some_iff {id next : StreamId} :
    id.next? = some next ↔ next.toNat = id.toNat + 2 := by
  have bound := next.toNat_lt
  unfold next?
  split
  · rename_i fits
    constructor
    · intro h
      cases h
      rfl
    · intro h
      exact congrArg some (ext_toNat h.symm)
  · exact ⟨nofun, fun h => absurd (h ▸ bound) ‹_›⟩

/-- An id has no successor exactly when it is one of the two largest. -/
theorem next?_eq_none_iff {id : StreamId} : id.next? = none ↔ 0x80000000 ≤ id.toNat + 2 := by
  unfold next?
  split <;> simp <;> omega

end StreamId

end StreamMux
