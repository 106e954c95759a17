/-
DawnChat/Members/Generator.lean

Reading members one by one from the in-memory driver
(`ChunkedServerMembersGenerator` in `core/database/src/models/server_members/ops.rs`).

The generator stops while its list is at least as long as its offset, where the test should be
the other way round.  So it yields nothing, unless the length is negative as a number of 32
bits: then it yields members until the offset is negative, too (`membersChunked_yield_iff`).
-/
import DawnChat.Database
import DawnChat.Lib.Chunked

namespace DawnChat

open RustStd Chunked List

/-- `ChunkedServerMembersGenerator::Reference`.  The offset has 32 bits and wraps around. -/
structure ReferenceGenerator where
  offset : Int := 0
  data : Option (List Member)

namespace ReferenceGenerator

/-- The next member, if there is one.  `none` is a panic: the index is out of range. -/
def next (generator : ReferenceGenerator) : Option (Option Member × ReferenceGenerator) :=
  match generator.data with
  | none => some (none, generator)
  | some data =>
    if (data.length : Int).bmod (2 ^ 32) ≥ generator.offset then some (none, generator)
    else do
      let resp ← data[(generator.offset % 2 ^ 64).toNat]?
      some (some resp, { generator with offset := (generator.offset + 1).bmod (2 ^ 32) })

/-- The generator yields every member once, and no index is out of range. -/
def YieldsAll (generator : ReferenceGenerator) (members : List Member) : Prop :=
  ∃ l : List Member, l.Perm members ∧ Yields next generator l

/-- A generator that has stopped stays as it is. -/
theorem eq_of_next_none {generator after : ReferenceGenerator}
    (h : next generator = some (none, after)) : after = generator := by
  rw [next] at h
  split at h
  · cases h
    rfl
  · split at h
    · cases h
      rfl
    · obtain ⟨_, -, hresp⟩ := Option.bind_eq_some_iff.mp h
      cases hresp

variable {data : List Member}

theorem next_of_le {offset : Int} (h : offset ≤ (data.length : Int).bmod (2 ^ 32)) :
    next ⟨offset, some data⟩ = some (none, ⟨offset, some data⟩) := by
  simp only [next, ge_iff_le, if_pos h]

theorem next_of_lt {i : Nat} (h : (data.length : Int).bmod (2 ^ 32) < i) (hi : i < 2 ^ 31)
    (hlength : i < data.length) :
    next ⟨i, some data⟩
      = some (some data[i], ⟨((i + 1 : Nat) : Int).bmod (2 ^ 32), some data⟩) := by
  have hindex : ((i : Int) % 2 ^ 64).toNat = i := by omega
  simp only [next, ge_iff_le, if_neg (Int.not_le.mpr h), hindex, getElem?_eq_getElem hlength]
  rfl

/-- A length that is negative with 32 bits leaves a member at every offset that is not. -/
theorem yields_of_neg (h : (data.length : Int).bmod (2 ^ 32) < 0) {i k : Nat}
    (hi : i + k = 2 ^ 31) :
    Yields next ⟨(i : Int).bmod (2 ^ 32), some data⟩ ((data.take (2 ^ 31)).drop i) := by
  have hlength : 2 ^ 31 ≤ data.length := by rw [Int.bmod] at h; omega
  have htake : (data.take (2 ^ 31)).length = 2 ^ 31 := length_take_of_le hlength
  induction k generalizing i with
  | zero =>
    -- the offset has wrapped around
    rw [drop_eq_nil_of_le (by omega)]
    exact .nil (next_of_le (by rw [Int.bmod, Int.bmod]; omega))
  | succ k ih =>
    have hoffset : (i : Int).bmod (2 ^ 32) = i := by rw [Int.bmod]; omega
    rw [drop_eq_getElem_cons (by omega), getElem_take, hoffset]
    exact .cons (next_of_lt (by omega) (by omega) (by omega)) (ih (by omega))

theorem yieldsAll_iff : YieldsAll { data := some data } data
    ↔ data = [] ∨ data.length = 2 ^ 31 := by
  by_cases h : 0 ≤ (data.length : Int).bmod (2 ^ 32)
  · have hlength : data.length ≠ 2 ^ 31 := by rw [Int.bmod] at h; omega
    have hyields : Yields next { data := some data } [] := .nil (next_of_le h)
    constructor
    · rintro ⟨l, hl, hall⟩
      obtain rfl := hall.unique hyields
      exact .inl hl.nil_eq.symm
    · rintro (rfl | hdata)
      · exact ⟨[], .refl _, hyields⟩
      · exact absurd hdata hlength
  · have hyields := yields_of_neg (Int.not_le.mp h) (Nat.zero_add (2 ^ 31))
    rw [drop_zero] at hyields
    constructor
    · rintro ⟨l, hl, hall⟩
      obtain rfl := hall.unique hyields
      have hlength := hl.length_eq
      rw [length_take] at hlength
      rw [Int.bmod] at h
      exact .inr (by omega)
    · rintro (rfl | hdata)
      · exact absurd (by decide) h
      · rw [take_of_length_le hdata.le] at hyields
        exact ⟨data, .refl _, hyields⟩

end ReferenceGenerator

open ReferenceGenerator

namespace ReferenceDb

/-- The members of a server. -/
def serverMembersOf (serverId : String) (db : ReferenceDb) : List Member :=
  db.serverMembers.values.filter (·.id.server = serverId)

/-- The members of a server that hold one of the roles. -/
def serverMembersWithRoles (serverId : String) (roles : List String) (db : ReferenceDb) :
    List Member :=
  db.serverMembers.values.filter fun member =>
    member.id.server = serverId && !(member.roles.filter (roles.contains ·)).isEmpty

/-- Fetch all members in a server as an iterator. -/
def fetchAllMembersChunked (serverId : String) (db : ReferenceDb) : ReferenceGenerator where
  data := some (serverMembersOf serverId db)

def fetchAllMembersWithRolesChunked (serverId : String) (roles : List String) (db : ReferenceDb) :
    ReferenceGenerator where
  data := some (serverMembersWithRoles serverId roles db)

/-- **Both generators are complete only for no members, and for exactly `2 ^ 31` of them.**  They
return nothing forever once they have stopped. -/
theorem membersChunked_yield_iff (serverId : String) (roles : List String) (db : ReferenceDb) :
    (∀ generator after, ReferenceGenerator.next generator = some (none, after) →
      after = generator) ∧
    ((fetchAllMembersChunked serverId db).YieldsAll (serverMembersOf serverId db)
      ↔ serverMembersOf serverId db = [] ∨ (serverMembersOf serverId db).length = 2 ^ 31) ∧
    ((fetchAllMembersWithRolesChunked serverId roles db).YieldsAll
        (serverMembersWithRoles serverId roles db)
      ↔ serverMembersWithRoles serverId roles db = [] ∨
        (serverMembersWithRoles serverId roles db).length = 2 ^ 31) :=
  ⟨fun _ _ => eq_of_next_none, yieldsAll_iff,
    yieldsAll_iff⟩

/-- A server with one member, who is not yielded. -/
theorem single_member_not_yielded :
    let member : Member := { id := ⟨"S", "U"⟩, roles := ["R"] }
    let db : ReferenceDb := { serverMembers := (∅ : HashMap _ _).insert member.id member }
    serverMembersOf "S" db = [member] ∧ serverMembersWithRoles "S" ["R"] db = [member] ∧
      (fetchAllMembersChunked "S" db).next.map (·.1) = some none ∧
      (fetchAllMembersWithRolesChunked "S" ["R"] db).next.map (·.1) = some none := by
  decide

end ReferenceDb

end DawnChat
