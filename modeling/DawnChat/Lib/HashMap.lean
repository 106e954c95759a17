/-
DawnChat/Lib/HashMap.lean

Hash maps with their iteration order.

A Rust `HashMap<K, V>` is a finite map whose iterator visits the entries in
some order that the program does not control.  Both halves matter to code that
collects a map into a vector, so the model keeps them together: a map is an
`AList`, that is a list of entries without duplicate keys, and the order of the
list *is* the iteration order.  A statement about every `AList` is then a
statement about every iteration order, and "the result does not depend on the
iteration order" is invariance under permutation of `entries`.

Lookup, insertion and removal are Mathlib's.  Added here are the operations
that Rust code uses on top of them: updating a value in place (`get_mut`),
listing the values, and collecting an iterator of pairs, where the *last* pair
for a key wins.
-/
import Mathlib.Data.List.AList

namespace RustStd

open Function List Option AList

variable {K V W : Type*}

/-- A hash map together with the order its iterator happens to have. -/
abbrev HashMap (K V : Type*) := AList (fun _ : K => V)

namespace HashMap

/-- The entries as pairs, in iteration order. -/
def toList (m : HashMap K V) : List (K × V) := m.entries.map fun e => (e.1, e.2)

/-- The values, in iteration order. -/
def values (m : HashMap K V) : List V := m.toList.map (·.2)

/-- Number of entries. -/
def len (m : HashMap K V) : Nat := m.entries.length

/-- Replace every value, keeping keys and iteration order. -/
def mapValues (f : K → V → W) (m : HashMap K V) : HashMap K W where
  entries := m.entries.map (.map id f)
  nodupKeys := by
    have h := m.nodupKeys
    simpa [List.NodupKeys, List.keys, Function.comp_def, Sigma.map] using h

/-- `retain`: keep the entries that satisfy `p`. -/
def retain (m : HashMap K V) (p : K → V → Bool) : HashMap K V where
  entries := m.entries.filter fun e => p e.1 e.2
  nodupKeys := List.NodupKeys.sublist List.filter_sublist m.nodupKeys

@[simp] theorem keys_mapValues (f : K → V → W) (m : HashMap K V) :
    (m.mapValues f).keys = m.keys := by
  simp [mapValues, AList.keys, List.keys, comp_def, Sigma.map]

@[simp] theorem map_fst_toList (m : HashMap K V) : m.toList.map (·.1) = m.keys := by
  simp [toList, AList.keys, List.keys]

theorem nodup_toList (m : HashMap K V) : m.toList.Nodup := by
  refine List.Nodup.of_map (·.1) ?_
  rw [map_fst_toList]
  exact m.keys_nodup

@[simp] theorem length_toList (m : HashMap K V) : m.toList.length = m.len := by
  simp [toList, len]

theorem len_eq_length_keys (m : HashMap K V) : m.len = m.keys.length := by
  simp [len, AList.keys, List.keys]

@[simp] theorem mapValues_self (m : HashMap K V) : (m.mapValues fun _ v => v) = m := by
  apply AList.ext
  exact List.map_id m.entries

theorem mapValues_mapValues {X : Type*} (f : K → W → X) (g : K → V → W) (m : HashMap K V) :
    (m.mapValues g).mapValues f = m.mapValues fun k v => f k (g k v) := by
  apply AList.ext
  simp [mapValues, Sigma.map, comp_def]

theorem mapValues_congr {f g : K → V → W} {m : HashMap K V}
    (h : ∀ e ∈ m.toList, f e.1 e.2 = g e.1 e.2) : m.mapValues f = m.mapValues g := by
  apply AList.ext
  refine map_congr_left fun e he => ?_
  have hfg := h (e.1, e.2) (List.mem_map.mpr ⟨e, he, rfl⟩)
  exact congrArg (Sigma.mk e.1) hfg

theorem toList_mapValues (f : K → V → W) (m : HashMap K V) :
    (m.mapValues f).toList = m.toList.map fun e => (e.1, f e.1 e.2) := by
  simp [toList, mapValues, Sigma.map]

section Lookup

variable [DecidableEq K]

@[simp] theorem lookup_mapValues (f : K → V → W) (m : HashMap K V) (k : K) :
    (m.mapValues f).lookup k = (m.lookup k).map (f k) :=
  dlookup_map₂ k

/-- `get_mut`: update the value at `k` in place, if there is one. -/
def modify (m : HashMap K V) (k : K) (f : V → V) : HashMap K V :=
  m.mapValues fun k' v => if k' = k then f v else v

@[simp] theorem keys_modify (m : HashMap K V) (k : K) (f : V → V) :
    (m.modify k f).keys = m.keys := by
  simp [modify]

variable {m : HashMap K V} {k k' : K} {v : V}

theorem mem_modify {f : V → V} : k' ∈ m.modify k f ↔ k' ∈ m := by
  rw [AList.mem_keys, AList.mem_keys, keys_modify]

@[simp] theorem lookup_modify (m : HashMap K V) (k : K) (f : V → V) :
    (m.modify k f).lookup k = (m.lookup k).map f := by
  simp [modify]

theorem lookup_modify_ne (h : k' ≠ k) (m : HashMap K V) (f : V → V) :
    (m.modify k f).lookup k' = m.lookup k' := by
  simp [modify, h]

theorem lookup_modify_eq (m : HashMap K V) (k k' : K) (f : V → V) :
    (m.modify k f).lookup k' = if k' = k then (m.lookup k').map f else m.lookup k' := by
  by_cases h : k' = k
  · subst h
    rw [if_pos rfl, lookup_modify]
  · rw [if_neg h, lookup_modify_ne h]

/-- A pair is listed exactly when looking its key up finds its value. -/
theorem mem_toList_iff {e : K × V} : e ∈ m.toList ↔ m.lookup e.1 = some e.2 := by
  rw [← mem_def, mem_lookup_iff, toList, List.mem_map]
  constructor
  · rintro ⟨s, hs, rfl⟩
    exact hs
  · intro h
    exact ⟨_, h, rfl⟩

theorem mem_values : v ∈ m.values ↔ ∃ k, m.lookup k = some v := by
  rw [values, List.mem_map]
  constructor
  · rintro ⟨e, he, rfl⟩
    exact ⟨e.1, mem_toList_iff.mp he⟩
  · rintro ⟨k, hk⟩
    exact ⟨(k, v), mem_toList_iff.mpr hk, rfl⟩

theorem lookup_retain (m : HashMap K V) (p : K → V → Bool) (k : K) :
    (m.retain p).lookup k = (m.lookup k).filter (p k) := by
  apply Option.ext
  intro v
  rw [filter_eq_some_iff, ← mem_def, ← mem_def, mem_lookup_iff, mem_lookup_iff]
  exact mem_filter

theorem values_insert_of_notMem (h : k ∉ m) (v : V) : values (m.insert k v) = v :: m.values := by
  rw [values, toList, entries_insert_of_notMem h]
  rfl

theorem len_insert (m : HashMap K V) (k : K) (v : V) :
    len (m.insert k v) = if k ∈ m then m.len else m.len + 1 := by
  rw [len_eq_length_keys, keys_insert, length_cons, len_eq_length_keys]
  split
  · next hk => rw [length_erase_of_mem hk, Nat.sub_add_cancel (length_pos_of_mem hk)]
  · next hk => rw [erase_of_not_mem hk]

theorem erase_of_notMem (h : k ∉ m) : m.erase k = m :=
  AList.ext (kerase_of_notMem_keys h)

theorem values_erase_sublist (m : HashMap K V) (k : K) : (values (m.erase k)).Sublist m.values :=
  ((kerase_sublist k m.entries).map _).map _

/-- Removing a key only takes its own entry from the list. -/
theorem filter_toList_erase (m : HashMap K V) {p : K × V → Bool}
    (hp : ∀ v, p (k, v) = false) : (toList (m.erase k)).filter p = m.toList.filter p := by
  show ((m.entries.kerase k).map fun e => (e.1, e.2)).filter p
    = (m.entries.map fun e => (e.1, e.2)).filter p
  induction m.entries with
  | nil => rfl
  | cons e l ih =>
    by_cases hk : k = e.1
    · subst hk
      rw [kerase_cons_eq rfl, map_cons, filter_cons_of_neg (by simp [hp])]
    · rw [kerase_cons_ne hk, map_cons, map_cons, filter_cons, filter_cons, ih]

theorem mem_iff_exists_lookup : k ∈ m ↔ ∃ v, m.lookup k = some v := by
  rw [← lookup_isSome, isSome_iff_exists]

theorem lookup_erase_eq_some : (m.erase k).lookup k' = some v ↔ k' ≠ k ∧ m.lookup k' = some v := by
  by_cases h : k' = k
  · subst h
    simp
  · simp [lookup_erase_ne h, h]

theorem lookup_insert_eq_some {w : V} :
    (m.insert k v).lookup k' = some w ↔ k' = k ∧ v = w ∨ k' ≠ k ∧ m.lookup k' = some w := by
  by_cases h : k' = k
  · subst h
    simp
  · simp [lookup_insert_ne h, h]

/-! ### A number for each key -/

section SizeAt

variable {m : HashMap K V} {k : K} {v : V}

/-- The size of the value at a key, zero if there is none. -/
def sizeAt (size : V → Nat) (m : HashMap K V) (k : K) : Nat := (m.lookup k).elim 0 size

theorem sizeAt_of_lookup (size : V → Nat) (h : m.lookup k = some v) : m.sizeAt size k = size v := by
  rw [sizeAt, h]
  rfl

theorem sizeAt_of_notMem (size : V → Nat) (h : k ∉ m) : m.sizeAt size k = 0 := by
  rw [sizeAt, lookup_eq_none.mpr h]
  rfl

theorem sizeAt_insert (size : V → Nat) (m : HashMap K V) (k : K) (v : V) :
    sizeAt size (m.insert k v) = Function.update (m.sizeAt size) k (size v) := by
  funext k'
  by_cases hk : k' = k
  · subst hk
    rw [update_self, sizeAt, lookup_insert]
    rfl
  · rw [update_of_ne hk, sizeAt, lookup_insert_ne hk]
    rfl

theorem sizeAt_modify (size : V → Nat) {f : V → V} (h : m.lookup k = some v) :
    (m.modify k f).sizeAt size = Function.update (m.sizeAt size) k (size (f v)) := by
  funext k'
  by_cases hk : k' = k
  · subst hk
    rw [update_self, sizeAt, lookup_modify, h]
    rfl
  · rw [update_of_ne hk, sizeAt, lookup_modify_ne hk]
    rfl

end SizeAt

/-! ### Values with distinct tags -/

section UniqueBy

variable {T : Type*} {tag : V → T} {m : HashMap K V} {k : K}

/-- No two entries have values with the same tag. -/
def UniqueBy (tag : V → T) (m : HashMap K V) : Prop :=
  ∀ ⦃k₁ k₂ v₁ v₂⦄, m.lookup k₁ = some v₁ → m.lookup k₂ = some v₂ → tag v₁ = tag v₂ → k₁ = k₂

/-- If the tag of `v` is in no other entry, then the entry of `k` may become `v`. -/
theorem UniqueBy.replace {m' : HashMap K V} {v : V} (h : UniqueBy tag m)
    (hk : m'.lookup k = some v) (hne : ∀ k' ≠ k, m'.lookup k' = m.lookup k')
    (hv : ∀ k' ≠ k, ∀ v', m.lookup k' = some v' → tag v' ≠ tag v) : UniqueBy tag m' := by
  intro k₁ k₂ v₁ v₂ h₁ h₂ htag
  by_cases hk₁ : k₁ = k <;> by_cases hk₂ : k₂ = k
  · rw [hk₁, hk₂]
  · -- only the first entry is the new one
    subst hk₁
    obtain rfl : v = v₁ := some.inj (hk.symm.trans h₁)
    rw [hne k₂ hk₂] at h₂
    exact absurd htag.symm (hv k₂ hk₂ v₂ h₂)
  · subst hk₂
    obtain rfl : v = v₂ := some.inj (hk.symm.trans h₂)
    rw [hne k₁ hk₁] at h₁
    exact absurd htag (hv k₁ hk₁ v₁ h₁)
  · rw [hne k₁ hk₁] at h₁
    rw [hne k₂ hk₂] at h₂
    exact h h₁ h₂ htag

end UniqueBy

/-! ### Values stored under their own keys -/

section KeyedBy

variable {key : V → K} {m : HashMap K V}

/-- Every value is stored under its own key. -/
def KeyedBy (key : V → K) (m : HashMap K V) : Prop :=
  ∀ ⦃k v⦄, m.lookup k = some v → key v = k

theorem keyedBy_empty : KeyedBy key (∅ : HashMap K V) := by
  intro k v h
  cases h

theorem KeyedBy.insert (h : KeyedBy key m) (v : V) : KeyedBy key (m.insert (key v) v) := by
  intro k w hw
  by_cases hk : k = key v
  · subst hk
    rw [lookup_insert] at hw
    rw [some.inj hw]
  · rw [lookup_insert_ne hk] at hw
    exact h hw

theorem KeyedBy.modify {f : V → V} {k : K} (h : KeyedBy key m)
    (hf : ∀ v, m.lookup k = some v → key (f v) = key v) : KeyedBy key (m.modify k f) := by
  intro k' w hw
  rw [lookup_modify_eq] at hw
  split at hw
  · next hk =>
    subst hk
    obtain ⟨v, hv, rfl⟩ := map_eq_some_iff.mp hw
    rw [hf v hv]
    exact h hv
  · exact h hw

end KeyedBy

/-! ### Collecting pairs -/

/-- `collect::<HashMap<_, _>>()`: insert the pairs one after another. -/
def collect (l : List (K × V)) : HashMap K V :=
  l.foldl (fun m e => m.insert e.1 e.2) ∅

theorem lookup_foldl_insert (l : List (K × V)) (m : HashMap K V) (k : K) :
    (l.foldl (fun m e => m.insert e.1 e.2) m).lookup k
      = ((l.filter (·.1 = k)).getLast?.map (·.2)).or (m.lookup k) := by
  induction l generalizing m with
  | nil => simp
  | cons e l ih =>
    rw [foldl_cons, ih]
    by_cases he : e.1 = k
    · subst he
      rw [filter_cons_of_pos (by simp), lookup_insert, getLast?_cons]
      rcases hl : (l.filter (·.1 = e.1)).getLast? with - | x <;> simp
    · rw [filter_cons_of_neg (by simpa using he), lookup_insert_ne (Ne.symm he)]

/-- In a collected map the last pair for a key decides. -/
theorem lookup_collect (l : List (K × V)) (k : K) :
    (collect l).lookup k = (l.filter (·.1 = k)).getLast?.map (·.2) := by
  rw [collect, lookup_foldl_insert]
  simp

/-- Removing several keys. -/
theorem lookup_foldl_erase (ks : List K) (m : HashMap K V) (k : K) :
    (ks.foldl (fun m k => m.erase k) m).lookup k = if k ∈ ks then none else m.lookup k := by
  induction ks generalizing m with
  | nil => simp
  | cons k' ks ih =>
    rw [foldl_cons, ih]
    by_cases hk : k = k'
    · subst hk
      simp
    · simp [lookup_erase_ne hk, hk]

end Lookup

end HashMap

/-! ### Records by key -/

section Records

variable [DecidableEq K]

/-- The record a list holds for a key: the last one, if it names the key at all. -/
def recordOf (key : V → K) (l : List V) (k : K) : Option V := (l.filter (key · = k)).getLast?

theorem recordOf_append (key : V → K) (l l' : List V) (k : K) :
    recordOf key (l ++ l') k = (recordOf key l' k).or (recordOf key l k) := by
  rw [recordOf, filter_append, getLast?_append]
  rfl

theorem recordOf_cons (key : V → K) (a : V) (l : List V) (k : K) :
    recordOf key (a :: l) k
      = (recordOf key l k).or (if key a = k then some a else none) := by
  by_cases h : key a = k
  · rw [recordOf, filter_cons_of_pos (by simpa using h), getLast?_cons, if_pos h]
    change some ((recordOf key l k).getD a) = _
    cases recordOf key l k <;> rfl
  · rw [recordOf, filter_cons_of_neg (by simpa using h), if_neg h, or_none]
    rfl

variable {key : V → K} {l : List V} {k : K} {a : V}

/-- Where all records have the same key, it is the last one. -/
theorem recordOf_of_forall (h : ∀ a ∈ l, key a = k) : recordOf key l k = l.getLast? := by
  rw [recordOf, filter_eq_self.mpr fun a ha => by simpa using h a ha]

theorem recordOf_eq_none : recordOf key l k = none ↔ ∀ a ∈ l, key a ≠ k := by
  rw [recordOf, getLast?_eq_none_iff, filter_eq_nil_iff]
  simp

theorem recordOf_eq_none_iff_notMem : recordOf key l k = none ↔ k ∉ l.map key := by
  simp [recordOf_eq_none]

theorem key_of_recordOf (h : recordOf key l k = some a) : a ∈ l ∧ key a = k := by
  simpa using mem_filter.mp (mem_of_getLast? h)

theorem recordOf_of_unique (ha : a ∈ l) (hkey : key a = k)
    (h : ∀ b ∈ l, key b = k → b = a) : recordOf key l k = some a := by
  rcases hrecord : recordOf key l k with - | b
  · exact absurd hkey (recordOf_eq_none.mp hrecord a ha)
  · obtain ⟨hb, hkeyb⟩ := key_of_recordOf hrecord
    rw [h b hb hkeyb]

theorem recordOf_of_mem (hnodup : (l.map key).Nodup)
    (h : a ∈ l) : recordOf key l (key a) = some a :=
  recordOf_of_unique h rfl fun _ hb hkey => inj_on_of_nodup_map hnodup hb h hkey

/-- A record is one of the list, or no record of the list has its key. -/
theorem recordOf_or {o : Option V} (h : (recordOf key l k).or o = some a) :
    (a ∈ l ∧ key a = k) ∨ (k ∉ l.map key ∧ o = some a) := by
  rcases hrecord : recordOf key l k with - | b
  · rw [hrecord, none_or] at h
    exact .inr ⟨recordOf_eq_none_iff_notMem.mp hrecord, h⟩
  · rw [hrecord, some_or] at h
    obtain rfl := some.inj h
    exact .inl (key_of_recordOf hrecord)

theorem lookup_collect_eq_recordOf (key : V → K) (l : List V) (k : K) :
    (HashMap.collect (l.map fun a => (key a, a))).lookup k = recordOf key l k := by
  rw [HashMap.lookup_collect, List.filter_map, getLast?_map, Option.map_map, recordOf]
  exact Option.map_id'

theorem lookup_foldl_insert_key (key : V → K) (l : List V) (m : HashMap K V) (k : K) :
    (l.foldl (fun m a => m.insert (key a) a) m).lookup k
      = (recordOf key l k).or (m.lookup k) := by
  have h := HashMap.lookup_foldl_insert (l.map fun a => (key a, a)) m k
  rw [foldl_map, List.filter_map, getLast?_map, Option.map_map] at h
  rw [h, recordOf]
  show (Option.map (fun a => a) _).or _ = _
  rw [Option.map_id']
  rfl

end Records

end RustStd
