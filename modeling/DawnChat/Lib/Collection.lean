/-
DawnChat/Lib/Collection.lean

Collections of documents.

A document database keeps every document of a collection under the key that
the document itself carries, so a key determines the document.  `Collection key`
is a hash map with that property as a field: a collection in which a document
lies under another key cannot be built, and every write has to keep the keys.

What a write does is said by membership.  `v ∈ c` means that `c` holds the
document `v`, and each operation has one lemma that says which documents are
there afterwards.
-/
import DawnChat.Lib.HashMap

namespace RustStd

open HashMap List

variable {K V : Type*}

/-- Documents, each stored under its own key. -/
structure Collection (key : V → K) where
  docs : HashMap K V
  keyed : ∀ e ∈ docs.toList, key e.2 = e.1

namespace Collection

variable {key : V → K}

instance : EmptyCollection (Collection key) where
  emptyCollection := ⟨∅, fun _ h => absurd h List.not_mem_nil⟩

instance : Inhabited (Collection key) := ⟨∅⟩

/-- The documents, in the order in which a query without a sort yields them. -/
def documents (c : Collection key) : List V := c.docs.values

instance : Membership V (Collection key) where
  mem c v := v ∈ c.documents

variable {c : Collection key} {v : V}

@[simp] theorem mem_documents : v ∈ c.documents ↔ v ∈ c := Iff.rfl

instance [DecidableEq V] (c : Collection key) (v : V) : Decidable (v ∈ c) :=
  inferInstanceAs (Decidable (v ∈ c.documents))

theorem map_key_documents (c : Collection key) : c.documents.map key = c.docs.keys := by
  rw [documents, values, map_map, ← map_fst_toList]
  exact map_congr_left fun e he => c.keyed e he

theorem nodup_map_key (c : Collection key) : (c.documents.map key).Nodup := by
  rw [map_key_documents]
  exact c.docs.keys_nodup

/-- A key determines the document. -/
theorem eq_of_key_eq {w : V} (hv : v ∈ c) (hw : w ∈ c) (h : key v = key w) : v = w :=
  inj_on_of_nodup_map c.nodup_map_key hv hw h

/-- Apply a change to the documents that satisfy `p` (`update_many`). -/
def updateMany (c : Collection key) (p : V → Bool) (f : V → V) (hf : ∀ v, key (f v) = key v) :
    Collection key where
  docs := c.docs.mapValues fun _ v => if p v then f v else v
  keyed := by
    intro e he
    rw [HashMap.toList_mapValues] at he
    obtain ⟨e₀, he₀, rfl⟩ := List.mem_map.mp he
    have hkey := c.keyed e₀ he₀
    dsimp only
    split
    · rw [hf, hkey]
    · exact hkey

/-- Keep the documents that satisfy `p`. -/
def retain (c : Collection key) (p : V → Bool) : Collection key where
  docs := c.docs.retain fun _ v => p v
  keyed := by
    intro e he
    obtain ⟨s, hs, rfl⟩ := List.mem_map.mp he
    exact c.keyed _ (List.mem_map.mpr ⟨s, (List.mem_filter.mp hs).1, rfl⟩)

theorem documents_retain (c : Collection key) (p : V → Bool) :
    (c.retain p).documents = c.documents.filter p := by
  simp only [documents, values, toList, retain, retain, map_map, filter_map]
  rfl

theorem mem_retain {p : V → Bool} : v ∈ c.retain p ↔ v ∈ c ∧ p v = true := by
  rw [← mem_documents, documents_retain, mem_filter]
  rfl

section Keys

variable [DecidableEq K]

/-- Look a document up by its key. -/
def get? (c : Collection key) (k : K) : Option V := c.docs.lookup k

theorem get?_eq_some {c : Collection key} {k : K} {v : V} :
    c.get? k = some v ↔ v ∈ c ∧ key v = k := by
  rw [get?, ← mem_documents, documents, values, mem_map]
  constructor
  · intro h
    have he : (k, v) ∈ c.docs.toList := mem_toList_iff.mpr h
    exact ⟨⟨(k, v), he, rfl⟩, c.keyed _ he⟩
  · rintro ⟨⟨e, he, rfl⟩, rfl⟩
    rw [c.keyed e he]
    exact mem_toList_iff.mp he

theorem get?_key {c : Collection key} {v : V} (h : v ∈ c) : c.get? (key v) = some v :=
  get?_eq_some.mpr ⟨h, rfl⟩

/-- A query for a key and something else finds the document of the key, if that satisfies
the rest. -/
theorem find?_key (c : Collection key) (k : K) (p : V → Bool) :
    (c.documents.find? fun v => decide (key v = k) && p v) = (c.get? k).filter p := by
  rcases hfind : c.documents.find? fun v => decide (key v = k) && p v with - | v
  · symm
    rw [Option.filter_eq_none_iff]
    intro v hv
    obtain ⟨hmem, hkey⟩ := get?_eq_some.mp hv
    simpa [hkey] using find?_eq_none.mp hfind v hmem
  · have hv := find?_some hfind
    rw [Bool.and_eq_true, decide_eq_true_eq] at hv
    rw [get?_eq_some.mpr ⟨mem_of_find?_eq_some hfind, hv.1⟩, Option.filter_some, if_pos hv.2]

theorem get?_updateMany (c : Collection key) (p : V → Bool) (f : V → V)
    (hf : ∀ v, key (f v) = key v) (k : K) :
    (c.updateMany p f hf).get? k = (c.get? k).map fun v => if p v then f v else v :=
  lookup_mapValues _ c.docs k

theorem get?_retain (c : Collection key) (p : V → Bool) (k : K) :
    (c.retain p).get? k = (c.get? k).filter p := by
  apply Option.ext
  intro v
  rw [Option.filter_eq_some_iff, get?_eq_some, get?_eq_some, mem_retain]
  exact and_right_comm

/-- Change the document of one key. -/
theorem get?_updateMany_key (c : Collection key) (k₀ : K) (f : V → V)
    (hf : ∀ v, key (f v) = key v) (k : K) :
    (c.updateMany (fun v => key v = k₀) f hf).get? k
      = if k = k₀ then (c.get? k).map f else c.get? k := by
  rw [get?_updateMany]
  rcases hv : c.get? k with - | v
  · simp
  · obtain ⟨-, rfl⟩ := get?_eq_some.mp hv
    by_cases hk : key v = k₀ <;> simp [hk]

/-- Delete the document of one key. -/
theorem get?_retain_key (c : Collection key) (k₀ k : K) :
    (c.retain fun v => key v ≠ k₀).get? k = if k = k₀ then none else c.get? k := by
  rw [get?_retain]
  rcases hv : c.get? k with - | v
  · simp
  · obtain ⟨-, rfl⟩ := get?_eq_some.mp hv
    by_cases hk : key v = k₀ <;> simp [hk]

/-- Store a document, replacing the one with the same key. -/
def insert (c : Collection key) (v : V) : Collection key where
  docs := c.docs.insert (key v) v
  keyed := by
    intro e he
    have hlookup := HashMap.mem_toList_iff.mp he
    by_cases hk : e.1 = key v
    · rw [hk, AList.lookup_insert] at hlookup
      rw [hk, ← Option.some.inj hlookup]
    · rw [AList.lookup_insert_ne hk] at hlookup
      exact c.keyed e (HashMap.mem_toList_iff.mpr hlookup)

theorem get?_insert (c : Collection key) (v : V) (k : K) :
    (c.insert v).get? k = if k = key v then some v else c.get? k := by
  by_cases hk : k = key v
  · rw [if_pos hk, hk]
    exact AList.lookup_insert c.docs
  · rw [if_neg hk]
    exact AList.lookup_insert_ne hk

/-- Change the documents that satisfy `p`; when there is none, insert `new`
(`update_many` with `upsert`).  The insertion fails if the key is taken. -/
def upsertMany (c : Collection key) (p : V → Bool) (f : V → V) (hf : ∀ v, key (f v) = key v)
    (new : V) : Option (Collection key) :=
  if c.documents.any p then some (c.updateMany p f hf)
  else
    match c.get? (key new) with
    | some _ => none
    | none => some (c.insert new)

section Upsert

variable {c c' : Collection key} {p : V → Bool} {f : V → V} {hf : ∀ v, key (f v) = key v} {new : V}

theorem get?_upsertMany_of_any (hany : c.documents.any p = true)
    (h : c.upsertMany p f hf new = some c') (k : K) :
    c'.get? k = (c.get? k).map fun v => if p v then f v else v := by
  rw [upsertMany, if_pos hany] at h
  obtain rfl := Option.some.inj h
  exact get?_updateMany c p f hf k

theorem get?_upsertMany_of_not_any (hany : c.documents.any p = false)
    (h : c.upsertMany p f hf new = some c') (k : K) :
    c'.get? k = if k = key new then some new else c.get? k := by
  rw [upsertMany, if_neg (by simp [hany])] at h
  split at h
  · cases h
  · obtain rfl := Option.some.inj h
    exact get?_insert c new k

theorem any_key_eq {k : K} : (c.documents.any fun v => key v = k) = (c.get? k).isSome := by
  rw [Bool.eq_iff_iff, any_eq_true, Option.isSome_iff_exists]
  constructor
  · rintro ⟨v, hv, hk⟩
    exact ⟨v, get?_eq_some.mpr ⟨hv, of_decide_eq_true hk⟩⟩
  · rintro ⟨v, hv⟩
    exact ⟨v, (get?_eq_some.mp hv).1, decide_eq_true (get?_eq_some.mp hv).2⟩

/-- **Upsert of one document.**  Where the filter is the key of the new document, the
operation succeeds and writes that key only. -/
theorem exists_upsertMany_key (c : Collection key) (f : V → V) (hf : ∀ v, key (f v) = key v)
    (new : V) :
    ∃ c', c.upsertMany (fun v => key v = key new) f hf new = some c' ∧
      ∀ k, c'.get? k = if k = key new then some ((c.get? k).elim new f) else c.get? k := by
  rcases hany : c.get? (key new) with - | v
  · have hnone : (c.documents.any fun v => key v = key new) = false := by
      rw [any_key_eq, hany]
      rfl
    have hupsert : c.upsertMany (fun v => key v = key new) f hf new = some (c.insert new) := by
      rw [upsertMany, if_neg (by simp [hnone]), hany]
    refine ⟨_, hupsert, fun k => ?_⟩
    rw [get?_insert]
    split
    · next hk =>
      rw [hk, hany]
      rfl
    · rfl
  · have hsome : (c.documents.any fun v => key v = key new) = true := by
      rw [any_key_eq, hany]
      rfl
    refine ⟨_, if_pos hsome, fun k => ?_⟩
    rw [get?_updateMany]
    rcases hk : c.get? k with - | w
    · split
      · next heq =>
        rw [heq, hany] at hk
        cases hk
      · rfl
    · have hkey : key w = k := (get?_eq_some.mp hk).2
      by_cases heq : k = key new
      · simp [hkey, heq]
      · simp [hkey, heq]

end Upsert

end Keys

end Collection

end RustStd
