/-
DawnChat/Lib/Sort.lean

Stable sorting by a key, and what survives a reordering.

Rust's `sort_by` is a stable sort.  `sortByKey` is Mathlib's insertion sort on
the key order, which is stable as well and computes inside the kernel.  When
the keys are pairwise distinct the result is the only sorted arrangement
(`eq_sortByKey`), so it does not depend on the order of the input; with ties it
does, and nothing here hides that.

A list of `n` keys is dense when its keys are `0, …, n - 1`.  Being dense,
covering that range, and being distinct within it are the same thing
(`dense_of_cover`, `dense_of_nodup`), which is the pigeonhole principle.

The last section is about two arrangements of the same elements.  If the
elements with some property are a prefix of the first arrangement, and each of
them has the same position in the second, then they are a prefix of the second
as well (`idxOf_lt_of_fixed_prefix`).
-/
import Mathlib.Data.List.Sort
import Mathlib.Data.List.Nodup
import Mathlib.Order.OrderDual

namespace RustStd

open List

variable {α β κ : Type*} [LinearOrder κ]

/-- Sort by increasing key; elements with equal keys keep their order. -/
def sortByKey (key : α → κ) (l : List α) : List α :=
  l.insertionSort fun a b => key a ≤ key b

/-- Sort by decreasing key, as `sort_by(|a, b| key(b).cmp(key(a)))` does. -/
def sortByKeyDesc (key : α → κ) (l : List α) : List α :=
  sortByKey (fun a => OrderDual.toDual (key a)) l

section

variable (key : α → κ)

theorem sortByKey_perm (l : List α) : (sortByKey key l).Perm l :=
  perm_insertionSort _ l

theorem sortByKey_pairwise (l : List α) : (sortByKey key l).Pairwise fun a b => key a ≤ key b := by
  have : Std.Total fun a b => key a ≤ key b := ⟨fun a b => le_total (key a) (key b)⟩
  have : IsTrans α fun a b => key a ≤ key b := ⟨fun _ _ _ => le_trans⟩
  exact pairwise_insertionSort _ l

@[simp] theorem mem_sortByKey {a : α} {l : List α} : a ∈ sortByKey key l ↔ a ∈ l :=
  (sortByKey_perm key l).mem_iff

end

/-- Sorting commutes with a change that keeps the keys. -/
theorem sortByKey_map (key : β → κ) (f : α → β) (l : List α) :
    sortByKey key (l.map f) = (sortByKey (fun a => key (f a)) l).map f :=
  (map_insertionSort (fun a b => key (f a) ≤ key (f b)) (fun a b => key a ≤ key b) f l
    fun _ _ _ _ => Iff.rfl).symm

variable {key : α → κ} {l : List Int}

/-- With distinct keys a sorted arrangement is *the* sorted arrangement. -/
theorem eq_sortByKey {l l' : List α} (hperm : l'.Perm l)
    (hkeys : (l.map key).Nodup) (hsorted : l'.Pairwise fun a b => key a ≤ key b) :
    l' = sortByKey key l := by
  refine List.Perm.eq_of_pairwise ?_ hsorted (sortByKey_pairwise key l)
    (hperm.trans (sortByKey_perm key l).symm)
  intro a b ha hb hab hba
  have ha' : a ∈ l := hperm.mem_iff.mp ha
  have hb' : b ∈ l := (mem_sortByKey key).mp hb
  exact inj_on_of_nodup_map hkeys ha' hb' (le_antisymm hab hba)

/-! ### Decreasing order -/

theorem sortByKeyDesc_perm (key : α → κ) (l : List α) : (sortByKeyDesc key l).Perm l :=
  sortByKey_perm _ l

theorem sortByKeyDesc_pairwise (key : α → κ) (l : List α) :
    (sortByKeyDesc key l).Pairwise fun a b => key b ≤ key a :=
  sortByKey_pairwise (fun a => OrderDual.toDual (key a)) l

omit [LinearOrder κ] in
theorem nodup_map_toDual {l : List α} (hkeys : (l.map key).Nodup) :
    (l.map fun a => OrderDual.toDual (key a)).Nodup := by
  have h := hkeys.map OrderDual.toDual.injective
  rwa [map_map] at h

/-- With distinct keys a decreasing arrangement is the sorted one. -/
theorem eq_sortByKeyDesc {l l' : List α} (hperm : l'.Perm l)
    (hkeys : (l.map key).Nodup) (hsorted : l'.Pairwise fun a b => key b ≤ key a) :
    l' = sortByKeyDesc key l :=
  eq_sortByKey hperm (nodup_map_toDual hkeys) hsorted

/-! ### The first elements of a sorted list -/

section First

variable {key : α → κ} {l : List α} {n : Nat} {a b : α}

/-- The first elements in the order of the keys are closed downwards. -/
theorem mem_take_sortByKey_of_lt (ha : a ∈ (sortByKey key l).take n) (hb : b ∈ l)
    (hlt : key b < key a) : b ∈ (sortByKey key l).take n := by
  have hsorted := sortByKey_pairwise key l
  have hb' : b ∈ sortByKey key l := (mem_sortByKey key).mpr hb
  rw [← take_append_drop n (sortByKey key l)] at hsorted hb'
  refine (mem_append.mp hb').resolve_right fun hdrop => ?_
  exact absurd ((pairwise_append.mp hsorted).2.2 a ha b hdrop) (not_le.mpr hlt)

/-- An element with the least key is among them, unless none is taken. -/
theorem mem_take_sortByKey_of_least (hkeys : (l.map key).Nodup) (hn : 0 < n) (hb : b ∈ l)
    (hleast : ∀ a ∈ l, key b ≤ key a) : b ∈ (sortByKey key l).take n := by
  have hb' : b ∈ sortByKey key l := (mem_sortByKey key).mpr hb
  obtain ⟨x, xs, hx⟩ := exists_cons_of_ne_nil (ne_nil_of_mem hb')
  have hmem : x ∈ (sortByKey key l).take n := by
    obtain ⟨m, rfl⟩ := Nat.exists_eq_succ_of_ne_zero hn.ne'
    rw [hx]
    exact mem_cons_self
  have hxl : x ∈ l := (mem_sortByKey key).mp (mem_of_mem_take hmem)
  rcases (hleast x hxl).lt_or_eq with hlt | heq
  · exact mem_take_sortByKey_of_lt hmem hb hlt
  · rwa [inj_on_of_nodup_map hkeys hb hxl heq]

theorem mem_of_mem_take_sortByKey (ha : a ∈ (sortByKey key l).take n) : a ∈ l :=
  (mem_sortByKey key).mp (mem_of_mem_take ha)

theorem nodup_map_take_sortByKey {f : α → β} (h : (l.map f).Nodup) :
    (((sortByKey key l).take n).map f).Nodup :=
  (((sortByKey_perm key l).map f).nodup_iff.mpr h).sublist ((take_sublist _ _).map f)

end First

/-! ### Dense keys -/

/-- The list is an arrangement of `0, …, n - 1` for its length `n`. -/
def Dense (l : List Int) : Prop := l.Perm ((List.range l.length).map Int.ofNat)

theorem nodup_map_ofNat_range (n : Nat) : ((List.range n).map Int.ofNat).Nodup :=
  nodup_range.map fun _ _ h => Int.ofNat.inj h

/-- Covering `0, …, n - 1` with `n` keys leaves no room for others. -/
theorem dense_of_cover (h : ∀ i < l.length, Int.ofNat i ∈ l) : Dense l := by
  have hsub : (List.range l.length).map Int.ofNat ⊆ l := by
    intro x hx
    obtain ⟨i, hi, rfl⟩ := mem_map.mp hx
    exact h i (mem_range.mp hi)
  have hsubperm := subperm_of_subset (nodup_map_ofNat_range l.length) hsub
  exact (hsubperm.perm_of_length_le (by simp)).symm

/-- Distinct keys below `n` fill the whole range. -/
theorem dense_of_nodup (hnodup : l.Nodup) (h : ∀ x ∈ l, 0 ≤ x ∧ x < l.length) : Dense l := by
  have hsub : l ⊆ (List.range l.length).map Int.ofNat := by
    intro x hx
    obtain ⟨hnonneg, hlt⟩ := h x hx
    refine mem_map.mpr ⟨x.toNat, mem_range.mpr (by omega), ?_⟩
    exact Int.toNat_of_nonneg hnonneg
  exact (subperm_of_subset hnodup hsub).perm_of_length_le (by simp)

theorem Dense.lt_length (h : Dense l) {x : Int} (hx : x ∈ l) : x < l.length := by
  obtain ⟨i, hi, rfl⟩ := mem_map.mp (h.mem_iff.mp hx)
  exact Int.ofNat_lt.mpr (mem_range.mp hi)

theorem Dense.cover (h : Dense l) {i : Nat} (hi : i < l.length) : Int.ofNat i ∈ l :=
  h.mem_iff.mpr (mem_map.mpr ⟨i, mem_range.mpr hi, rfl⟩)

/-! ### Sorting by position -/

/-- In a list without duplicates the elements have the positions `0, …, n - 1`. -/
theorem map_idxOf_self [DecidableEq α] {l : List α} (h : l.Nodup) :
    (l.map fun a => l.idxOf a) = List.range l.length := by
  refine ext_getElem (by simp) ?_
  intro i hi _
  rw [getElem_map, getElem_range, h.idxOf_getElem]

/-- Arranging the elements of `l` by their position in `l` gives `l` back. -/
theorem eq_of_sorted_by_idxOf [DecidableEq α] {l l' : List α} (h : l.Nodup) (hperm : l'.Perm l)
    (hsorted : l'.Pairwise fun a b => l.idxOf a ≤ l.idxOf b) : l' = l := by
  have hkeys : (l.map fun a => l.idxOf a).Nodup := by
    rw [map_idxOf_self h]
    exact nodup_range
  have hl : l.Pairwise fun a b => l.idxOf a ≤ l.idxOf b := by
    rw [← pairwise_map (f := fun a => l.idxOf a), map_idxOf_self h]
    exact pairwise_lt_range.imp fun hlt => hlt.le
  rw [eq_sortByKey hperm hkeys hsorted, ← eq_sortByKey (List.Perm.refl l) hkeys hl]

/-! ### Two arrangements of the same elements -/

/-- If the elements satisfying `P` come first in `l₁` and keep their position in
`l₂`, they come first in `l₂` too. -/
theorem idxOf_lt_of_fixed_prefix [DecidableEq α] {l₁ l₂ : List α} {P : α → Prop}
    (hnodup : l₁.Nodup) (hsub : ∀ a ∈ l₁, a ∈ l₂) (hfirst : l₁.Pairwise fun a b => P b → P a)
    (hfix : ∀ a ∈ l₁, P a → l₁.idxOf a = l₂.idxOf a)
    {a b : α} (ha : a ∈ l₁) (hPa : P a) (hPb : ¬ P b) :
    l₂.idxOf a < l₂.idxOf b := by
  by_contra hlt
  -- the element of `l₁` at the position `b` has in `l₂`
  have hj : l₂.idxOf b ≤ l₁.idxOf a := by rw [hfix a ha hPa]; omega
  have hi : l₁.idxOf a < l₁.length := idxOf_lt_length_iff.mpr ha
  have hjlen : l₂.idxOf b < l₁.length := by omega
  set c := l₁[l₂.idxOf b] with hc
  have hcmem : c ∈ l₁ := getElem_mem hjlen
  have hPc : P c := by
    rcases Nat.lt_or_eq_of_le hj with hlt' | heq
    · have h := pairwise_iff_getElem.mp hfirst _ _ hjlen hi hlt'
      exact h (by rwa [getElem_idxOf hi])
    · have hca : c = a := by
        rw [hc]
        simp only [heq]
        exact getElem_idxOf hi
      rwa [hca]
  have hcidx : l₂.idxOf c = l₂.idxOf b := by
    rw [← hfix c hcmem hPc, hc, hnodup.idxOf_getElem]
  have hcb : c = b :=
    (idxOf_inj (hsub c hcmem)).mp hcidx
  exact hPb (hcb ▸ hPc)

end RustStd
