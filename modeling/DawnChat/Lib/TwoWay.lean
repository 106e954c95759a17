/-
DawnChat/Lib/TwoWay.lean

A relation that is stored twice, once from each side.

Under every key the members are kept, and for every member the entries; an entry
knows its key, and may hold more than that.  `Agree` says that both sides tell the
same story.  Adding on both sides keeps the agreement.  Taking away does so exactly
when nothing is forgotten on the side of the entries (`agree_drop_iff`).  `Covered`
is the half of it that both keep in any case.
-/
import Mathlib.Data.Set.Basic

namespace TwoWay

variable {α β γ : Type*}

/-- The two sides. -/
@[ext] structure Index (α β γ : Type*) where
  members : β → Set α
  entries : α → Set γ

namespace Index

variable {key : γ → β} {x : Index α β γ} {a : α} {c : γ} {M E : Set α}

/-- The members of a key are those who have an entry with this key. -/
def Agree (key : γ → β) (x : Index α β γ) : Prop :=
  ∀ a b, a ∈ x.members b ↔ ∃ c ∈ x.entries a, key c = b

/-- Add a member on both sides. -/
def add (key : γ → β) (x : Index α β γ) (c : γ) (a : α) : Index α β γ where
  members b := {a' | a' ∈ x.members b ∨ a' = a ∧ b = key c}
  entries a' := {c' | c' ∈ x.entries a' ∨ a' = a ∧ c' = c}

/-- Take the members `M` of a key away, and from those in `E` the entry. -/
def drop (key : γ → β) (x : Index α β γ) (c : γ) (M E : Set α) : Index α β γ where
  members b := {a | a ∈ x.members b ∧ ¬ (a ∈ M ∧ b = key c)}
  entries a := {c' | c' ∈ x.entries a ∧ ¬ (a ∈ E ∧ c' = c)}

theorem agree_add (h : x.Agree key) (c : γ) (a : α) : (x.add key c a).Agree key := by
  intro a' b
  constructor
  · rintro (hmember | ⟨rfl, rfl⟩)
    · obtain ⟨c', hentry, hkey⟩ := (h a' b).mp hmember
      exact ⟨c', .inl hentry, hkey⟩
    · exact ⟨c, .inr ⟨rfl, rfl⟩, rfl⟩
  · rintro ⟨c', hentry | ⟨rfl, rfl⟩, rfl⟩
    · exact .inl ((h a' (key c')).mpr ⟨c', hentry, rfl⟩)
    · exact .inr ⟨rfl, rfl⟩

/-- **Nothing may be forgotten.**  After members are taken away both sides agree exactly if those
among them who were there lose their entry, and have no other one with this key. -/
theorem agree_drop_iff (h : x.Agree key) (hsub : E ⊆ M) :
    (x.drop key c M E).Agree key ↔
      ∀ a ∈ M, a ∈ x.members (key c) → a ∈ E ∧ ∀ c' ∈ x.entries a, key c' = key c → c' = c := by
  constructor
  · intro hdrop a hM hmember
    -- who is taken away has no entry with this key any more, so every one was dropped
    have hdropped : ∀ c' ∈ x.entries a, key c' = key c → a ∈ E ∧ c' = c := by
      intro c' hentry hkey
      by_contra hkept
      exact ((hdrop a (key c)).mpr ⟨c', ⟨hentry, hkept⟩, hkey⟩).2 ⟨hM, rfl⟩
    obtain ⟨c', hentry, hkey⟩ := (h a (key c)).mp hmember
    exact ⟨(hdropped c' hentry hkey).1, fun c' hentry hkey => (hdropped c' hentry hkey).2⟩
  · intro hclean a b
    constructor
    · rintro ⟨hmember, hkept⟩
      obtain ⟨c', hentry, rfl⟩ := (h a b).mp hmember
      refine ⟨c', ⟨hentry, ?_⟩, rfl⟩
      rintro ⟨hE, rfl⟩
      exact hkept ⟨hsub hE, rfl⟩
    · rintro ⟨c', ⟨hentry, hkept⟩, rfl⟩
      have hmember := (h a (key c')).mpr ⟨c', hentry, rfl⟩
      refine ⟨hmember, ?_⟩
      rintro ⟨hM, hkey⟩
      obtain ⟨hE, hone⟩ := hclean a hM (hkey ▸ hmember)
      exact hkept ⟨hE, hone c' hentry hkey⟩

/-- Every member of a key has an entry with this key. -/
def Covered (key : γ → β) (x : Index α β γ) : Prop :=
  ∀ a b, a ∈ x.members b → ∃ c ∈ x.entries a, key c = b

theorem covered_add (h : x.Covered key) (c : γ) (a : α) : (x.add key c a).Covered key := by
  rintro a' b (hmember | ⟨rfl, rfl⟩)
  · obtain ⟨c', hentry, hkey⟩ := h a' b hmember
    exact ⟨c', .inl hentry, hkey⟩
  · exact ⟨c, .inr ⟨rfl, rfl⟩, rfl⟩

/-- An entry goes only together with the member. -/
theorem covered_drop (h : x.Covered key) (hsub : E ⊆ M) : (x.drop key c M E).Covered key := by
  rintro a b ⟨hmember, hkept⟩
  obtain ⟨c', hentry, rfl⟩ := h a b hmember
  refine ⟨c', ⟨hentry, ?_⟩, rfl⟩
  rintro ⟨hE, rfl⟩
  exact hkept ⟨hsub hE, rfl⟩

/-- Who is under no key has no entry. -/
theorem entries_eq_empty (h : x.Agree key) (ha : ∀ b, a ∉ x.members b) : x.entries a = ∅ :=
  Set.eq_empty_of_forall_notMem fun c hc => ha (key c) ((h a (key c)).mpr ⟨c, hc, rfl⟩)

end Index

end TwoWay
