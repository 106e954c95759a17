/-
DawnChat/Parser/Iterator.lean

The iterator that hides tokens (`MessageParserIterator` in `core/parser`), as it is
written: with the tokens it has read ahead.

After a marker the iterator reads ahead to the next marker of the same kind.  If
there is none, it has read everything, and returns what it has read one token at
a time, without looking at it again.  So a marker that is not closed is not plain
text: what comes after it is no longer parsed, and escapes and code blocks in it
hide nothing (`output_laws_iff`).
-/
import DawnChat.Parser

namespace DawnChat

open List Option Nat

/-- The tokens to come, and those that have been read ahead. -/
structure MessageParserIterator where
  inner : List MessageToken
  temp : List MessageToken := []

namespace MessageParserIterator

/-- Read ahead to the end of a code block. -/
def readAhead (ty : Nat) :
    List MessageToken → List MessageToken → MessageToken × MessageParserIterator
  | temp, [] => (.codeblockMarker ty, { inner := [], temp := temp })
  | temp, nextToken :: inner =>
    if nextToken = .codeblockMarker ty then
      (nextToken, { inner := inner, temp := [.codeblockMarker ty] })
    else readAhead ty (temp ++ [nextToken]) inner

def next : MessageParserIterator → Option (MessageToken × MessageParserIterator)
  | { inner, temp := token :: temp } => some (token, { inner, temp })
  | { inner := [], temp := [] } => none
  -- the token after an escape is dropped
  | { inner := .escape :: inner, temp := [] } => some (.escape, { inner := inner.tail })
  | { inner := .codeblockMarker ty :: inner, temp := [] } => some (readAhead ty [] inner)
  | { inner := token :: inner, temp := [] } => some (token, { inner })

/-- How many tokens there are. -/
def size (it : MessageParserIterator) : Nat := it.inner.length + it.temp.length

theorem size_readAhead (ty : Nat) (temp inner : List MessageToken) :
    (readAhead ty temp inner).2.size ≤ temp.length + inner.length := by
  induction inner generalizing temp with
  | nil => simp [readAhead, size]
  | cons token inner ih =>
    rw [readAhead]
    split
    · simp only [size, length_cons, length_nil]
      omega
    · have hle := ih (temp ++ [token])
      simp only [length_append, length_cons, length_nil] at hle ⊢
      omega

variable {it : MessageParserIterator} {token : MessageToken}

/-- Every token that is returned makes what is left smaller. -/
theorem size_next {it' : MessageParserIterator}
    (h : it.next = some (token, it')) : it'.size < it.size := by
  obtain ⟨inner, temp⟩ := it
  cases temp with
  | cons first temp =>
    obtain ⟨rfl, rfl⟩ := Prod.mk.inj (some.inj h)
    simp [size]
  | nil =>
    cases inner with
    | nil => cases h
    | cons first inner =>
      cases first with
      | escape =>
        obtain ⟨rfl, rfl⟩ := Prod.mk.inj (some.inj h)
        simp only [size, length_tail, length_cons, length_nil]
        omega
      | codeblockMarker ty =>
        have hle := size_readAhead ty [] inner
        rw [congrArg Prod.snd (some.inj h)] at hle
        simp only [size, length_cons, length_nil] at hle ⊢
        omega
      | _ =>
        obtain ⟨rfl, rfl⟩ := Prod.mk.inj (some.inj h)
        simp [size]

/-- Everything that the iterator returns. -/
def collect (it : MessageParserIterator) : List MessageToken :=
  match _h : it.next with
  | none => []
  | some (token, it') => token :: it'.collect
termination_by it.size
decreasing_by exact size_next _h

/-- The output on a list of tokens. -/
def output (tokens : List MessageToken) : List MessageToken := collect { inner := tokens }

theorem collect_of_none (h : it.next = none) : it.collect = [] := by
  rw [collect]
  split
  · rfl
  · next hsome => cases h.symm.trans hsome

theorem collect_of_some {it' : MessageParserIterator}
    (h : it.next = some (token, it')) : it.collect = token :: it'.collect := by
  rw [collect]
  split
  · next hnone => cases h.symm.trans hnone
  · next hsome =>
      obtain ⟨rfl, rfl⟩ := Prod.mk.inj (some.inj (h.symm.trans hsome))
      rfl

/-- What has been read ahead comes first. -/
theorem collect_temp (inner temp : List MessageToken) :
    collect { inner, temp } = temp ++ output inner := by
  induction temp with
  | nil => rfl
  | cons token temp ih =>
    have hnext : next { inner, temp := token :: temp } = some (token, { inner, temp }) := rfl
    rw [collect_of_some hnext, ih]
    rfl

/-- The loop agrees with the state that keeps the tokens since the marker. -/
theorem collect_readAhead (ty : Nat) {inner : List MessageToken}
    (h : ∀ tokens, tokens <:+ inner → output tokens = parseFrom .text tokens)
    (temp : List MessageToken) :
    (readAhead ty temp inner).1 :: (readAhead ty temp inner).2.collect
      = parseFrom (.codeblock ty temp) inner := by
  induction inner generalizing temp with
  | nil =>
    rw [readAhead, collect_temp, h [] suffix_rfl]
    simp [parseFrom]
  | cons token inner ih =>
    rw [readAhead, parseFrom]
    split
    · rw [collect_temp, h inner (suffix_cons token inner)]
      rfl
    · exact ih (fun tokens htokens => h tokens (htokens.trans (suffix_cons token inner))) _

/-- **The iterator returns what `parseFrom` says.** -/
theorem output_eq (tokens : List MessageToken) : output tokens = parseFrom .text tokens := by
  induction hn : tokens.length using Nat.strong_induction_on generalizing tokens with
  | _ n ih =>
    subst hn
    have hshorter : ∀ inner, inner.length < tokens.length →
        output inner = parseFrom .text inner :=
      fun inner hlt => ih _ hlt inner rfl
    cases tokens with
    | nil => exact collect_of_none rfl
    | cons token tokens =>
      cases token with
      | escape =>
        have hnext : next { inner := .escape :: tokens }
            = some (.escape, { inner := tokens.tail }) := rfl
        rw [output, collect_of_some hnext, parseFrom]
        refine congrArg (MessageToken.escape :: ·) ?_
        cases tokens with
        | nil => exact hshorter [] (succ_pos _)
        | cons hidden tokens => exact hshorter tokens (Nat.lt_add_of_pos_right Nat.two_pos)
      | codeblockMarker ty =>
        have hnext : next { inner := .codeblockMarker ty :: tokens }
            = some (readAhead ty [] tokens) := rfl
        refine (collect_of_some hnext).trans ?_
        refine collect_readAhead ty (fun inner hinner => hshorter inner ?_) []
        exact lt_succ_of_le hinner.length_le
      | _ =>
        exact (collect_of_some rfl).trans
          (congrArg (_ :: ·) (hshorter tokens (lt_succ_self _)))

end MessageParserIterator

/-! ### How the output is composed -/

/-- Neither an escape nor a marker. -/
def MessageToken.IsPlain (token : MessageToken) : Prop :=
  token ≠ .escape ∧ ∀ ty, token ≠ .codeblockMarker ty

section Laws

variable {ty : Nat} {token : MessageToken} {tokens : List MessageToken}

theorem parseFrom_escape (hidden : MessageToken) (tokens : List MessageToken) :
    parseFrom .text (.escape :: hidden :: tokens) = .escape :: parseFrom .text tokens := rfl

theorem parseFrom_plain (h : token.IsPlain) (tokens : List MessageToken) :
    parseFrom .text (token :: tokens) = token :: parseFrom .text tokens := by
  cases token with
  | escape => exact absurd rfl h.1
  | codeblockMarker ty => exact absurd rfl (h.2 ty)
  | _ => rfl

/-- What comes after a marker that is not closed is returned as it is. -/
theorem parseFrom_unclosed (h : .codeblockMarker ty ∉ tokens) :
    parseFrom .text (.codeblockMarker ty :: tokens) = .codeblockMarker ty :: tokens := by
  have hblock : ∀ temp, parseFrom (.codeblock ty temp) tokens
      = .codeblockMarker ty :: (temp ++ tokens) := by
    induction tokens with
    | nil =>
      intro temp
      rw [parseFrom, append_nil]
    | cons token tokens ih =>
      intro temp
      have htoken : token ≠ .codeblockMarker ty := by
        rintro rfl
        exact h mem_cons_self
      rw [parseFrom, if_neg htoken, ih fun hmem => h (mem_cons_of_mem _ hmem),
        append_assoc, singleton_append]
  exact hblock []

/-- Nothing is hidden among the tokens. -/
inductive Shown : List MessageToken → Prop
  | nil : Shown []
  | escape : Shown [.escape]
  | unclosed {ty : Nat} {tokens : List MessageToken} (h : .codeblockMarker ty ∉ tokens) :
      Shown (.codeblockMarker ty :: tokens)
  | empty {ty : Nat} {tokens : List MessageToken} (h : Shown tokens) :
      Shown (.codeblockMarker ty :: .codeblockMarker ty :: tokens)
  | plain {token : MessageToken} {tokens : List MessageToken} (htoken : token.IsPlain)
      (h : Shown tokens) : Shown (token :: tokens)

theorem Shown.parseFrom_eq (h : Shown tokens) : parseFrom .text tokens = tokens := by
  induction h with
  | nil => rfl
  | escape => rfl
  | unclosed h => exact parseFrom_unclosed h
  | @empty ty tokens _ ih =>
    have hempty := parseFrom_codeblock ty [] not_mem_nil tokens
    rw [ih] at hempty
    exact hempty
  | plain htoken _ ih => rw [parseFrom_plain htoken, ih]

/-- A code block that is closed, or not. -/
theorem marker_cases (ty : Nat) (tokens : List MessageToken) :
    .codeblockMarker ty ∉ tokens ∨ ∃ hidden rest,
      tokens = hidden ++ .codeblockMarker ty :: rest ∧ .codeblockMarker ty ∉ hidden := by
  by_cases h : .codeblockMarker ty ∈ tokens
  · obtain ⟨hidden, rest, htokens, hhidden⟩ := eq_append_cons_of_mem h
    exact .inr ⟨hidden, rest, htokens, hhidden⟩
  · exact .inl h

/-- **The cases of the output**: nothing, an escape, a code block, or a token that is kept. -/
theorem parse_induction {P : List MessageToken → Prop} (nil : P []) (last : P [.escape])
    (escape : ∀ hidden tokens, P tokens → P (.escape :: hidden :: tokens))
    (unclosed : ∀ ty tokens, .codeblockMarker ty ∉ tokens → P (.codeblockMarker ty :: tokens))
    (closed : ∀ ty hidden tokens, .codeblockMarker ty ∉ hidden → P tokens →
      P (.codeblockMarker ty :: hidden ++ .codeblockMarker ty :: tokens))
    (plain : ∀ token tokens, token.IsPlain → P tokens → P (token :: tokens))
    (tokens : List MessageToken) : P tokens := by
  induction hn : tokens.length using Nat.strong_induction_on generalizing tokens with
  | _ n ih =>
    subst hn
    cases tokens with
    | nil => exact nil
    | cons token tokens =>
      by_cases hescape : token = .escape
      · subst hescape
        cases tokens with
        | nil => exact last
        | cons hidden tokens =>
          refine escape hidden tokens (ih _ ?_ tokens rfl)
          exact lt_succ_of_lt (lt_succ_self _)
      by_cases hmarker : ∃ ty, token = .codeblockMarker ty
      · obtain ⟨ty, rfl⟩ := hmarker
        obtain hopen | ⟨hidden, rest, rfl, hhidden⟩ := marker_cases ty tokens
        · exact unclosed ty tokens hopen
        · refine closed ty hidden rest hhidden (ih _ ?_ rest rfl)
          simp only [length_cons, length_append]
          omega
      · refine plain token tokens ⟨hescape, fun ty h => hmarker ⟨ty, h⟩⟩ ?_
        exact ih _ (lt_succ_self _) tokens rfl

theorem length_parseFrom_le (tokens : List MessageToken) :
    (parseFrom .text tokens).length ≤ tokens.length := by
  induction tokens using parse_induction with
  | nil | last => exact le_refl _
  | escape hidden tokens ih =>
    rw [parseFrom_escape]
    exact succ_le_succ (le_succ_of_le ih)
  | unclosed ty tokens h => rw [parseFrom_unclosed h]
  | closed ty hidden tokens h ih =>
    rw [parseFrom_codeblock ty hidden h]
    simp only [length_cons, length_append]
    omega
  | plain token tokens htoken ih =>
    rw [parseFrom_plain htoken]
    exact succ_le_succ ih

/-- The output is the input exactly if nothing is hidden. -/
theorem parseFrom_eq_self_iff (tokens : List MessageToken) :
    parseFrom .text tokens = tokens ↔ Shown tokens := by
  refine ⟨fun h => ?_, Shown.parseFrom_eq⟩
  induction tokens using parse_induction with
  | nil => exact .nil
  | last => exact .escape
  | escape hidden tokens ih =>
    -- the token after the escape is missing in the output
    rw [parseFrom_escape] at h
    have hlength := congrArg List.length (cons.inj h).2
    have hle := length_parseFrom_le tokens
    rw [length_cons] at hlength
    omega
  | unclosed ty tokens hopen => exact .unclosed hopen
  | closed ty hidden tokens hhidden ih =>
    rw [parseFrom_codeblock ty hidden hhidden, cons_append] at h
    have htail := (cons.inj h).2
    have hnil : hidden = [] := by
      have hlength := congrArg List.length htail
      have hle := length_parseFrom_le tokens
      simp only [length_cons, length_append] at hlength
      exact length_eq_zero_iff.mp (by omega)
    subst hnil
    exact .empty (ih (cons.inj htail).2)
  | plain token tokens htoken ih =>
    rw [parseFrom_plain htoken] at h
    exact .plain htoken (ih (cons.inj h).2)

end Laws

namespace MessageParserIterator

/-- **The meaning of a list of tokens.**  An escape hides the next token, and two markers hide
what is between them; other tokens are kept.  A marker that is not closed can be taken for plain
text exactly if nothing would be hidden after it. -/
theorem output_laws_iff (ty : Nat) (token : MessageToken) (hidden tokens : List MessageToken) :
    output (.escape :: token :: tokens) = .escape :: output tokens ∧
    (.codeblockMarker ty ∉ hidden →
      output (.codeblockMarker ty :: hidden ++ .codeblockMarker ty :: tokens)
        = .codeblockMarker ty :: .codeblockMarker ty :: output tokens) ∧
    (.codeblockMarker ty ∉ tokens →
      (output (.codeblockMarker ty :: tokens) = .codeblockMarker ty :: output tokens ↔
        Shown tokens)) ∧
    (token.IsPlain → output (token :: tokens) = token :: output tokens) := by
  simp only [output_eq]
  refine ⟨parseFrom_escape token tokens, fun h => parseFrom_codeblock ty hidden h tokens,
    fun h => ?_, fun h => parseFrom_plain h tokens⟩
  rw [parseFrom_unclosed h, cons.injEq, and_iff_right rfl, eq_comm, parseFrom_eq_self_iff]

/-- The escape after the marker hides nothing, and everyone is mentioned. -/
theorem output_after_unclosed :
    output [.codeblockMarker 1, .escape, .mentionEveryone]
        = [.codeblockMarker 1, .escape, .mentionEveryone] ∧
      .codeblockMarker 1 :: output [.escape, .mentionEveryone] = [.codeblockMarker 1, .escape] ∧
      parseMessage "` \\@everyone" = { mentionsEveryone := true } := by
  simp only [output_eq]
  decide +kernel

end MessageParserIterator

end DawnChat
