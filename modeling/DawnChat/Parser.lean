/-
DawnChat/Parser.lean

Mentions in the text of a message (`core/parser`).

A lexer cuts the text into tokens and passes over everything else, one character at a
time.  An iterator then hides what is not meant as a mention: the token after a backslash,
and the tokens between two code block markers of the same kind.  A marker without a
counterpart hides nothing: the tokens after it are returned as they are.  What is left is
collected in sets.
-/
import Mathlib.Data.List.Infix

namespace DawnChat

open List Option

inductive MessageToken where
  | escape
  | codeblockMarker (ty : Nat)
  | userMention (id : String)
  | roleMention (id : String)
  | channelMention (id : String)
  | emoji (id : String)
  | mentionEveryone
  | mentionOnline
  deriving DecidableEq, Repr

/-! ### The lexer -/

/-- The characters of an id. -/
def idAlphabet : List Char := "0123456789ABCDEFGHJKMNPQRSTVWXYZ".toList

/-- 26 characters of the alphabet. -/
def IsId (cs : List Char) : Prop := cs.length = 26 ∧ ∀ c ∈ cs, c ∈ idAlphabet

-- by going through the characters of the list, and not through all characters
instance : DecidablePred IsId := fun cs =>
  have : Decidable (∀ c ∈ cs, c ∈ idAlphabet) := List.decidableBAll _ cs
  inferInstanceAs (Decidable (_ ∧ _))

/-- A fixed word at the start of the text; with the token its length is returned. -/
def lexWord (word : String) (token : MessageToken) (cs : List Char) :
    Option (MessageToken × Nat) :=
  if word.toList <+: cs then some (token, word.toList.length) else none

/-- An id between an opening and a closing. -/
def lexId (opening : String) (closing : Char) (token : String → MessageToken) (cs : List Char) :
    Option (MessageToken × Nat) :=
  let rest := cs.drop opening.toList.length
  let id := rest.take 26
  if opening.toList <+: cs ∧ IsId id ∧ rest[26]? = some closing then
    some (token (String.ofList id), opening.toList.length + 27)
  else none

/-- A code block marker.  Three backticks take what stands after them on the line. -/
def lexCodeblock (cs : List Char) : Option (MessageToken × Nat) :=
  if "```".toList <+: cs then
    let language := (cs.drop 3).takeWhile fun c => c ∉ "`\n".toList
    some (.codeblockMarker 3, 3 + language.length)
  else (lexWord "``" (.codeblockMarker 2) cs).or (lexWord "`" (.codeblockMarker 1) cs)

/-- The token at the start of the text.  No two of the patterns but the code block markers
begin with the same two characters. -/
def lexToken (cs : List Char) : Option (MessageToken × Nat) :=
  (lexWord "\\" .escape cs).or <| (lexCodeblock cs).or <|
    (lexId "<@" '>' .userMention cs).or <| (lexId "<%" '>' .roleMention cs).or <|
    (lexId "<#" '>' .channelMention cs).or <| (lexId ":" ':' .emoji cs).or <|
    (lexWord "@everyone" .mentionEveryone cs).or <| lexWord "@online" .mentionOnline cs

/-- The tokens of a text; the first characters may belong to a token already. -/
def lexFrom : Nat → List Char → List MessageToken
  | _, [] => []
  | skip + 1, _ :: cs => lexFrom skip cs
  | 0, c :: cs =>
    match lexToken (c :: cs) with
    | some (token, length) => token :: lexFrom (length - 1) cs
    -- newlines, and characters that begin no token
    | none => lexFrom 0 cs

/-- `MessageToken::lexer(text).flatten()` -/
def lexer (text : String) : List MessageToken := lexFrom 0 text.toList

/-! ### Hidden tokens -/

/-- Where the iterator is. -/
inductive ParserState where
  | text
  /-- The next token is escaped. -/
  | escaped
  /-- After a marker, with the tokens since. -/
  | codeblock (ty : Nat) (temp : List MessageToken)

/-- The tokens that `MessageParserIterator` returns. -/
def parseFrom : ParserState → List MessageToken → List MessageToken
  | .text, [] => []
  | .text, .escape :: tokens => .escape :: parseFrom .escaped tokens
  | .text, .codeblockMarker ty :: tokens => parseFrom (.codeblock ty []) tokens
  | .text, token :: tokens => token :: parseFrom .text tokens
  | .escaped, [] => []
  | .escaped, _ :: tokens => parseFrom .text tokens
  | .codeblock ty temp, [] => .codeblockMarker ty :: temp
  | .codeblock ty temp, token :: tokens =>
    if token = .codeblockMarker ty then token :: .codeblockMarker ty :: parseFrom .text tokens
    else parseFrom (.codeblock ty (temp ++ [token])) tokens

def parseMessageIter (text : String) : List MessageToken := parseFrom .text (lexer text)

/-- Tokens between two markers of the same kind are not returned. -/
theorem parseFrom_codeblock (ty : Nat) (hidden : List MessageToken)
    (h : MessageToken.codeblockMarker ty ∉ hidden) (tokens : List MessageToken) :
    parseFrom .text (.codeblockMarker ty :: hidden ++ .codeblockMarker ty :: tokens) =
      .codeblockMarker ty :: .codeblockMarker ty :: parseFrom .text tokens := by
  -- the tokens that have been put aside do not matter, because the end of the block is found
  have hblock : ∀ temp, parseFrom (.codeblock ty temp)
      (hidden ++ .codeblockMarker ty :: tokens) =
        .codeblockMarker ty :: .codeblockMarker ty :: parseFrom .text tokens := by
    induction hidden with
    | nil =>
      intro temp
      rw [nil_append, parseFrom, if_pos rfl]
    | cons token hidden ih =>
      intro temp
      have htoken : token ≠ .codeblockMarker ty := by
        rintro rfl
        exact h mem_cons_self
      rw [cons_append, parseFrom, if_neg htoken]
      exact ih (fun hmem => h (mem_cons_of_mem _ hmem)) _
  rw [cons_append, parseFrom]
  exact hblock []

/-! ### Collecting -/

/-- What a message mentions.  Sets are lists without repetition. -/
structure MessageResults where
  userMentions : List String := []
  roleMentions : List String := []
  channelMentions : List String := []
  emojis : List String := []
  mentionsEveryone : Bool := false
  mentionsOnline : Bool := false
  deriving DecidableEq, Repr

/-- Take a token into account. -/
def MessageResults.add (results : MessageResults) : MessageToken → MessageResults
  | .escape | .codeblockMarker _ => results
  | .userMention id => { results with userMentions := results.userMentions.insert id }
  | .roleMention id => { results with roleMentions := results.roleMentions.insert id }
  | .channelMention id => { results with channelMentions := results.channelMentions.insert id }
  | .emoji id => { results with emojis := results.emojis.insert id }
  | .mentionEveryone => { results with mentionsEveryone := true }
  | .mentionOnline => { results with mentionsOnline := true }

def parseMessage (text : String) : MessageResults :=
  (parseMessageIter text).foldl MessageResults.add {}

example : parseMessage "Hello <@01FD58YK5W7QRV5H3D64KTQYX3>, \\@everyone `@online`" =
    { userMentions := ["01FD58YK5W7QRV5H3D64KTQYX3"] } := by
  decide +kernel

end DawnChat
