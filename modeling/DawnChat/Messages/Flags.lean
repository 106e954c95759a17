/-
DawnChat/Messages/Flags.lean

The flags of a message that was created, and the switch `allow_mentions`.

A request numbers its flags 1, 2 and 3, and the value it sends has the bits of these
numbers.  `hasFlag_eq` decodes the stored value: suppression is what was asked for, the
mentions of everyone and of those online also come from the text.  Three things do not fit
together:

* a value above 7 is refused, and the bit of the third flag is 8;
* that only one of the two mass mentions is asked for is checked before the text is read;
* `has_suppressed_notifications` compares with the number of its flag and not with the bit.

Without mentions being allowed, the flags and the replies of a request mention nobody.  The
text still does (`disallowed_mentions_iff`).
-/
import DawnChat.Messages.Mentions

namespace DawnChat

open Fallible Handler MessageSend MessageFlagsValue

variable {σ : Type} {D : MessageDriver σ} {call : MessageSend} {channel : Channel} {s s' : σ}
  {sent : SentMessage}

/-! ### Decoding -/

/-- Whether a message has a flag. -/
def Message.hasFlag (m : Message) (flag : MessageFlags) : Bool :=
  m.flags.any (MessageFlagsValue.has · flag)

namespace MessageSend

/-- Whether a request asks for a flag. -/
def asks (call : MessageSend) (flag : MessageFlags) : Bool :=
  call.data.flags.any (MessageFlagsValue.has · flag)

/-- The flags that a message is stored with. -/
def storedFlag (call : MessageSend) : MessageFlags → Bool
  | .suppressNotifications => call.asks .suppressNotifications
  | .mentionsEveryone => call.massMentionsEnabled &&
      (call.parsed.mentionsEveryone || (call.allowMentions && call.asks .mentionsEveryone))
  | .mentionsOnline => call.massMentionsEnabled && call.parsed.mentionsOnline

end MessageSend

/-- The third flag is out of the range of the values that are accepted. -/
theorem MessageFlagsValue.has_mentionsOnline_of_le {raw : MessageFlagsValue} (h : raw ≤ 7) :
    has raw .mentionsOnline = false := by
  have hall : ∀ value < 8, has value .mentionsOnline = false := by decide
  exact hall raw (Nat.lt_succ_of_le h)

theorem MessageSend.requestedFlags_ok {flags : RequestedFlags}
    (h : call.requestedFlags = .ok flags) :
    flags.suppressNotifications = call.asks .suppressNotifications ∧
      flags.mentionsEveryone = (call.allowMentions && call.asks .mentionsEveryone) ∧
      flags.mentionsOnline = false := by
  rw [requestedFlags] at h
  rcases hraw : call.data.flags with - | raw <;> rw [hraw] at h
  · cases h
    simp [asks, hraw]
  · simp only at h
    split at h
    next => cases h
    next hle =>
      have honline := has_mentionsOnline_of_le (Nat.le_of_not_lt hle)
      split at h
      next => cases h
      next =>
        split at h
        next => cases h
        next =>
          cases h
          simp [asks, hraw, honline]

theorem MessageSend.requestedFlags_of_checkData {checked : RequestedFlags × IdempotencyKey}
    (h : call.checkData = .ok checked) : call.requestedFlags = .ok checked.1 := by
  obtain ⟨_, -, h⟩ := bind_eq_ok.mp h
  obtain ⟨_, -, h⟩ := bind_eq_ok.mp h
  split at h
  next => cases h
  next =>
    obtain ⟨flags, hflags, h⟩ := bind_eq_ok.mp h
    split at h
    next => cases h
    next =>
      cases h
      exact hflags

/-- **The flags of a message that was created.** -/
theorem Message.hasFlag_eq (h : (Message.createFromApi D call channel).exec s = (.ok sent, s'))
    (flag : MessageFlags) : sent.message.hasFlag flag = call.storedFlag flag := by
  obtain ⟨checked, resolved, files, embeds, hchecked, hresolved, hmessage, -, -⟩ :=
    Message.createFromApi_ok h
  obtain ⟨hsuppress, heveryone, honline⟩ :=
    requestedFlags_ok (requestedFlags_of_checkData hchecked)
  have hdecode : ∀ a b c, has (build a b c) flag
      = match flag with
        | .suppressNotifications => a
        | .mentionsEveryone => b
        | .mentionsOnline => c := by
    cases flag <;> decide
  rw [hmessage]
  refine (hdecode _ _ _).trans ?_
  cases flag with
  | suppressNotifications => exact hsuppress
  | mentionsEveryone => rw [hresolved.everyone, heveryone, storedFlag]
  | mentionsOnline => rw [hresolved.online, honline, Bool.or_false, storedFlag]

/-- What was created never counts as suppressed. -/
theorem Message.hasSuppressedNotifications_eq
    (h : (Message.createFromApi D call channel).exec s = (.ok sent, s')) :
    sent.message.hasSuppressedNotifications = false := by
  obtain ⟨checked, resolved, files, embeds, -, -, hmessage, -, -⟩ := Message.createFromApi_ok h
  rw [hmessage]
  show (build _ _ _ &&& 1 == 1) = false
  rw [build_land_one]
  rfl

/-! ### Flags that are asked for -/

/-- A bot can set the flag through the value it sends: the text mentions nobody and the
message is stored with the flag. -/
def MessageFlags.Settable (flag : MessageFlags) : Prop :=
  ∃ (σ : Type) (D : MessageDriver σ) (call : MessageSend) (channel : Channel) (s s' : σ)
    (sent : SentMessage), (call.user.any fun user => user.bot.isSome) = true ∧
      call.parsed.mentionsEveryone = false ∧ call.parsed.mentionsOnline = false ∧
      (Message.createFromApi D call channel).exec s = (.ok sent, s') ∧
      sent.message.hasFlag flag = true

/-- A bot that owns a server, and so may do everything there, sends a text with flags. -/
def MessageSend.ofBot (content : String) (flags : Nat) : MessageSend :=
  let bot : V0User := { id := "owner", bot := some { owner := "person" } }
  { MessageSend.ofText bot.id content with
    data := { content := some content, flags := some flags }
    author := .user bot
    user := some bot }

/-- **No value of flags mentions those who are online.**  The other two flags can be set. -/
theorem MessageFlags.settable_iff (flag : MessageFlags) :
    flag.Settable ↔ flag ≠ .mentionsOnline := by
  constructor
  · rintro ⟨σ, D, call, channel, s, s', sent, -, -, honline, hrun, hflag⟩ rfl
    rw [Message.hasFlag_eq hrun, storedFlag, honline, Bool.and_false] at hflag
    cases hflag
  · intro hne
    obtain ⟨sent, db', hrun, hsuppress, heveryone⟩ : ∃ sent db', (Message.createFromApi
        ReferenceDb.messageDriver (.ofBot "hello" 6) (.textChannel openChannel)).exec mentionDb
          = (.ok sent, db') ∧ sent.message.hasFlag .suppressNotifications = true ∧
        sent.message.hasFlag .mentionsEveryone = true := exists_exec_ok_decide (by decide +kernel)
    refine ⟨ReferenceDb, ReferenceDb.messageDriver, ofBot "hello" 6,
      .textChannel openChannel, mentionDb, db', sent, rfl, by decide, by decide, hrun, ?_⟩
    cases flag with
    | suppressNotifications => exact hsuppress
    | mentionsEveryone => exact heveryone
    | mentionsOnline => exact absurd rfl hne

/-- **Flags of a request and of the stored message.**  Suppression is decoded exactly if it
was not asked for; both mass mentions are stored exactly if the text adds those online to
everyone; and a value can set every flag but the third. -/
theorem message_flags_consistent_iff
    (h : (Message.createFromApi D call channel).exec s = (.ok sent, s')) :
    ((sent.message.hasSuppressedNotifications = true ↔
        call.asks .suppressNotifications = true) ↔ call.asks .suppressNotifications = false) ∧
      ((sent.message.hasFlag .mentionsEveryone = true ∧
        sent.message.hasFlag .mentionsOnline = true) ↔
        call.massMentionsEnabled = true ∧ call.parsed.mentionsOnline = true ∧
          (call.parsed.mentionsEveryone = true ∨
            call.allowMentions = true ∧ call.asks .mentionsEveryone = true)) ∧
      ∀ flag : MessageFlags, flag.Settable ↔ flag ≠ .mentionsOnline := by
  refine ⟨?_, ?_, MessageFlags.settable_iff⟩
  · simp [Message.hasSuppressedNotifications_eq h]
  · rw [Message.hasFlag_eq h, Message.hasFlag_eq h]
    simp only [storedFlag, Bool.and_eq_true, Bool.or_eq_true]
    tauto

/-- A bot mentions everyone through its flags. -/
theorem message_flags_consistent_iff_bot : ∃ sent db',
    (Message.createFromApi ReferenceDb.messageDriver (.ofBot "hello" 4)
      (.textChannel openChannel)).exec mentionDb = (.ok sent, db') ∧
    (sent.message.hasSuppressedNotifications = true ↔
      (MessageSend.ofBot "hello" 4).asks .suppressNotifications = true) := by
  exact exists_exec_ok_of (fun _ _ => True) (by decide +kernel) fun _ _ hrun _ =>
    (message_flags_consistent_iff hrun).1.mpr (by decide)

/-- **Flags that do not fit.**  The message is to be silent and is not, and it mentions
everyone and those online. -/
theorem message_flags_both_and_not_silent : ∃ sent db',
    (Message.createFromApi ReferenceDb.messageDriver (.ofBot "@everyone @online" 2)
      (.textChannel openChannel)).exec mentionDb = (.ok sent, db') ∧
    MessageFlagsValue.has 2 .suppressNotifications = true ∧
    sent.message.hasSuppressedNotifications = false ∧
    sent.message.hasFlag .mentionsEveryone = true ∧
    sent.message.hasFlag .mentionsOnline = true := by
  exact exists_exec_ok_decide (by decide +kernel)

/-! ### Mentions that are not allowed -/

/-- Nobody is mentioned. -/
structure Message.MentionsNobody (m : Message) : Prop where
  users : m.mentions.getD [] = []
  roles : m.roleMentions.getD [] = []
  everyone : m.hasFlag .mentionsEveryone = false
  online : m.hasFlag .mentionsOnline = false

/-- The text mentions nobody who could be mentioned in the channel.  Its roles are not looked
up when mentions are not allowed; in direct messages and groups they go if the text mentions
any user, a recipient or not. -/
structure MessageSend.TextMentionsNobody (db : Database) (call : MessageSend)
    (channel : Channel) : Prop where
  mass : call.massMentionsEnabled = true →
    call.parsed.mentionsEveryone = false ∧ call.parsed.mentionsOnline = false
  users : ∀ user ∈ call.parsed.userMentions, ¬ UserMentionable db channel user
  roles : call.massMentionsEnabled = true → call.parsed.roleMentions = [] ∨
    (call.parsed.userMentions ≠ [] ∧ channel.isDmOrGroup = true)

theorem MessageSend.mentionedUsers_of_disallowed (h : call.allowMentions = false) :
    call.mentionedUsers D s = call.parsed.userMentions := by
  refine List.foldl_fixed' (fun intent => ?_) _
  rw [h]
  cases D.fetchMessage intent.id s with
  | error => rfl
  | ok message => simp

theorem MessageSend.keptRoles_of_disallowed (h : call.allowMentions = false) :
    call.keptRoles D channel s
      = if call.massMentionsEnabled = true then call.parsed.roleMentions else [] := by
  cases channel <;> simp [keptRoles, h]

/-- **Disallowed mentions.**  The flags and the replies of the request mention nobody, so the
message mentions nobody exactly if its text does not. -/
theorem disallowed_mentions_iff (hdb : (D.database s).AnswersFully)
    (hallow : call.allowMentions = false)
    (h : (Message.createFromApi D call channel).exec s = (.ok sent, s')) :
    sent.message.MentionsNobody ↔ call.TextMentionsNobody (D.database s) channel := by
  obtain ⟨checked, resolved, files, embeds, -, hresolved, hmessage, -, -⟩ :=
    Message.createFromApi_ok h
  have hconfined := hresolved.confined
  rw [mentionedUsers_of_disallowed hallow,
    keptRoles_of_disallowed hallow] at hconfined
  have husers : sent.message.mentions.getD [] = resolved.users := by
    rw [hmessage]
    exact getD_nonempty resolved.users
  have hroles : sent.message.roleMentions.getD []
      = if call.parsed.userMentions ≠ [] ∧ channel.isDmOrGroup = true then []
        else if call.massMentionsEnabled = true then call.parsed.roleMentions else [] := by
    rw [hmessage]
    exact (getD_nonempty resolved.mass.roles).trans (confineMentions_ok hconfined).2
  constructor
  · rintro ⟨hnousers, hnoroles, heveryone, honline⟩
    rw [Message.hasFlag_eq h] at heveryone honline
    refine ⟨fun henabled => ?_, fun user huser hmentionable => ?_, fun henabled => ?_⟩
    · simpa [storedFlag, henabled, hallow] using And.intro heveryone honline
    · -- the filter would have kept the user
      have hkept : user ∈ resolved.users := mem_confineMentions hconfined hdb huser hmentionable
      rw [← husers, hnousers] at hkept
      cases hkept
    · rw [hroles, henabled, if_pos rfl] at hnoroles
      by_cases hcleared : call.parsed.userMentions ≠ [] ∧ channel.isDmOrGroup = true
      · exact .inr hcleared
      · exact .inl ((if_neg hcleared).symm.trans hnoroles)
  · rintro ⟨hmass, hnobody, hnoroles⟩
    have hflags : ∀ flag, flag ≠ .suppressNotifications →
        sent.message.hasFlag flag = false := by
      intro flag hflag
      rw [Message.hasFlag_eq h]
      cases flag <;> rcases henabled : call.massMentionsEnabled with - | - <;>
        simp_all [storedFlag]
    refine ⟨husers.trans ?_, hroles.trans ?_, hflags _ nofun, hflags _ nofun⟩
    · refine List.eq_nil_iff_forall_not_mem.mpr fun user huser => ?_
      obtain ⟨hmem, hmentionable⟩ :=
        userMentionable_of_confineMentions hconfined hdb.toAnswersAgree huser
      exact hnobody user hmem hmentionable
    · split
      next => rfl
      next hkept =>
        split
        next henabled => exact (hnoroles henabled).resolve_right hkept
        next => rfl

/-- A user whose mentions are not allowed sends a text. -/
def MessageSend.ofNewUser (content : String) : MessageSend :=
  { MessageSend.ofText "owner" content with allowMentions := false }

/-- A stranger to the server is mentioned in the text, and the filter drops the mention. -/
theorem disallowed_mentions_iff_stranger : ∃ sent db',
    (Message.createFromApi ReferenceDb.messageDriver
      (.ofNewUser "hello <@01FD58YK5W7QRV5H3D64KTQYX4>") (.textChannel openChannel)).exec mentionDb
        = (.ok sent, db') ∧
    sent.message.MentionsNobody := by
  refine exists_exec_ok_of (fun _ _ => True) (by decide +kernel) fun _ _ hrun _ =>
    (disallowed_mentions_iff recordsUnderIds_mentionDb.answersFully rfl hrun).mpr ⟨?_, ?_, ?_⟩
  · exact fun _ => ⟨by decide, by decide⟩
  · rintro user huser ⟨-, member, -, hmember, -⟩
    have hstranger : user = "01FD58YK5W7QRV5H3D64KTQYX4" := List.mem_singleton.mp huser
    subst hstranger
    cases hmember
  · exact fun _ => .inl (by decide)

/-- **A mention that is not allowed.**  The text mentions a member of the server. -/
theorem disallowed_mention_stored : ∃ sent db',
    (Message.createFromApi ReferenceDb.messageDriver
      (.ofNewUser "<@01FD58YK5W7QRV5H3D64KTQYX3>") (.textChannel openChannel)).exec mentionDb
        = (.ok sent, db') ∧
    sent.message.mentions = some ["01FD58YK5W7QRV5H3D64KTQYX3"] ∧
    ¬ sent.message.MentionsNobody := by
  refine exists_exec_ok_of
    (fun sent _ => sent.message.mentions = some ["01FD58YK5W7QRV5H3D64KTQYX3"])
    (by decide +kernel) fun sent db' _ hmentions => ⟨hmentions, fun hnobody => ?_⟩
  have hnousers := hnobody.users
  rw [hmentions] at hnousers
  cases hnousers

end DawnChat
