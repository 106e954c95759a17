/-
DawnChat/Pushd/MassMention.lean

Mass mentions in the push daemon (`daemons/pushd/src/consumers/inbound/mass_mention.rs`).

A payload carries the notifications of messages that mention everyone or some roles.
For each of them the members are read in chunks.  If everyone is mentioned, a chunk is
marked in the unreads and the members who are not online get a push; otherwise the chunk
is cut down to those who can see the channel, and they only get a push.

Three things go wrong.  What is added to the unreads is the id of the channel and not that
of the message; a mention of everyone does not ask who can see the channel; and a mention
of roles adds nothing.  `massMention_right_iff` says when a payload nevertheless has the
effect it is meant to have.
-/
import DawnChat.Lib.Chunked
import DawnChat.Members.Departed
import DawnChat.Unreads.Store

namespace DawnChat

open RustStd Fallible Handler LastWrite MemberDb Collection MemberDocument
  ChunkedServerMembersGenerator Unread List Option MongoDb

/-! ### Payloads -/

/-- A notification as the push daemon gets it. -/
structure MassNotification extends PushNotification where
  /-- The id of the channel. -/
  channel : String
  /-- Message content or system message information. -/
  body : String := ""
  /-- The raw body, if the body has been rendered. -/
  rawBody : Option String := none

structure MassMessageSentPayload where
  notifications : List MassNotification
  serverId : String

structure WebPushSubscription where
  endpoint : String
  p256dh : String
  auth : String

structure Session where
  id : String
  userId : String
  subscription : Option WebPushSubscription := none

/-- The queue of the service that pushes to the device. -/
inductive PushQueue where
  | apn
  | fcm
  | vapid
  deriving DecidableEq, Repr

structure PayloadToService where
  notification : MassNotification
  token : String
  userId : String
  sessionId : String
  extras : HashMap String String := ∅

/-- A payload that was published. -/
structure Published where
  queue : PushQueue
  payload : PayloadToService

/-- What the daemon changes: the unreads, and the messages it has published. -/
structure PushdState where
  unreads : UnreadCollection
  published : List Published := []

namespace MassNotification

variable (push : MassNotification)

def existingMentions : List String := push.message.mentions.getD []

def mentionsEveryone : Bool :=
  MessageFlagsValue.has (push.message.flags.getD 0) .mentionsEveryone

end MassNotification

/-! ### The consumer -/

/-- The consumer, with what it reads. -/
structure MassMessageConsumer where
  /-- Servers and channels. -/
  database : Database
  users : Collection User.id
  members : MemberDb
  sessions : List Session
  isOnline : String → Bool
  rule : UpsertRule
  /-- `pushd.mass_mention_chunk_size` -/
  chunkSize : Nat
  clock : Stream' Timestamp
  /-- `render_notification_content`, which can fail. -/
  render : MassNotification → Option String

namespace MassMessageConsumer

variable (consumer : MassMessageConsumer)

/-- The database; users that are not there are skipped. -/
def db : Database :=
  { consumer.database with
    fetchUsers := fun ids =>
      .ok (consumer.users.documents.filter fun user => ids.contains user.id) }

def filterOnline (userIds : List String) : List String := userIds.filter consumer.isOnline

def findSessionsWithSubscription (users : List String) : List Session :=
  consumer.sessions.filter fun session =>
    users.contains session.userId && session.subscription.isSome

/-- What is published for a session. -/
def publish (push : MassNotification) (session : Session) (sub : WebPushSubscription) :
    Published :=
  let sendable : PayloadToService :=
    { notification := push
      token := sub.auth
      userId := session.userId
      sessionId := session.id }
  if sub.endpoint = "apn" then { queue := .apn, payload := sendable }
  else if sub.endpoint = "fcm" then { queue := .fcm, payload := sendable }
  else
    -- web push (vapid)
    { queue := .vapid
      payload := { sendable with
        extras := (sendable.extras.insert "p256dh" sub.p256dh).insert "endpoint" sub.endpoint } }

def notificationsFor (push : MassNotification) (users : List String) : List Published :=
  (consumer.findSessionsWithSubscription users).filterMap fun session =>
    session.subscription.map (publish push session)

def fireNotificationForUsers (push : MassNotification) (users : List String) :
    Request PushdState Unit :=
  write fun s =>
    .ok { s with published := s.published ++ consumer.notificationsFor push users }

/-- Mark the users; an error is only reported. -/
def addMentionToManyUnreads (channelId : String) (userIds messageIds : List String) :
    Request PushdState Unit :=
  let call := UnreadCall.addMentionToManyUnreads channelId userIds messageIds
  write fun s =>
    .ok { s with unreads := (MongoDb.unreadDriver consumer.rule).exec s.unreads call }

/-- Who of the users is neither online nor mentioned directly. -/
def everyoneTargets (push : MassNotification) (userIds : List String) : List String :=
  let onlineUsers := consumer.filterOnline userIds
  userIds.filter fun id => !onlineUsers.contains id && !push.existingMentions.contains id

/-- One chunk of a mention of everyone. -/
def consumeEveryone (push : MassNotification) (chunk : List Member) :
    Request PushdState Unit := do
  let ackChnl := [push.channel]
  let userIds := chunk.map (·.id.user)
  consumer.addMentionToManyUnreads push.channel userIds ackChnl
  -- ignore anyone in this list
  let targetUsers := consumer.everyoneTargets push userIds
  consumer.fireNotificationForUsers push targetUsers

/-- Who of the members can see the channel and is neither online nor mentioned directly. -/
def roleTargets (query : BulkDatabasePermissionQuery) (push : MassNotification)
    (chunk : List Member) : Option (List String) := do
  let (viewable, _) ← (query.withMembers chunk).membersCanSeeChannel consumer.clock
  let viewingMembers := (viewable.toList.filter fun e =>
    e.2 && !push.existingMentions.contains e.1).map (·.1)
  let online := consumer.filterOnline viewingMembers
  some (viewingMembers.filter fun m => !online.contains m)

/-- One chunk of a mention of roles. -/
def consumeRoles (query : BulkDatabasePermissionQuery) (push : MassNotification)
    (chunk : List Member) : Request PushdState Unit := do
  let targets ← ofOption (consumer.roleTargets query push chunk)
  consumer.fireNotificationForUsers push targets

/-- Read the members in chunks.  This takes at most one round more than there are documents.
With chunks of size zero the source never ends, and here the rounds run out. -/
def forEachChunk (handle : List Member → Request PushdState Unit)
    (generator : ChunkedServerMembersGenerator) : Request PushdState Unit :=
  Chunked.forEachChunk ChunkedServerMembersGenerator.next consumer.chunkSize handle
    (generator.cursor.length + 1) generator

/-- Consume one notification. -/
def consumeNotification (serverId : String) (query : BulkDatabasePermissionQuery)
    (push : MassNotification) : Request PushdState Unit :=
  if push.mentionsEveryone then
    consumer.forEachChunk (consumer.consumeEveryone push)
      (fetchAllMembersChunked serverId consumer.members)
  else
    match push.message.roleMentions with
    | some roles =>
      consumer.forEachChunk (consumer.consumeRoles query push)
        (fetchAllMembersWithRolesChunked serverId roles consumer.members)
    | none => return ()

/-- The permission query; `none` is a panic. -/
def buildQuery (serverId channelId : String) : Option BulkDatabasePermissionQuery := do
  let server ← (consumer.db.fetchServer serverId).toOption
  let channel ← (consumer.db.fetchChannel channelId).toOption
  some ((BulkDatabasePermissionQuery.new consumer.db server).withChannel channel)

/-- Consume the notifications.  The query is built for the first one and then used for all. -/
def consumeNotifications (serverId : String) : Option BulkDatabasePermissionQuery →
    List MassNotification → Request PushdState Unit
  | _, [] => return ()
  | query, push :: pushes => do
      let query ← ofOption (query <|> consumer.buildQuery serverId push.channel)
      consumer.consumeNotification serverId query push
      consumeNotifications serverId (some query) pushes

/-- Render the body, if that is possible. -/
def rendered (push : MassNotification) : MassNotification :=
  match consumer.render push with
  | some body => { push with rawBody := some push.body, body := body }
  | none => push

def consumeEvent (payload : MassMessageSentPayload) : Request PushdState Unit :=
  consumer.consumeNotifications payload.serverId none
    (payload.notifications.map consumer.rendered)

/-! ### What a payload is meant to do -/

/-- Whether a member can see the channel. -/
def canView (server : Server) (c : TextChannel) (member : Member) : Bool :=
  (consumer.users.get? member.id.user).any fun user =>
    user.privileged || decide (server.owner = user.id) || viewGranted server c member.roles

/-- Everyone is targeted, or else whoever holds a role that is mentioned. -/
def targets (push : MassNotification) (member : Member) : Bool :=
  push.mentionsEveryone ||
    push.message.roleMentions.any fun roles => member.roles.any fun role => roles.contains role

/-- The messages that a member has to be told about. -/
def expected (server : Server) (c : TextChannel) (payload : MassMessageSentPayload)
    (member : Member) : List String :=
  (payload.notifications.filter fun push =>
    targets push member && consumer.canView server c member).map (·.message.id)

/-- A user who may be sent a push. -/
def MayPush (server : Server) (c : TextChannel) (serverId : String) (push : MassNotification)
    (userId : String) : Prop :=
  ∃ member ∈ fetchAllMembers serverId consumer.members, member.id.user = userId ∧
    consumer.canView server c member = true ∧ consumer.isOnline userId = false ∧
    userId ∉ push.existingMentions

/-- The payload had the effect it is meant to have: to the unreads of each member were added the
messages that mention them in the channel, if they can see it, and pushes went only to those
who can see it and are neither online nor mentioned directly. -/
structure Right (server : Server) (c : TextChannel) (payload : MassMessageSentPayload)
    (unreads : UnreadCollection) (after : PushdState) : Prop where
  unreads : ∀ member ∈ fetchAllMembers payload.serverId consumer.members, ∀ channelId,
    (MongoDb.unreadDriver consumer.rule).view after.unreads ⟨channelId, member.id.user⟩
      = ((MongoDb.unreadDriver consumer.rule).view unreads ⟨channelId, member.id.user⟩).add
          (if channelId = c.id then consumer.expected server c payload member else [])
  pushes : ∀ p ∈ after.published,
    consumer.MayPush server c payload.serverId p.payload.notification p.payload.userId

/-! ### What it does -/

/-- The members that are read for a notification. -/
def generator (serverId : String) (push : MassNotification) :
    Option ChunkedServerMembersGenerator :=
  if push.mentionsEveryone then some (fetchAllMembersChunked serverId consumer.members)
  else push.message.roleMentions.map fun roles =>
    fetchAllMembersWithRolesChunked serverId roles consumer.members

/-- The chunks that a notification is delivered to, and whether there was no panic. -/
def chunks (serverId : String) (push : MassNotification) : List (List Member) × Bool :=
  match consumer.generator serverId push with
  | some generator =>
    Chunked.chunks ChunkedServerMembersGenerator.next consumer.chunkSize
      (generator.cursor.length + 1) generator
  | none => ([], true)

/-- The notifications and the chunks they are delivered to, up to a panic. -/
def deliveries (serverId : String) : List MassNotification → List (MassNotification × List Member)
  | [] => []
  | push :: pushes =>
    (consumer.chunks serverId push).1.map (Prod.mk push) ++
      if (consumer.chunks serverId push).2 then deliveries serverId pushes else []

/-- The unreads after a delivery. -/
def mark (unreads : UnreadCollection) (delivery : MassNotification × List Member) :
    UnreadCollection :=
  let (push, chunk) := delivery
  if push.mentionsEveryone then
    (MongoDb.unreadDriver consumer.rule).exec unreads
      (.addMentionToManyUnreads push.channel (chunk.map (·.id.user)) [push.channel])
  else unreads

/-- The users that a delivery is pushed to. -/
def pushedTo (query : BulkDatabasePermissionQuery) (delivery : MassNotification × List Member) :
    List String :=
  let (push, chunk) := delivery
  if push.mentionsEveryone then consumer.everyoneTargets push (chunk.map (·.id.user))
  else (consumer.roleTargets query push chunk).getD []

/-- The state after a delivery. -/
def deliver (query : BulkDatabasePermissionQuery) (s : PushdState)
    (delivery : MassNotification × List Member) : PushdState where
  unreads := consumer.mark s.unreads delivery
  published := s.published
    ++ consumer.notificationsFor delivery.1 (consumer.pushedTo query delivery)

/-- How often a user is marked. -/
def timesMarked (userId : String) : UnreadCollection → List (MassNotification × List Member) → Nat
  | _, [] => 0
  | unreads, (push, chunk) :: rest =>
    (if push.mentionsEveryone ∧ userId ∈ chunk.map (·.id.user) ∧
        MongoDb.Reached consumer.rule unreads push.channel (chunk.map (·.id.user)) userId
      then 1 else 0) + timesMarked userId (consumer.mark unreads (push, chunk)) rest

section Runs

variable {consumer} {server : Server} {c : TextChannel} {push : MassNotification}
  {query : BulkDatabasePermissionQuery} {serverId : String}

/-- The query that is built for the channel. -/
def channelQuery (consumer : MassMessageConsumer) (server : Server) (c : TextChannel) :
    BulkDatabasePermissionQuery :=
  (BulkDatabasePermissionQuery.new consumer.db server).withChannel (.textChannel c)

variable {userIds : List String} {userId : String} {chunk : List Member} {db : MemberDb}
  {member : Member} {deliveries : List (MassNotification × List Member)}

theorem contains_filterOnline (h : userId ∈ userIds) :
    (consumer.filterOnline userIds).contains userId = consumer.isOnline userId := by
  rw [Bool.eq_iff_iff, contains_iff_mem, filterOnline, mem_filter, and_iff_right h]

theorem mem_everyoneTargets :
    userId ∈ consumer.everyoneTargets push userIds ↔
      userId ∈ userIds ∧ consumer.isOnline userId = false ∧ userId ∉ push.existingMentions := by
  rw [everyoneTargets, mem_filter]
  refine and_congr_right fun h => ?_
  rw [contains_filterOnline h]
  simp

/-- The users of some members. -/
def usersOf (consumer : MassMessageConsumer) (chunk : List Member) : List User :=
  consumer.users.documents.filter fun user => (chunk.map (·.id.user)).contains user.id

/-- Whoever the bulk query lets see the channel is a member who can. -/
theorem canView_of_sees {user : User}
    (huser : recordOf (·.id) (consumer.usersOf chunk) userId = some user)
    (hsees : Bulk.sees server c (HashMap.collect (chunk.map fun m => (m.id.user, m))) user = true) :
    ∃ member ∈ chunk, member.id.user = userId ∧ consumer.canView server c member = true := by
  obtain ⟨hmem, rfl⟩ := key_of_recordOf huser
  have hstored : consumer.users.get? user.id = some user :=
    get?_key (mem_filter.mp hmem).1
  rw [Bulk.sees, lookup_collect_eq_recordOf] at hsees
  rcases hmember : recordOf (fun m : Member => m.id.user) chunk user.id with - | member
  · rw [hmember] at hsees
    cases hsees
  · rw [hmember] at hsees
    obtain ⟨hchunk, hid⟩ := key_of_recordOf hmember
    refine ⟨member, hchunk, hid, ?_⟩
    rw [canView, hid, hstored]
    exact hsees

/-- Mentions of roles are pushed only to those who can see the channel. -/
theorem exists_roleTargets (consumer : MassMessageConsumer) (server : Server) (c : TextChannel)
    (push : MassNotification) (chunk : List Member) :
    ∃ users, consumer.roleTargets (consumer.channelQuery server c) push chunk = some users ∧
      ∀ userId ∈ users, ∃ member ∈ chunk, member.id.user = userId ∧
        consumer.canView server c member = true ∧ consumer.isOnline userId = false ∧
        userId ∉ push.existingMentions := by
  have hrecords : BulkRecords consumer.db server (.textChannel c)
      ((consumer.channelQuery server c).withMembers chunk) (consumer.usersOf chunk) chunk :=
    .members rfl
  obtain ⟨viewable, q, hviewable, hlookup⟩ := membersCanSeeChannel_lookup hrecords consumer.clock
  refine ⟨_, by rw [roleTargets, hviewable]; rfl, fun userId hmem => ?_⟩
  obtain ⟨hviewing, honline⟩ := mem_filter.mp hmem
  obtain ⟨⟨_, _⟩, hentry, rfl⟩ := mem_map.mp hviewing
  obtain ⟨hentry, hpasses⟩ := mem_filter.mp hentry
  rw [Bool.and_eq_true] at hpasses
  obtain ⟨rfl, hmentions⟩ := hpasses
  have hfound := HashMap.mem_toList_iff.mp hentry
  rw [hlookup] at hfound
  obtain ⟨user, huser, hsees⟩ := map_eq_some_iff.mp hfound
  obtain ⟨member, hchunk, hid, hview⟩ := canView_of_sees huser hsees
  rw [contains_filterOnline hviewing, Bool.not_eq_true'] at honline
  exact ⟨member, hchunk, hid, hview, honline, by simpa using hmentions⟩

theorem exec_consumeEveryone (heveryone : push.mentionsEveryone = true) (chunk : List Member)
    (s : PushdState) :
    (consumer.consumeEveryone push chunk).exec s
      = (.ok (), consumer.deliver query s (push, chunk)) := by
  rw [deliver, mark, pushedTo, if_pos heveryone, if_pos heveryone]
  rfl

theorem exec_consumeRoles (heveryone : push.mentionsEveryone = false) (chunk : List Member)
    (s : PushdState) :
    (consumer.consumeRoles (consumer.channelQuery server c) push chunk).exec s
      = (.ok (), consumer.deliver (consumer.channelQuery server c) s (push, chunk)) := by
  obtain ⟨users, husers, -⟩ := consumer.exists_roleTargets server c push chunk
  rw [deliver, mark, pushedTo, heveryone, husers, consumeRoles, husers]
  rfl

/-- **One notification** is delivered to its chunks. -/
theorem exec_consumeNotification (serverId : String) (push : MassNotification) (s : PushdState) :
    (consumer.consumeNotification serverId (consumer.channelQuery server c) push).exec s
      = (if (consumer.chunks serverId push).2 then .ok () else .error .panic,
          ((consumer.chunks serverId push).1.map (Prod.mk push)).foldl
            (consumer.deliver (consumer.channelQuery server c)) s) := by
  rw [consumeNotification, chunks, generator, foldl_map]
  by_cases heveryone : push.mentionsEveryone = true
  · rw [if_pos heveryone, if_pos heveryone]
    exact Chunked.exec_forEachChunk (fun chunk s => exec_consumeEveryone heveryone chunk s) _ _ s
  · rw [if_neg heveryone, if_neg heveryone]
    rcases push.message.roleMentions with - | roles
    · rfl
    · exact Chunked.exec_forEachChunk
        (fun chunk s => exec_consumeRoles (Bool.eq_false_iff.mpr heveryone) chunk s) _ _ s

/-- **The notifications** are delivered one after the other, up to a panic. -/
theorem store_consumeNotifications (serverId : String) (pushes : List MassNotification)
    (s : PushdState) :
    ((consumer.consumeNotifications serverId (some (consumer.channelQuery server c)) pushes).exec
        s).2
      = (consumer.deliveries serverId pushes).foldl
          (consumer.deliver (consumer.channelQuery server c)) s := by
  induction pushes generalizing s with
  | nil => rfl
  | cons push pushes ih =>
    have hquery : (ofOption (some (consumer.channelQuery server c) <|>
        consumer.buildQuery serverId push.channel) : Request PushdState _).exec s
        = (.ok (consumer.channelQuery server c), s) := rfl
    rw [consumeNotifications, exec_bind_of_ok hquery, exec_bind,
      exec_consumeNotification, deliveries, foldl_append]
    rcases (consumer.chunks serverId push).2 with - | -
    · rfl
    · exact ih _

theorem channel_rendered (push : MassNotification) :
    (consumer.rendered push).channel = push.channel := by
  rw [rendered]
  split <;> rfl

/-- **A payload** of one channel is delivered. -/
theorem store_consumeEvent {payload : MassMessageSentPayload}
    (hserver : consumer.database.fetchServer payload.serverId = .ok server)
    (hchannel : consumer.database.fetchChannel c.id = .ok (.textChannel c))
    (hpayload : ∀ push ∈ payload.notifications, push.channel = c.id) (s : PushdState) :
    ((consumer.consumeEvent payload).exec s).2
      = (consumer.deliveries payload.serverId
          (payload.notifications.map consumer.rendered)).foldl
            (consumer.deliver (consumer.channelQuery server c)) s := by
  rw [← store_consumeNotifications, consumeEvent]
  rcases hpushes : payload.notifications with - | ⟨push, pushes⟩
  · rfl
  · have hbuild : consumer.buildQuery payload.serverId (consumer.rendered push).channel
        = some (consumer.channelQuery server c) := by
      rw [channel_rendered, hpayload push (by rw [hpushes]; exact mem_cons_self)]
      show ((consumer.database.fetchServer payload.serverId).toOption.bind fun server =>
        (consumer.database.fetchChannel c.id).toOption.bind fun channel => _) = _
      rw [hserver, hchannel]
      rfl
    rw [map_cons, consumeNotifications, consumeNotifications, hbuild]
    rfl

/-! ### Deliveries -/

/-- A record of the server that can be decoded is that of a member. -/
theorem mem_fetchAllMembers (hbare : db.Records MemberDocument.Bare)
    {doc : MemberDocument} (hdoc : doc ∈ db.members)
    (hserver : doc.id.server = serverId) (hdecode : doc.decode = some member) :
    member ∈ fetchAllMembers serverId db := by
  refine mem_filterMap.mpr ⟨doc, mem_filter.mpr ⟨hdoc, ?_⟩, hdecode⟩
  rw [decide_eq_true hserver, Bool.true_and, Bool.not_eq_true']
  refine Bool.eq_false_iff.mpr fun hdeparted => ?_
  rw [decode, (hbare _ doc (get?_key hdoc) hdeparted).1] at hdecode
  cases hdecode

/-- A user is a member once. -/
theorem eq_of_mem_fetchAllMembers {member' : Member}
    (h : member ∈ fetchAllMembers serverId db) (h' : member' ∈ fetchAllMembers serverId db)
    (huser : member.id.user = member'.id.user) : member = member' := by
  obtain ⟨doc, hdoc, hdecode⟩ := mem_filterMap.mp h
  obtain ⟨doc', hdoc', hdecode'⟩ := mem_filterMap.mp h'
  obtain ⟨hmem, hfilter⟩ := mem_filter.mp hdoc
  obtain ⟨hmem', hfilter'⟩ := mem_filter.mp hdoc'
  rw [Bool.and_eq_true, decide_eq_true_eq] at hfilter hfilter'
  rw [id_of_decode hdecode, id_of_decode hdecode'] at huser
  have hid : doc.id = doc'.id :=
    congrArg₂ MemberCompositeKey.mk (hfilter.1.trans hfilter'.1.symm) huser
  rw [eq_of_key_eq hmem hmem' hid] at hdecode
  exact some.inj (hdecode.symm.trans hdecode')

theorem mem_deliveries {pushes : List MassNotification} {delivery : MassNotification × List Member}
    (h : delivery ∈ consumer.deliveries serverId pushes) :
    delivery.1 ∈ pushes ∧ delivery.2 ∈ (consumer.chunks serverId delivery.1).1 := by
  induction pushes with
  | nil => exact absurd h not_mem_nil
  | cons push pushes ih =>
    obtain hfirst | hrest := mem_append.mp h
    · obtain ⟨chunk, hchunk, rfl⟩ := mem_map.mp hfirst
      exact ⟨mem_cons_self, hchunk⟩
    · split at hrest
      · obtain ⟨hpush, hchunk⟩ := ih hrest
        exact ⟨mem_cons_of_mem _ hpush, hchunk⟩
      · exact absurd hrest not_mem_nil

/-- Whoever a notification is delivered to is a member. -/
theorem mem_fetchAllMembers_of_chunks (hbare : consumer.members.Records MemberDocument.Bare)
    (hchunk : chunk ∈ (consumer.chunks serverId push).1) :
    ∀ member ∈ chunk, member ∈ fetchAllMembers serverId consumer.members := by
  rw [chunks] at hchunk
  rcases hgenerator : consumer.generator serverId push with - | generator
  · rw [hgenerator] at hchunk
    exact absurd hchunk not_mem_nil
  · rw [hgenerator] at hchunk
    -- what is left of the cursor are documents of the server
    refine Chunked.of_mem_chunks (P := (· ∈ fetchAllMembers serverId consumer.members))
      (I := fun generator => ∀ doc ∈ generator.cursor,
        doc ∈ consumer.members.members ∧ doc.id.server = serverId) ?_ ?_ ?_ hchunk
    · rintro ⟨- | ⟨doc, cursor⟩⟩ member ⟨rest⟩ hcursor hnext
      · cases hnext
      · obtain ⟨_, hdecode, heq⟩ := map_eq_some_iff.mp hnext
        cases heq
        refine ⟨?_, fun doc hdoc => hcursor doc (mem_cons_of_mem _ hdoc)⟩
        obtain ⟨hdoc, hserver⟩ := hcursor doc mem_cons_self
        exact mem_fetchAllMembers hbare hdoc hserver hdecode
    · rintro ⟨- | ⟨doc, cursor⟩⟩ ⟨rest⟩ hcursor hnext
      · cases hnext
        exact hcursor
      · obtain ⟨_, -, heq⟩ := map_eq_some_iff.mp hnext
        cases heq
    · intro doc hdoc
      rw [MassMessageConsumer.generator] at hgenerator
      split at hgenerator
      · cases hgenerator
        obtain ⟨hmem, hserver⟩ := mem_filter.mp hdoc
        exact ⟨hmem, of_decide_eq_true hserver⟩
      · obtain ⟨roles, -, rfl⟩ := map_eq_some_iff.mp hgenerator
        obtain ⟨hmem, hfilter⟩ := mem_filter.mp hdoc
        rw [Bool.and_eq_true] at hfilter
        exact ⟨hmem, of_decide_eq_true hfilter.1⟩

/-- A generator yields the members whose records it goes through. -/
theorem yields_of_forall_joined {cursor : List MemberDocument}
    (h : ∀ doc ∈ cursor, doc.joinedAt.isSome = true) :
    Chunked.Yields ChunkedServerMembersGenerator.next ⟨cursor⟩
      (cursor.filterMap MemberDocument.decode) := by
  induction cursor with
  | nil => exact .nil rfl
  | cons doc cursor ih =>
    obtain ⟨hdoc, hrest⟩ := forall_mem_cons.mp h
    obtain ⟨member, hdecode⟩ := exists_decode hdoc
    rw [filterMap_cons_some hdecode]
    have hnext : next ⟨doc :: cursor⟩
        = some (some member, ⟨cursor⟩) := by
      rw [ChunkedServerMembersGenerator.next]
      dsimp only
      rw [hdecode, map_some]
    exact .cons hnext (ih hrest)

/-- **Every member is reached once by a mention of everyone**, whatever the size of the chunks,
if nobody has left a record behind. -/
theorem chunks_everyone (hsize : 0 < consumer.chunkSize)
    (hnone : consumer.members.Records (·.departed = false))
    (hjoined : consumer.members.Records MemberDocument.Joined)
    (heveryone : push.mentionsEveryone = true) (serverId : String) :
    (consumer.chunks serverId push).2 = true ∧
      (consumer.chunks serverId push).1.flatten = fetchAllMembers serverId consumer.members := by
  have hrecord : ∀ doc ∈ (fetchAllMembersChunked serverId consumer.members).cursor,
      doc.joinedAt.isSome = true := by
    intro doc hdoc
    have hstored := get?_key (mem_filter.mp hdoc).1
    exact hjoined _ doc hstored (hnone _ doc hstored)
  have hmembers : fetchAllMembers serverId consumer.members
      = (fetchAllMembersChunked serverId consumer.members).cursor.filterMap decode := by
    rw [fetchAllMembers, filter_congr (q := fun doc => decide (doc.id.server = serverId))]
    · rfl
    · intro doc hdoc
      rw [hnone _ doc (get?_key hdoc), Bool.not_false, Bool.and_true]
  rw [chunks, generator, if_pos heveryone, hmembers]
  exact Chunked.chunks_of_yields hsize (yields_of_forall_joined hrecord)
    (Nat.lt_succ_of_le (length_filterMap_le ..))

/-! ### Pushes -/

theorem published_foldl (deliveries : List (MassNotification × List Member)) (s : PushdState) :
    (deliveries.foldl (consumer.deliver query) s).published
      = s.published ++ deliveries.flatMap fun delivery =>
          consumer.notificationsFor delivery.1 (consumer.pushedTo query delivery) := by
  induction deliveries generalizing s with
  | nil => exact (append_nil _).symm
  | cons delivery deliveries ih =>
    rw [foldl_cons, ih, flatMap_cons, ← append_assoc]
    rfl

/-- The user has a device to push to. -/
def Subscribed (consumer : MassMessageConsumer) (userId : String) : Prop :=
  ∃ session ∈ consumer.sessions, session.userId = userId ∧ session.subscription.isSome = true

theorem notification_publish (push : MassNotification) (session : Session)
    (sub : WebPushSubscription) :
    (publish push session sub).payload.notification = push ∧
      (publish push session sub).payload.userId = session.userId := by
  rw [publish]
  dsimp only
  split
  · exact ⟨rfl, rfl⟩
  · split <;> exact ⟨rfl, rfl⟩

/-- Who a notification is published for. -/
theorem forall_notificationsFor_iff {users : List String} {Q : MassNotification → String → Prop} :
    (∀ p ∈ consumer.notificationsFor push users, Q p.payload.notification p.payload.userId) ↔
      ∀ userId ∈ users, consumer.Subscribed userId → Q push userId := by
  constructor
  · rintro h _ hmem ⟨session, hsession, rfl, hsub⟩
    obtain ⟨sub, hsub⟩ := isSome_iff_exists.mp hsub
    obtain ⟨hnotification, huser⟩ := notification_publish push session sub
    have hfound : session ∈ consumer.findSessionsWithSubscription users := by
      refine mem_filter.mpr ⟨hsession, ?_⟩
      rw [hsub, isSome_some, Bool.and_true]
      exact contains_iff_mem.mpr hmem
    have hpublished := h (publish push session sub)
      (mem_filterMap.mpr ⟨session, hfound, by rw [hsub]; rfl⟩)
    rwa [hnotification, huser] at hpublished
  · intro h p hp
    obtain ⟨session, hsession, hpublish⟩ := mem_filterMap.mp hp
    obtain ⟨sub, hsub, rfl⟩ := map_eq_some_iff.mp hpublish
    obtain ⟨hnotification, huser⟩ := notification_publish push session sub
    obtain ⟨hmem, hfilter⟩ := mem_filter.mp hsession
    rw [Bool.and_eq_true] at hfilter
    rw [hnotification, huser]
    exact h _ (contains_iff_mem.mp hfilter.1) ⟨session, hmem, rfl, hfilter.2⟩

/-- **Who gets a push** although they should not: only a mention of everyone can do that. -/
theorem forall_pushedTo_iff (hbare : consumer.members.Records MemberDocument.Bare)
    (hchunk : chunk ∈ (consumer.chunks serverId push).1) :
    (∀ userId ∈ consumer.pushedTo (consumer.channelQuery server c) (push, chunk),
        consumer.Subscribed userId → consumer.MayPush server c serverId push userId) ↔
      (push.mentionsEveryone = true → ∀ member ∈ chunk, consumer.Subscribed member.id.user →
        consumer.isOnline member.id.user = false → member.id.user ∉ push.existingMentions →
        consumer.canView server c member = true) := by
  have hmembers := mem_fetchAllMembers_of_chunks hbare hchunk
  rw [pushedTo]
  rcases heveryone : push.mentionsEveryone with - | -
  · -- the permission query has been asked
    refine iff_of_true (fun userId hmem _ => ?_) nofun
    obtain ⟨users, husers, hview⟩ := consumer.exists_roleTargets server c push chunk
    rw [if_neg Bool.false_ne_true, husers] at hmem
    obtain ⟨member, hmember, hallowed⟩ := hview userId hmem
    exact ⟨member, hmembers member hmember, hallowed⟩
  · rw [if_pos rfl]
    constructor
    · intro h _ member hmember hsubscribed honline hmentions
      have htarget : member.id.user ∈ consumer.everyoneTargets push (chunk.map (·.id.user)) :=
        mem_everyoneTargets.mpr ⟨mem_map.mpr ⟨member, hmember, rfl⟩, honline, hmentions⟩
      obtain ⟨member', hmember', huser, hview, -⟩ := h _ htarget hsubscribed
      rwa [eq_of_mem_fetchAllMembers hmember' (hmembers member hmember) huser] at hview
    · intro h userId hmem hsubscribed
      obtain ⟨hmem, honline, hmentions⟩ := mem_everyoneTargets.mp hmem
      obtain ⟨member, hmember, rfl⟩ := mem_map.mp hmem
      exact ⟨member, hmembers member hmember, rfl,
        h rfl member hmember hsubscribed honline hmentions, honline, hmentions⟩

/-! ### Unreads -/

theorem unreads_foldl (deliveries : List (MassNotification × List Member)) (s : PushdState) :
    (deliveries.foldl (consumer.deliver query) s).unreads
      = deliveries.foldl consumer.mark s.unreads := by
  induction deliveries generalizing s with
  | nil => rfl
  | cons delivery deliveries ih => exact ih _

/-- A delivery adds the id of the channel for whoever it reaches. -/
theorem view_mark (hpush : push.channel = c.id) (unreads : UnreadCollection)
    (chunk : List Member) (key : ChannelCompositeKey) :
    (unreadDriver consumer.rule).view (consumer.mark unreads (push, chunk)) key
      = ((unreadDriver consumer.rule).view unreads key).add
          (if key.channel = c.id ∧ push.mentionsEveryone = true ∧
              key.user ∈ chunk.map (·.id.user) ∧
              MongoDb.Reached consumer.rule unreads push.channel (chunk.map (·.id.user)) key.user
            then [c.id] else []) := by
  rw [mark]
  by_cases heveryone : push.mentionsEveryone = true
  · rw [if_pos heveryone, view_addMentionToManyUnreads, hpush]
    by_cases hreached : key.channel = c.id ∧ key.user ∈ chunk.map (·.id.user) ∧
        MongoDb.Reached consumer.rule unreads c.id (chunk.map (·.id.user)) key.user
    · rw [if_pos hreached, if_pos ⟨hreached.1, heveryone, hreached.2⟩]
    · rw [if_neg hreached, if_neg fun h => hreached ⟨h.1, h.2.2⟩, add_eq_self.mpr rfl]
  · rw [if_neg heveryone, if_neg fun h => heveryone h.2.1, add_eq_self.mpr rfl]

/-- **The unreads after all deliveries**: the id of the channel is added, as often as the user
is marked. -/
theorem view_foldl_mark (hdeliveries : ∀ delivery ∈ deliveries, delivery.1.channel = c.id)
    (unreads : UnreadCollection) (key : ChannelCompositeKey) :
    (unreadDriver consumer.rule).view (deliveries.foldl consumer.mark unreads) key
      = ((unreadDriver consumer.rule).view unreads key).add
          (if key.channel = c.id then
            replicate (consumer.timesMarked key.user unreads deliveries) c.id else []) := by
  induction deliveries generalizing unreads with
  | nil => exact (add_eq_self.mpr (ite_self _)).symm
  | cons delivery deliveries ih =>
    obtain ⟨hpush, hrest⟩ := forall_mem_cons.mp hdeliveries
    rw [foldl_cons, ih hrest, view_mark hpush, add_add, timesMarked]
    refine congrArg _ ?_
    by_cases hkey : key.channel = c.id
    · rw [if_pos hkey, if_pos hkey, replicate_add]
      refine congrArg (· ++ _) ?_
      simp only [hkey, true_and]
      split <;> rfl
    · rw [if_neg hkey, if_neg hkey, if_neg fun h => hkey h.1]
      rfl

/-- These messages were added, for this channel only. -/
theorem view_eq_add_iff (hdeliveries : ∀ delivery ∈ deliveries, delivery.1.channel = c.id)
    (unreads : UnreadCollection) (userId : String) (messageIds : List String) :
    (∀ channelId,
        (unreadDriver consumer.rule).view (deliveries.foldl consumer.mark unreads)
            ⟨channelId, userId⟩
          = ((unreadDriver consumer.rule).view unreads ⟨channelId, userId⟩).add
              (if channelId = c.id then messageIds else [])) ↔
      (∀ id ∈ messageIds, id = c.id) ∧
        consumer.timesMarked userId unreads deliveries = messageIds.length := by
  have hsame : messageIds = replicate (consumer.timesMarked userId unreads deliveries) c.id ↔
      (∀ id ∈ messageIds, id = c.id) ∧
        consumer.timesMarked userId unreads deliveries = messageIds.length := by
    rw [eq_replicate_iff, and_comm, eq_comm]
  rw [← hsame]
  constructor
  · intro h
    have hchannel := h c.id
    rw [view_foldl_mark hdeliveries, add_inj, if_pos rfl, if_pos rfl] at hchannel
    exact hchannel.symm
  · intro h channelId
    rw [view_foldl_mark hdeliveries, add_inj, ← h]

end Runs

end MassMessageConsumer

open MassMessageConsumer

/-- **Mass mentions.**  A payload with notifications of one channel, of messages that mention
everyone or some roles, whatever is stored and whatever the size of the chunks.  It has the
effect it is meant to have exactly if

* every message that a member has to be told about has the id of the channel, and the member is
  marked once for each of them and not more often, and
* no mention of everyone is pushed to a member who cannot see the channel. -/
theorem massMention_right_iff (consumer : MassMessageConsumer)
    (hbare : consumer.members.Records MemberDocument.Bare) {server : Server} {c : TextChannel}
    {payload : MassMessageSentPayload}
    (hserver : consumer.database.fetchServer payload.serverId = .ok server)
    (hchannel : consumer.database.fetchChannel c.id = .ok (.textChannel c))
    (hpayload : ∀ push ∈ payload.notifications, push.channel = c.id)
    (unreads : UnreadCollection) :
    consumer.Right server c payload unreads
        ((consumer.consumeEvent payload).exec { unreads := unreads }).2 ↔
      (∀ member ∈ fetchAllMembers payload.serverId consumer.members,
        (∀ id ∈ consumer.expected server c payload member, id = c.id) ∧
        consumer.timesMarked member.id.user unreads (consumer.deliveries payload.serverId
            (payload.notifications.map consumer.rendered))
          = (consumer.expected server c payload member).length) ∧
      ∀ push chunk, (push, chunk) ∈ consumer.deliveries payload.serverId
          (payload.notifications.map consumer.rendered) →
        push.mentionsEveryone = true → ∀ member ∈ chunk, consumer.Subscribed member.id.user →
        consumer.isOnline member.id.user = false → member.id.user ∉ push.existingMentions →
        consumer.canView server c member = true := by
  have hdeliveries : ∀ delivery ∈ consumer.deliveries payload.serverId
      (payload.notifications.map consumer.rendered), delivery.1.channel = c.id := by
    intro delivery hdelivery
    obtain ⟨push, hpush, hrendered⟩ := mem_map.mp (mem_deliveries hdelivery).1
    rw [← hrendered, channel_rendered, hpayload push hpush]
  rw [store_consumeEvent hserver hchannel hpayload]
  refine ⟨fun h => ⟨fun member hmember => ?_, fun push chunk hdelivery => ?_⟩,
    fun h => ⟨fun member hmember => ?_, ?_⟩⟩
  · have hunreads := h.unreads member hmember
    rw [unreads_foldl] at hunreads
    exact (view_eq_add_iff hdeliveries unreads _ _).mp hunreads
  · have hpushes := h.pushes
    rw [published_foldl, nil_append] at hpushes
    refine (forall_pushedTo_iff hbare (mem_deliveries hdelivery).2).mp ?_
    exact forall_notificationsFor_iff.mp fun p hp =>
      hpushes p (mem_flatMap.mpr ⟨(push, chunk), hdelivery, hp⟩)
  · rw [unreads_foldl]
    exact (view_eq_add_iff hdeliveries unreads _ _).mpr (h.1 member hmember)
  · rw [published_foldl, nil_append]
    intro p hp
    obtain ⟨⟨push, chunk⟩, hdelivery, hp⟩ := mem_flatMap.mp hp
    have hallowed := (forall_pushedTo_iff hbare (mem_deliveries hdelivery).2).mpr
      (h.2 push chunk hdelivery)
    exact forall_notificationsFor_iff.mpr hallowed p hp

/-! ### A channel for the owner -/

/-- Only the owner of this server can see its channels. -/
def closedServer : Server where
  id := "s"
  owner := "o"

def closedChannel : TextChannel where
  id := "c"
  server := "s"

/-- The owner and somebody else, who has a phone, in chunks of two. -/
def closedConsumer : MassMessageConsumer where
  database := ReferenceDb.database
    { servers := HashMap.collect [("s", closedServer)]
      channels := HashMap.collect [("c", .textChannel closedChannel)] }
  users := ((∅ : Collection User.id).insert { id := "o" }).insert { id := "v" }
  members :=
    { members := ((∅ : Collection MemberDocument.id).insert
        (.ofMember { id := ⟨"s", "o"⟩, roles := ["admin"] })).insert
        (.ofMember { id := ⟨"s", "v"⟩, roles := ["guest"] }) }
  sessions := [{ id := "1", userId := "v", subscription := some ⟨"apn", "", "token"⟩ }]
  isOnline _ := false
  rule := .single
  chunkSize := 2
  clock := Stream'.const 0
  render _ := none

/-- Both have read the channel before. -/
def closedUnreads : UnreadCollection :=
  ((∅ : UnreadCollection).insert { id := ⟨"c", some "o"⟩ }).insert { id := ⟨"c", some "v"⟩ }

/-- A payload with one message. -/
def closedPayload (message : Message) : MassMessageSentPayload where
  notifications := [{ message := message, channel := "c" }]
  serverId := "s"

/-- What is there after the payload. -/
def afterClosed (message : Message) : PushdState :=
  ((closedConsumer.consumeEvent (closedPayload message)).exec { unreads := closedUnreads }).2

theorem bare_closedConsumer : closedConsumer.members.Records MemberDocument.Bare := by
  intro id doc hdoc hdeparted
  have hnone : ∀ doc ∈ closedConsumer.members.members.documents, doc.departed = false := by
    decide +kernel
  rw [hnone doc (get?_eq_some.mp hdoc).1] at hdeparted
  cases hdeparted

theorem chunks_everyone_closedConsumer :
    let chunks := closedConsumer.chunks "s"
      { message := { id := "m", flags := some 4 }, channel := "c" }
    chunks.2 = true ∧ chunks.1.flatten = fetchAllMembers "s" closedConsumer.members := by
  have hdocs : ∀ doc ∈ closedConsumer.members.members.documents,
      doc.departed = false ∧ doc.joinedAt.isSome = true := by decide +kernel
  exact chunks_everyone (by decide) (fun _ doc h => (hdocs doc (get?_eq_some.mp h).1).1)
    (fun _ doc h _ => (hdocs doc (get?_eq_some.mp h).1).2) rfl "s"

/-- A role is mentioned whose holders cannot see the channel: nothing has to be done. -/
theorem massMention_right_guests :
    closedConsumer.Right closedServer closedChannel
      (closedPayload { id := "m", roleMentions := some ["guest"] }) closedUnreads
      (afterClosed { id := "m", roleMentions := some ["guest"] }) := by
  refine (massMention_right_iff closedConsumer bare_closedConsumer rfl rfl (by simp [closedPayload,
    closedChannel]) closedUnreads).mpr ⟨by decide +kernel, ?_⟩
  intro push chunk hdelivery heveryone
  obtain ⟨push, hpush, rfl⟩ := mem_map.mp (mem_deliveries hdelivery).1
  obtain rfl := mem_singleton.mp hpush
  exact absurd heveryone (by decide)

/-- **Mass mentions go wrong.**  When everyone is mentioned, the owner finds the id of the channel
among the mentions instead of that of the message; so does somebody who cannot see the channel,
and gets a push.  When a role of the owner is mentioned, nothing is added. -/
theorem massMention_wrong :
    (closedConsumer.canView closedServer closedChannel { id := ⟨"s", "o"⟩, roles := ["admin"] }
        = true ∧
      closedConsumer.canView closedServer closedChannel { id := ⟨"s", "v"⟩, roles := ["guest"] }
        = false) ∧
    (¬ closedConsumer.Right closedServer closedChannel
        (closedPayload { id := "m", flags := some 4 }) closedUnreads
        (afterClosed { id := "m", flags := some 4 }) ∧
      (MongoDb.unreadDriver .single).view (afterClosed { id := "m", flags := some 4 }).unreads
        ⟨"c", "o"⟩ = ⟨["c"], none⟩ ∧
      (MongoDb.unreadDriver .single).view (afterClosed { id := "m", flags := some 4 }).unreads
        ⟨"c", "v"⟩ = ⟨["c"], none⟩ ∧
      (afterClosed { id := "m", flags := some 4 }).published.map (·.payload.userId) = ["v"]) ∧
    (¬ closedConsumer.Right closedServer closedChannel
        (closedPayload { id := "m", roleMentions := some ["admin"] }) closedUnreads
        (afterClosed { id := "m", roleMentions := some ["admin"] }) ∧
      (MongoDb.unreadDriver .single).view
        (afterClosed { id := "m", roleMentions := some ["admin"] }).unreads ⟨"c", "o"⟩ = {}) := by
  refine ⟨by decide +kernel, ⟨fun h => ?_, by decide +kernel, by decide +kernel, by decide +kernel⟩,
    fun h => ?_, by decide +kernel⟩
  all_goals
    have howner := h.unreads { id := ⟨"s", "o"⟩, roles := ["admin"] } (by decide +kernel) "c"
    revert howner
    decide +kernel

end DawnChat
