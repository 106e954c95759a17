/-
DawnChat/Servers/Mongo.lean

The MongoDB database as the routes on servers use it: the collections of `ReferenceDb`, the
members with their bans, the invites and the webhooks.

Members are in `MemberDb` here, because a record that somebody left behind is still a document
of the collection.  The members and bans of `ReferenceDb` are not used.

A driver has more operations than these routes need.  `driver` gives those that they do need,
and takes the others from any driver, so that results hold whatever those are.
-/
import DawnChat.Members.Store
import DawnChat.Messages.Delete
import DawnChat.Routes.Limits
import DawnChat.Servers.Edit
import DawnChat.Servers.Store

namespace DawnChat

open RustStd Fallible Handler

/-- An invite, as it is stored. -/
inductive StoredInvite where
  /-- Invite to a specific server channel. -/
  | server (code server creator channel : String)
  /-- Invite to a group channel. -/
  | group (code creator channel : String)
  deriving DecidableEq, Repr

namespace StoredInvite

/-- Get the invite code for this invite. -/
def code : StoredInvite → String
  | server code _ _ _ => code
  | group code _ _ => code

/-- Id of the channel this invite points to. -/
def channel : StoredInvite → String
  | server _ _ _ channel => channel
  | group _ _ channel => channel

end StoredInvite

/-- Webhook. -/
structure StoredWebhook where
  id : String
  name : String
  avatar : Option File := none
  /-- User that created this webhook. -/
  creatorId : String
  /-- The channel this webhook belongs to. -/
  channelId : String
  permissions : U64
  /-- The private token for the webhook. -/
  token : Option String := none
  deriving DecidableEq, Repr

/-- The collections. -/
structure MongoStore where
  db : ReferenceDb := {}
  memberDb : MemberDb := {}
  channelInvites : HashMap String StoredInvite := ∅
  channelWebhooks : HashMap String StoredWebhook := ∅

namespace MongoStore

variable {α : Type}

def onDb (x : Request ReferenceDb α) : Request MongoStore α :=
  Handler.on db (fun db s => { s with db := db }) x

def onMembers (x : Request MemberDb α) : Request MongoStore α :=
  Handler.on memberDb (fun memberDb s => { s with memberDb := memberDb }) x

/-- The queries. -/
def database (rest : Driver MongoStore) (s : MongoStore) : Database :=
  { rest.database s with
    fetchUser := ReferenceDb.get s.db.users
    fetchServer := s.db.fetchServer
    fetchMember := fun serverId userId => MemberDb.fetchMember serverId userId s.memberDb
    fetchChannel := ReferenceDb.get s.db.channels }

/-- The MongoDB driver. -/
def driver (rest : Driver MongoStore) : Driver MongoStore :=
  { rest with
    database := database rest
    updateServer := fun id p remove => onDb (write (MongoDb.updateServer id p remove))
    softDeleteMember := fun id now => onMembers (MemberDb.softDeleteMember id now)
    insertBan := fun ban => onMembers (write (MemberDb.insertBan ban)) }

section Create

variable (settings : Settings) (rest : Driver MongoStore)

/-- Create a new server channel. -/
def createServerChannel (server : Server) (id : String) (data : DataCreateServerChannel)
    (updateServer : Bool) : Request MongoStore Channel := do
  let max := settings.features.limits.global.serverChannels
  throwIf (server.channels.length > max) (.tooManyChannels max)
  let channel := Channel.textChannel (data.channel id server.id)
  onDb (write (MongoDb.insertChannel channel))
  if updateServer then
    let _ ← server.update (driver rest) { channels := some (server.channels ++ [id]) } []
    return channel
  else return channel

end Create

/-- Delete a channel.  The invites, the unreads and the webhooks go first; but webhooks are
looked for in a collection `webhooks`, and nothing is stored there. -/
def deleteChannel (channel : Channel) : Request MongoStore Unit := do
  write fun s => .ok { s with
    channelInvites := s.channelInvites.retain fun _ invite => invite.channel ≠ channel.id }
  onDb (MongoDb.deleteChannel channel)

/-! ### What the writes leave -/

section Store

variable {s : MongoStore} {P : MongoStore → Prop} {f : ReferenceDb → Result ReferenceDb}

/-- What holds after a write to the collections of `ReferenceDb`. -/
theorem store_of_onDb_write (hs : P s) (hf : ∀ db', f s.db = .ok db' → P { s with db := db' }) :
    P (exec (onDb (write f)) s).2 := by
  show P { s with db := (exec (write f) s.db).2 }
  exact store_of_write (P := fun db => P { s with db := db }) hs hf

theorem exec_onDb_write {db' : ReferenceDb} (h : f s.db = .ok db') :
    exec (onDb (write f)) s = (.ok (), { s with db := db' }) := by
  rw [onDb, exec_on, exec_write, h]

theorem store_of_onDb_write_bind {g : Unit → Request MongoStore α} (hs : P s)
    (hf : ∀ db', f s.db = .ok db' → P (exec (g ()) { s with db := db' }).2) :
    P (exec (onDb (write f) >>= g) s).2 := by
  rcases h : f s.db with e | db'
  · have hexec : exec (onDb (write f)) s = (.error (.error e), s) := by
      rw [onDb, exec_on, exec_write, h]
    rw [exec_bind_of_error hexec]
    exact hs
  · rw [exec_bind_of_ok (exec_onDb_write h)]
    exact hf db' h

end Store

/-- A driver to take the other operations from: it finds and does nothing. -/
def exampleRest : Driver MongoStore where
  database _ := ReferenceDb.database {}
  updateServer _ _ _ := pure ()
  insertRole _ _ := pure ()
  updateRole _ _ _ _ := pure ()
  deleteRole _ _ := pure ()
  setChannelRolePermission _ _ _ := pure ()
  setRelationship _ _ _ := pure ()
  updateMember _ _ _ := pure ()
  softDeleteMember _ _ := pure ()
  insertBan _ := pure ()

end MongoStore

end DawnChat
