import DawnChat.Coalesced
import DawnChat.Servers.RoleHistory
import DawnChat.Routes.RoleRanks
import DawnChat.Routes.Channels
import DawnChat.Bonfire.Updates
import DawnChat.Bonfire.SelfRecord
import DawnChat.Bonfire.Visibility
import DawnChat.Bonfire.Forward
import DawnChat.Bonfire.Client
import DawnChat.Bonfire.Members
import DawnChat.Users.Concurrent
import DawnChat.Bonfire.RoleCache
import DawnChat.Bonfire.Leave
import DawnChat.Bonfire.Recalculate
import DawnChat.Bonfire.Handshake
import DawnChat.Files.Storage
import DawnChat.Files.Marks
import DawnChat.Members.Generator
import DawnChat.Users.Usernames
import DawnChat.Users.Badges
import DawnChat.Unreads.Acknowledge
import DawnChat.Tasks.Newest
import DawnChat.Pushd.MassMention
import DawnChat.Messages.Reactions
import DawnChat.Routes.Slowmode
import DawnChat.OAuth2.Grants
import DawnChat.OAuth2.Rejected
import DawnChat.OAuth2.Provenance
import DawnChat.Channels.Concurrent
import DawnChat.Channels.References
import DawnChat.Servers.Concurrent
import DawnChat.Servers.Ownership
import DawnChat.Parser.Iterator
import DawnChat.Permissions.Timeout
import DawnChat.Channels.Update
import DawnChat.Voice.Indexes
