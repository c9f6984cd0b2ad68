import AimServer.Agent.EmptyProvider
import AimServer.Properties.AccountIds
import AimServer.Properties.AccountRights
import AimServer.Properties.AgentReplies
import AimServer.Properties.Anonymous
import AimServer.Properties.Authorship
import AimServer.Properties.AvatarBackends
import AimServer.Properties.Avatars
import AimServer.Properties.ByteQueue
import AimServer.Properties.BytesToFrames
import AimServer.Properties.CacheAgreement
import AimServer.Properties.CacheBackends
import AimServer.Properties.ChatRows
import AimServer.Properties.ChatView
import AimServer.Properties.Connections
import AimServer.Properties.Consent
import AimServer.Properties.Conversations
import AimServer.Properties.Cooldown
import AimServer.Properties.Digest
import AimServer.Properties.Embeddings
import AimServer.Properties.FailedSends
import AimServer.Properties.FailedUploads
import AimServer.Properties.FanOut
import AimServer.Properties.FrameStream
import AimServer.Properties.GroupAdmins
import AimServer.Properties.GroupJoin
import AimServer.Properties.GroupOwner
import AimServer.Properties.GroupSend
import AimServer.Properties.HistoryAppends
import AimServer.Properties.Indexing
import AimServer.Properties.Injection
import AimServer.Properties.LiveEntries
import AimServer.Properties.Login
import AimServer.Properties.LoginRace
import AimServer.Properties.MailCodes
import AimServer.Properties.Mails
import AimServer.Properties.MediaUploads
import AimServer.Properties.Names
import AimServer.Properties.OfflineCrash
import AimServer.Properties.OfflineDelivery
import AimServer.Properties.OfflineQueue
import AimServer.Properties.OneAnswer
import AimServer.Properties.OnlineStatus
import AimServer.Properties.Passwords
import AimServer.Properties.PendingOnce
import AimServer.Properties.Persistence
import AimServer.Properties.PoolOwnership
import AimServer.Properties.ProfileWrites
import AimServer.Properties.PublishedEvents
import AimServer.Properties.PushedRequests
import AimServer.Properties.Quota
import AimServer.Properties.QuotaCover
import AimServer.Properties.RefusedLinks
import AimServer.Properties.Registrations
import AimServer.Properties.Relationships
import AimServer.Properties.RequestIds
import AimServer.Properties.Requests
import AimServer.Properties.Requeues
import AimServer.Properties.Retrieval
import AimServer.Properties.RowIteration
import AimServer.Properties.SavedOnce
import AimServer.Properties.ScaledImages
import AimServer.Properties.SchemaCheck
import AimServer.Properties.SessionLookup
import AimServer.Properties.SkillFallback
import AimServer.Properties.StoredPasswords
import AimServer.Properties.Symmetry
import AimServer.Properties.Upgrade
import AimServer.Properties.VectorStores
import AimServer.Properties.Wakeups
