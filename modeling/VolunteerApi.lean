import VolunteerApi.Model.System
import VolunteerApi.Properties.AccessAudit
import VolunteerApi.Properties.AccountAccess
import VolunteerApi.Properties.AddendaHistory
import VolunteerApi.Properties.AdminGrants
import VolunteerApi.Properties.AssignmentLifecycle
import VolunteerApi.Properties.AutomaticTags
import VolunteerApi.Properties.AutomaticTasks
import VolunteerApi.Properties.AutomaticWithdrawal
import VolunteerApi.Properties.BlockedCalls
import VolunteerApi.Properties.BlockedSessions
import VolunteerApi.Properties.CancelWindow
import VolunteerApi.Properties.CancelledFields
import VolunteerApi.Properties.ChatRelay
import VolunteerApi.Properties.ChatReplies
import VolunteerApi.Properties.Clearance
import VolunteerApi.Properties.ClearanceLevels
import VolunteerApi.Properties.Completion
import VolunteerApi.Properties.CompletionTimes
import VolunteerApi.Properties.ConcurrentAddenda
import VolunteerApi.Properties.ConcurrentDelegations
import VolunteerApi.Properties.ConcurrentLeaving
import VolunteerApi.Properties.ConcurrentTaking
import VolunteerApi.Properties.ConcurrentVouching
import VolunteerApi.Properties.Confidentiality
import VolunteerApi.Properties.ConfirmedAssignments
import VolunteerApi.Properties.DirectChatAccess
import VolunteerApi.Properties.DirectPairs
import VolunteerApi.Properties.EmailVerification
import VolunteerApi.Properties.ExactLocations
import VolunteerApi.Properties.FailedStatements
import VolunteerApi.Properties.FrontlineLoss
import VolunteerApi.Properties.HiddenLocations
import VolunteerApi.Properties.HierarchyTree
import VolunteerApi.Properties.JoinRequestHandling
import VolunteerApi.Properties.JoinRequestTenants
import VolunteerApi.Properties.LeadershipGrants
import VolunteerApi.Properties.LevelMoves
import VolunteerApi.Properties.ListedDelegations
import VolunteerApi.Properties.MessagePaging
import VolunteerApi.Properties.NothingLost
import VolunteerApi.Properties.NotificationMarkup
import VolunteerApi.Properties.OnlineUsers
import VolunteerApi.Properties.OrganizationLeaders
import VolunteerApi.Properties.OrganizationTree
import VolunteerApi.Properties.PasswordHashes
import VolunteerApi.Properties.PasswordReset
import VolunteerApi.Properties.PremisesTenants
import VolunteerApi.Properties.ReadReceipts
import VolunteerApi.Properties.RefreshEndpoint
import VolunteerApi.Properties.RefreshTokens
import VolunteerApi.Properties.RequestAccess
import VolunteerApi.Properties.RequestLists
import VolunteerApi.Properties.RequestManagers
import VolunteerApi.Properties.ReviewWindow
import VolunteerApi.Properties.SeedRange
import VolunteerApi.Properties.SoftDelete
import VolunteerApi.Properties.Standing
import VolunteerApi.Properties.TagRoundTrip
import VolunteerApi.Properties.TaskAccess
import VolunteerApi.Properties.TaskBoard
import VolunteerApi.Properties.TaskChat
import VolunteerApi.Properties.TaskChatAccess
import VolunteerApi.Properties.TaskReports
import VolunteerApi.Properties.TrustBonus
import VolunteerApi.Properties.VouchEndpoint
import VolunteerApi.Properties.Vouches
