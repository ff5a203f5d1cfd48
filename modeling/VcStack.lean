import VcStack.AuditChain
import VcStack.InstanceLocks
import VcStack.Quotas
import VcStack.LoginThrottle
import VcStack.FederatedRoles
import VcStack.InstanceTasks
import VcStack.Pagination
import VcStack.MessageBus
import VcStack.LeaderElection
import VcStack.ResourceNames
import VcStack.PortGroupMembers
import VcStack.EvacuationSteps
import VcStack.SecretVersions
import VcStack.KeyRotations
import VcStack.ScalingGroups
import VcStack.AddressAllocation
import VcStack.RuleMatches
import VcStack.IdentityTables
import VcStack.BreakerResets
import VcStack.StackPreviews
import VcStack.WorkflowRollbacks
import VcStack.StackTeardown
import VcStack.EvacuationOrder
import VcStack.HaSettings
import VcStack.HostHealth
import VcStack.HostRegistrations
import VcStack.NegatedOperators
import VcStack.PlainAddresses
import VcStack.WildcardCosts
import VcStack.FederatedProvisioning
import VcStack.SignedRequests
import VcStack.TrustPolicies
import VcStack.BreakerHistories
import VcStack.IdempotencyKeys
import VcStack.Slugs
import VcStack.HostScheduling
import VcStack.NodeFirewalls
import VcStack.TaskQueues
import VcStack.VmRecycling
import VcStack.Migrations
import VcStack.SlurmUsers
import VcStack.Histories
import VcStack.Text
import VcStack.WallTimes
import VcStack.NodePorts
import VcStack.VncPorts
import VcStack.QemuOptions
import VcStack.QemuLifecycles
import VcStack.AbacPolicies
import VcStack.Notifications
import VcStack.DomainTrees
import VcStack.DnsZones
import VcStack.RecordValidity
