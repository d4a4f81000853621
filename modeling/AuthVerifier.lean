import AuthVerifier.Lib.Table
import AuthVerifier.Lib.Outcome
import AuthVerifier.Lib.Run
import AuthVerifier.Lib.Text
import AuthVerifier.Lib.Keyspace
import AuthVerifier.Lib.Jobs
import AuthVerifier.Lib.Schedule
import AuthVerifier.Lib.Checked
import AuthVerifier.Lib.FirstOccurrences
import AuthVerifier.Lib.IpText
import AuthVerifier.Lib.UrlHost
import AuthVerifier.Lib.Patterns
import AuthVerifier.Lib.Base64
import AuthVerifier.Lib.ByteSlice
import AuthVerifier.Lib.Phc
import AuthVerifier.Lib.Ensure
import AuthVerifier.Lib.Pointwise
import AuthVerifier.Lib.TagLengthValue
import AuthVerifier.Lib.SqlText
import AuthVerifier.Lib.Markup
import AuthVerifier.Lib.ElementTree
import AuthVerifier.Lib.Script
import AuthVerifier.Models
import AuthVerifier.Externals
import AuthVerifier.Totp
import AuthVerifier.Passwords
import AuthVerifier.ClaimPolicy
import AuthVerifier.Tokens
import AuthVerifier.SessionStore
import AuthVerifier.Jwks
import AuthVerifier.Transparent
import AuthVerifier.Database
import AuthVerifier.DatabaseFacts
import AuthVerifier.Authorization
import AuthVerifier.AdminEndpoints
import AuthVerifier.RealmsEndpoints
import AuthVerifier.AdminApi
import AuthVerifier.AuthorityClosure
import AuthVerifier.CredentialFrame
import AuthVerifier.TotpFrame
import AuthVerifier.RealmClaim
import AuthVerifier.PublicView
import AuthVerifier.SecretNonDisclosure
import AuthVerifier.JwtAcceptance
import AuthVerifier.Middleware
import AuthVerifier.Login
import AuthVerifier.SessionsEndpoints
import AuthVerifier.Certify
import AuthVerifier.Server
import AuthVerifier.Impersonation
import AuthVerifier.SessionIsolation
import AuthVerifier.SessionAuthenticity
import AuthVerifier.SecondFactor
import AuthVerifier.SqlSessions
import AuthVerifier.SessionLifetime
import AuthVerifier.RedisSessions
import AuthVerifier.RedisLifetime
import AuthVerifier.RedisListing
import AuthVerifier.BulkLogout
import AuthVerifier.AppTokens
import AuthVerifier.AppTokenLifecycle
import AuthVerifier.AppRoles
import AuthVerifier.SecretIdBound
import AuthVerifier.SamlStore
import AuthVerifier.SamlRefinement
import AuthVerifier.SamlValidation
import AuthVerifier.SamlReplay
import AuthVerifier.SamlEndpoints
import AuthVerifier.SamlSingleUse
import AuthVerifier.SessionUpsert
import AuthVerifier.AdminAtomicity
import AuthVerifier.Bootstrap
import AuthVerifier.AdminIdentity
import AuthVerifier.RoleIdStability
import AuthVerifier.ClaimMembers
import AuthVerifier.SamlParams
import AuthVerifier.SamlIdentityMapping
import AuthVerifier.ClaimUniqueness
import AuthVerifier.AdminStatements
import AuthVerifier.AdminInterleaving
import AuthVerifier.JwksTasks
import AuthVerifier.JwksLocks
import AuthVerifier.JwksThrottle
import AuthVerifier.JwksReconfiguration
import AuthVerifier.ListFilters
import AuthVerifier.JwksRefresh
import AuthVerifier.AcknowledgedWrites
import AuthVerifier.CredentialUnlink
import AuthVerifier.RealmClaimFrame
import AuthVerifier.RealmRevocation
import AuthVerifier.PasswordLogin
import AuthVerifier.TotpAgreement
import AuthVerifier.Kubernetes
import AuthVerifier.KubernetesAcceptance
import AuthVerifier.SqlQueries
import AuthVerifier.SqlHandlers
import AuthVerifier.SqlAgreement
import AuthVerifier.SentStatements
import AuthVerifier.KeyCollation
import AuthVerifier.RealmArithmetic
import AuthVerifier.KubernetesRoles
import AuthVerifier.TtlArithmetic
import AuthVerifier.SamlMetadata
import AuthVerifier.IdentityOutcome
import AuthVerifier.ReturnUrls
import AuthVerifier.JwksUrlFilter
import AuthVerifier.RealmIdGrammar
import AuthVerifier.BasicCredentials
import AuthVerifier.StoredHashes
import AuthVerifier.DevSeed
import AuthVerifier.DerReader
import AuthVerifier.ClientListing
import AuthVerifier.SamlPages
import AuthVerifier.CertificateInfo
import AuthVerifier.MetadataPreview
import AuthVerifier.MetadataAgreement
import AuthVerifier.LoginRateLimit
import AuthVerifier.Routes
import AuthVerifier.AdminUi
import AuthVerifier.AuthClient
import AuthVerifier.SignInHeader
import AuthVerifier.AdminUiSession
import AuthVerifier.SuperAdmins
import AuthVerifier.Lib.JsonStrings
import AuthVerifier.Lib.Simulation
import AuthVerifier.KubernetesRoleApi
import AuthVerifier.Lib.Ddl
import AuthVerifier.SchemaMigration
import AuthVerifier.Lib.Transcript
import AuthVerifier.AppAuth
import AuthVerifier.AppAuthHistory
import AuthVerifier.AppAuthLogins
import AuthVerifier.Lib.Wire
import AuthVerifier.RealmForm
