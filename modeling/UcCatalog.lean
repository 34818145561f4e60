import UcCatalog.Nesting
import UcCatalog.FoldedMap
import UcCatalog.Members
import UcCatalog.QueryString
import UcCatalog.JsonText
import UcCatalog.Stateful
import UcCatalog.Transition
import UcCatalog.CxxString
import UcCatalog.TypeParser
import UcCatalog.TypeBranches
import UcCatalog.TypeEquations
import UcCatalog.TypeSpelling
import UcCatalog.TypeReadings
import UcCatalog.TypeBounds
import UcCatalog.TypeRejections
import UcCatalog.TypeSize
import UcCatalog.TypeGrammar
import UcCatalog.TypeSegments
import UcCatalog.DecimalBounds
import UcCatalog.Api
import UcCatalog.RequestUrls
import UcCatalog.CredentialsBody
import UcCatalog.TableReplies
import UcCatalog.TableRecords
import UcCatalog.CatalogSet
import UcCatalog.FailedLoad
import UcCatalog.Interleaving
import UcCatalog.EntryLock
import UcCatalog.ConcurrentCalls
import UcCatalog.CachedListing
import UcCatalog.Catalog
import UcCatalog.NamedListings
import UcCatalog.EntryLookup
import UcCatalog.Operations
import UcCatalog.ScanFunction
import UcCatalog.InstalledSecrets
import UcCatalog.CredentialReplies
import UcCatalog.CachedTables
import UcCatalog.EntryHandles
import UcCatalog.SchemaLookup
import UcCatalog.Snapshot
import UcCatalog.CacheRefinement
import UcCatalog.RemoteServer
import UcCatalog.ColumnOrder
import UcCatalog.RemoteListing
import UcCatalog.AttachedSecret
import UcCatalog.LoadAttempts
import UcCatalog.BlamedTables
import UcCatalog.CacheHoldings
import UcCatalog.RequestsOnce
import UcCatalog.ConcurrentLoads
import UcCatalog.ConcurrentGuarantees
import UcCatalog.SharedCatalog
import UcCatalog.AttachOptions
import UcCatalog.Session
import UcCatalog.SessionCatalogs
import UcCatalog.SessionRequests
import UcCatalog.SessionSecrets
import UcCatalog.TokenRenaming
import UcCatalog.SessionTokens
import UcCatalog.Transactions
