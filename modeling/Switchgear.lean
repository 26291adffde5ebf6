import Switchgear.Lib.Machine
import Switchgear.Lib.Transaction
import Switchgear.Lib.MapView
import Switchgear.Lib.KeyedMap
import Switchgear.Lib.ForeignKey
import Switchgear.Lib.MapPart
import Switchgear.Lib.Versioned
import Switchgear.Lib.TracedLoop
import Switchgear.Lib.Paging
import Switchgear.Lib.Json
import Switchgear.Lib.Url
import Switchgear.ServiceApi.Service
import Switchgear.ServiceApi.Discovery
import Switchgear.ServiceApi.Http
import Switchgear.ServiceApi.DiscoveryJson
import Switchgear.Discovery.Error
import Switchgear.Discovery.Memory
import Switchgear.Discovery.Db
import Switchgear.Discovery.DbOutcome
import Switchgear.Discovery.PutFlag
import Switchgear.Discovery.Atomicity
import Switchgear.Discovery.Equivalence
import Switchgear.Discovery.VersionedStore
import Switchgear.Discovery.ConditionalRead
import Switchgear.Service.Crud
import Switchgear.Service.DiscoveryHandlers
import Switchgear.Service.Extract
import Switchgear.Service.ForwardedProto
import Switchgear.Service.UrlRoundTrip
import Switchgear.Discovery.Http
import Switchgear.Discovery.PatchOverHttp
import Switchgear.Pool.Error
import Switchgear.Pool.ClientPool
import Switchgear.Pool.Clients
import Switchgear.Pool.Grpc
import Switchgear.Pool.Connections
import Switchgear.Pingora.Error
import Switchgear.Pingora.Backend
import Switchgear.Pingora.Discovery
import Switchgear.Pingora.DiscoveryCache
import Switchgear.Pingora.DiscoveryRace
import Switchgear.Pingora.DiscoveryRecovery
import Switchgear.Pingora.Weighted
import Switchgear.ServiceApi.Offer
import Switchgear.ServiceApi.OfferJson
import Switchgear.ServiceApi.LnUrl
import Switchgear.ServiceApi.LnUrlMetadata
import Switchgear.Offer.Error
import Switchgear.Offer.Memory
import Switchgear.Offer.Consistency
import Switchgear.Offer.Db
import Switchgear.Offer.Provider
import Switchgear.Offer.Frame
import Switchgear.LnUrl.PayHandlers
import Switchgear.LnUrl.CallbackHost
import Switchgear.LnUrl.Invoice
import Switchgear.LnUrl.DescriptionHash
import Switchgear.LnUrl.InvoiceAmount
import Switchgear.LnUrl.Json
import Switchgear.LnUrl.Service
import Switchgear.LnUrl.Wallet
import Switchgear.Pingora.LoadBalancer
import Switchgear.Pingora.Balance
import Switchgear.Pingora.BalancerSync
import Switchgear.Pingora.Health
import Switchgear.Pingora.Invoice
import Switchgear.Pingora.CapacityBias
import Switchgear.Pingora.RoundRobin
import Switchgear.Lib.Locks
import Switchgear.Offer.MemoryLocks
import Switchgear.Offer.Equivalence
import Switchgear.Offer.PutRace
import Switchgear.Lib.Hex
import Switchgear.Lib.ForwardedHeader
import Switchgear.Lib.UrlPath
import Switchgear.Lib.PercentEncode
import Switchgear.Lib.UrlSegment
import Switchgear.Discovery.OverHttp
import Switchgear.Discovery.Commands
import Switchgear.Pingora.Traffic
import Switchgear.Pingora.Drain
import Switchgear.Discovery.Authorized
import Switchgear.Pingora.RemoteDiscovery
import Switchgear.Service.OfferHandlers
import Switchgear.Offer.Http
import Switchgear.Offer.OverHttp
import Switchgear.Service.PostAnswers
import Switchgear.Discovery.StoredWeights
import Switchgear.Offer.StoredNumbers
import Switchgear.Offer.Paging
import Switchgear.Lib.History
import Switchgear.Service.Auth
import Switchgear.Service.OfferCalls
import Switchgear.Service.SignedToken
import Switchgear.Offer.Provenance
import Switchgear.Offer.Authorized
import Switchgear.LnUrl.Remote
