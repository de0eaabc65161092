import EnvelopeLite.CallTrace
import EnvelopeLite.Common
import EnvelopeLite.Auth
import EnvelopeLite.HeaderContext
import EnvelopeLite.Config
import EnvelopeLite.Primitives
import EnvelopeLite.SliceOps
import EnvelopeLite.EnvelopeCrypto.Shared
import EnvelopeLite.EnvelopeCrypto.Cbc
import EnvelopeLite.EnvelopeCrypto.Aead
import EnvelopeLite.EnvelopeCrypto.OpenPath
import EnvelopeLite.EnvelopeCrypto.SealPath
import EnvelopeLite.RoundTrip
import EnvelopeLite.Agreement
import EnvelopeLite.Base64
import EnvelopeLite.ReferencePrimitives
import EnvelopeLite.ModeSeparation
import EnvelopeLite.Canonical
import EnvelopeLite.Header
import EnvelopeLite.Adapter
import EnvelopeLite.Client
import EnvelopeLite.RequestPath
import EnvelopeLite.ResponseGrammar
import EnvelopeLite.Placement
import EnvelopeLite.ResponsePath
import EnvelopeLite.ResponseBinding
import EnvelopeLite.CallOrder
import EnvelopeLite.OpenGate
import EnvelopeLite.SealOutcomes
import EnvelopeLite.PinnedKind
import EnvelopeLite.CallerHeaders
import EnvelopeLite.HeaderMutation
import EnvelopeLite.SchemaBuilder
import EnvelopeLite.Calendar
import EnvelopeLite.CivilDate
import EnvelopeLite.Numerals
import EnvelopeLite.Timestamp
import EnvelopeLite.Metadata
import EnvelopeLite.PanicFreedom
import EnvelopeLite.Exchange
import EnvelopeLite.Supply
import EnvelopeLite.RandomSource
import EnvelopeLite.Request
import EnvelopeLite.Freshness
import EnvelopeLite.Json
import EnvelopeLite.Keys
import EnvelopeLite.Slots
import EnvelopeLite.Settings
import EnvelopeLite.Transfer
import EnvelopeLite.Lockstep
import EnvelopeLite.NameSets
import EnvelopeLite.Preflight
import EnvelopeLite.Redaction
import EnvelopeLite.Limits
