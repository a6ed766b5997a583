import Hap.Basic
import Hap.Crypto
import Hap.Json
import Hap.Session.Transport
import Hap.Session.RoundTrip
import Hap.Session.Counters
import Hap.Session.Tamper
import Hap.Session.Channel
import Hap.Store.FsStore
import Hap.Store.Pairings
import Hap.Store.Migrate
import Hap.Server.State
import Hap.Server.PairSetup
import Hap.Server.SetupAuth
import Hap.Server.SetupInterleaving
import Hap.Server.SetupSchedules
import Hap.Server.Admin
import Hap.Server.AdminRuns
import Hap.Server.SetupFailures
import Hap.Server.SetupComplete
import Hap.Server.Registry
import Hap.Server.PairingStore
import Hap.Server.Provenance
import Hap.Server.Lifecycle
import Hap.Characteristics.Tree
import Hap.Characteristics.Get
import Hap.Characteristics.Put
import Hap.Characteristics.Writes
