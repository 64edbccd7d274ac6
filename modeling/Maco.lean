import Maco.Journal.Preflight
import Maco.Journal.Timeline
import Maco.Forge.OrderFree
import Maco.Forge.Monotone
import Maco.RollingBudget.Capacity
import Maco.RunBudget.Ceiling
import Maco.RunBudget.Lifetime
import Maco.RunBudget.Atomicity
import Maco.RunBudget.Agreement
import Maco.Lease.Fencing
import Maco.Graph.Clean
import Maco.Turn.Store
import Maco.SyncStore.Remote
import Maco.Supervise.Exclusion
import Maco.Messaging.Crash
import Maco.Messaging.Secrets
import Maco.Messaging.Framing
import Maco.StateJournal.Runs
import Maco.Llm.Redactor
import Maco.Journal.Text
import Maco.Journal.Coverage
import Maco.Credentials.EncryptedFile
