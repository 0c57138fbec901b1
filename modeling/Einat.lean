import Einat.PortRanges
import Einat.Network
import Einat.Policy
import Einat.Trie
import Einat.Builder
import Einat.DataPlane
import Einat.Apply
import Einat.Lifecycle
import Einat.Interface
import Einat.Daemon
