import Cadvisor.Go.Runtime
import Cadvisor.Go.Strings
import Cadvisor.Info
import Cadvisor.Container.Factory
import Cadvisor.Raw.Factory
import Cadvisor.Rkt.Factory
import Cadvisor.Netlink.Reader
import Cadvisor.Docker.FsHandler
import Cadvisor.Docker.Handler
import Cadvisor.Docker.Stats
import Cadvisor.Cloudinfo
import Cadvisor.Machine.Machine
