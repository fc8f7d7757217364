import RpcGateway.Access.CounterStore
import RpcGateway.Calls.Registry
import RpcGateway.Shutdown.Coordinator

/-!
# The resources of a gateway

What a gateway closes when it stops: its server, which drains, and then the backends of its services
and the store of its counters.
-/

namespace RpcGateway.Shutdown

namespace Resource

def server (name : String) (task : Closing) : Resource := ⟨name, .server task false⟩

def backend (service : String) (closing : Closing) : Resource :=
  ⟨Calls.Service.resourceName service, .plain .release closing⟩

/-- A store is closed at once. -/
def store (s : Access.CounterStore) : Resource :=
  ⟨Access.CounterStore.resourceName, .plain .release (.lasting 0 s.close.1)⟩

end Resource

def httpServerName : String := "http_server"

/-- A server that stops at once when it is told to, and the backends behind it. -/
def Coordinator.ofServices (services : List String) (closing : String → Closing) : Coordinator where
  resources := Resource.server httpServerName (.lasting 0 true) ::
    services.map fun s ↦ Resource.backend s (closing s)

end RpcGateway.Shutdown
