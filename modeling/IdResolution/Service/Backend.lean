import IdResolution.Service.Http
import IdResolution.Service.Logged
import IdResolution.Service.Script
import IdResolution.Service.Tables

/-!
# Kinds of services

The services that a session may hold, as one type.
-/

namespace IdResolution

/-- A service of any kind. -/
inductive Backend where
  | tables (service : Logged Tables)
  | script (service : ScriptService)
  | http (service : HttpService)

namespace Backend

instance : Service Backend where
  call operation items
    | .tables service =>
        let called := Service.call operation items service
        (called.1, .tables called.2)
    | .script service =>
        let called := Service.call operation items service
        (called.1, .script called.2)
    | .http service =>
        let called := Service.call operation items service
        (called.1, .http called.2)

instance : Recording Backend where
  calls
    | .tables service => Recording.calls service
    | .script service => service.requests.length
    | .http service => service.server.received.length
  sizes?
    | .tables service => Recording.sizes? service
    | .script _ | .http _ => none
  requests
    | .tables _ | .http _ => []
    | .script service => service.requests

end Backend

end IdResolution
