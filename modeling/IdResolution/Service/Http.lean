import IdResolution.Http.Exchange

/-!
# Services over HTTP

A service that is reached over HTTP, with the server at its other end: where it
listens, what it replies, and the requests that have reached it.
-/

namespace IdResolution

/-- An HTTP server.  It replies to the requests that reach it from a list, one after
the other, and then always in the same way. -/
structure HttpServer where
  host : Host
  port : Nat
  /-- Whether it speaks `https` instead of `http`. -/
  secure : Bool := false
  listening : Bool := true
  replies : List Http.Reply := []
  standing : Http.Reply := .closed
  received : List Http.Post := []
  deriving DecidableEq, Repr

/-- Whether a request to a URL reaches a server. -/
def HttpServer.isReachedBy (server : HttpServer) (url : Http.Url) : Bool :=
  server.listening && url.secure == server.secure && url.host == server.host &&
    url.port == server.port

/-- Let a request reach a server. -/
def HttpServer.receive (server : HttpServer) (post : Http.Post) :
    Http.Reply × HttpServer :=
  (server.replies.headD server.standing,
    { server with replies := server.replies.tail, received := server.received ++ [post] })

/-- A service over HTTP. -/
structure HttpService where
  binding : Http.Binding
  server : HttpServer

instance : Service HttpService where
  call operation items service :=
    match service.binding.post operation items with
    | .error cause => ({ outcome := .failed cause }, service)
    | .ok post =>
        if service.server.isReachedBy post.url then
          let replied := service.server.receive post
          let outcome := replied.1.outcome operation service.binding.timeoutMs
          let time := if replied.1 = .silent then service.binding.timeoutMs else 0
          ({ time, outcome }, { service with server := replied.2 })
        else
          ({ outcome := .failed (.connectionFailed "connection refused") }, service)

end IdResolution
