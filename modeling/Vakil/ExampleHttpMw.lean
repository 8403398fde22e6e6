import Vakil.PluginApi

/-!
# The HTTP example plugin (`example-http-mw`)

The plugin answers `GET /local-reply` itself and sends every other request to one of three upstreams, by
the number that the request draws from a counter. The counter, `REQUEST_COUNTER`, is all the state that
its callbacks share; what they log is left out.
-/

namespace Vakil.ExampleHttpMw

/-- `REQUEST_COUNTER`. -/
abbrev RequestCounter := UInt64

def httpInit : PluginInitFn RequestCounter := fun _ _ counter => (.ok (), counter)

/-- The host and path for a request with the number `n`. -/
def target (n : UInt64) : Str × Str :=
  if n % 3 = 1 then
    ("httpbin.dev".toList, "/dump/request?n=".toList ++ Nat.toDigits 10 n.toNat)
  else if n % 3 = 2 then
    ("httpbin.org".toList, "/anything?n=".toList ++ Nat.toDigits 10 n.toNat)
  else ("echo.free.beeceptor.com".toList, "/?n=".toList ++ Nat.toDigits 10 n.toNat)

/-- `fetch_add(1)` on the counter wraps around. -/
def httpOnRoute : HttpHookFn RequestCounter := fun _ ctx counter =>
  if ctx.request.isNone then
    (.error ⟨some "no request provided to callback".toList⟩, ctx, counter)
  else
    let (host, path) := target counter
    match ctx.setRoute ⟨.replaceUpstream, some ⟨host, 80⟩, some path⟩ with
    | (true, ctx) => (.ok ⟨.replace⟩, ctx, counter + 1)
    | (false, ctx) => (.error ⟨some "failed to set route".toList⟩, ctx, counter + 1)

/-- Whether the plugin answers a request itself. -/
def isLocalReply (request : HttpRequest) : Bool :=
  request.method = "GET".toList && request.path = "/local-reply".toList

/-- `"hello from example-http-mw".as_bytes()`. -/
def hello : Bytes := "hello from example-http-mw".toList.map fun c => c.toNat.toUInt8

def httpOnRequestHeaders : HttpHookFn RequestCounter := fun _ ctx counter =>
  match ctx.request with
  | none => (.ok {}, ctx, counter)
  | some request =>
    if isLocalReply request then
      (.ok ⟨.replace⟩,
        { ctx with response := some ⟨request.streamId, request.version, 200, [], hello⟩ }, counter)
    else (.ok {}, ctx, counter)

/-- The callbacks that only log: `http_on_request_body`, `http_on_response_headers`,
`http_on_response_body`, `http_on_trailers` and `http_on_local_reply`. -/
def logged : HttpHookFn RequestCounter := fun _ ctx counter => (.ok {}, ctx, counter)

def httpOnRequestBody : HttpHookFn RequestCounter := logged

def httpOnResponseHeaders : HttpHookFn RequestCounter := logged

def httpOnResponseBody : HttpHookFn RequestCounter := logged

def httpOnTrailers : HttpHookFn RequestCounter := logged

def httpOnLocalReply : HttpHookFn RequestCounter := logged

/-- The instance is a box of a type without fields, so freeing it frees no memory. -/
def httpShutdown : ShutdownFn RequestCounter := fun _ counter => (.ok (), counter)

/-- `Box::into_raw(Box::new(ModuleHandle {}))` is a dangling pointer, and not null. -/
def buildHttpModule : PluginHttpModule RequestCounter where
  inst := 1
  priority := 0
  init := httpInit
  shutdown := httpShutdown
  onRoute := some httpOnRoute
  onRequestHeaders := some httpOnRequestHeaders
  onRequestBody := some httpOnRequestBody
  onResponseHeaders := some httpOnResponseHeaders
  onResponseBody := some httpOnResponseBody
  onTrailers := some httpOnTrailers
  onLocalReply := some httpOnLocalReply

def createHttp : PluginFactoryFn (PluginHttpModule RequestCounter) RequestCounter :=
  fun counter => (.ok buildHttpModule, counter)

def getLibrary : PluginRootModule RequestCounter where
  manifest := ⟨"example-http-mw".toList, ⟨0, 1, 0⟩⟩
  createHttp := some createHttp
  createTcp := none
  createUdp := none

end Vakil.ExampleHttpMw
