import Picket.AmdNames

/-!
# The URL of the hub

Installers and launchers are given the URL of the hub. It is configured, or that of the request at
hand; a configured one that is local is replaced by that of any request, and saved.
-/

namespace Picket

open Gather

/-- A request. The last field is whether the settings can be saved during it. -/
structure Request where
  path : String
  host : String
  xForwardedHost : String := ""
  xForwardedProto : String := ""
  tls : Bool := false
  cookie : String := ""
  saved : Bool := true

/-- What the standard library makes of URLs and addresses. -/
structure NetLib where
  toLower : Char → Char
  /-- `url.Parse`, then `Hostname`; nothing where parsing fails. -/
  hostname : String → Option String
  /-- `net.ParseIP`, then `IsLoopback`. -/
  parseIP : String → Option Bool

structure HubSettings where
  appURL : String := ""
  metaAppURL : String := "http://localhost:8090"
  dashboardPasswordHash : String := ""

inductive HandledRequest where
  | unauthorized
  | notFound
  /-- `e.Next()`. -/
  | next
  deriving DecidableEq

/-! ### Sessions -/

def isPublicRequest (path : String) : Bool :=
  if !hasPrefix path "/api/" then true
  else
    path = "/api/health" || path = "/api/picket/auth" || path = "/api/picket/agent-connect" ||
      path = "/api/picket/agent-binary" || path = "/api/picket/ssh-connect" ||
      hasPrefix path "/api/picket/ssh-launch/" || path = "/api/picket/ssh-connector" ||
      hasPrefix path "/api/picket/agent-install/"

/-- `strings.Split` at one character. -/
def splitAt (s : String) (c : Char) : List String :=
  (s.toList.splitOn c).map String.ofList

def hasDashboardSession (cookieHeader passwordHash : String) : Bool :=
  (splitAt cookieHeader ';').any fun cookie =>
    Gather.trimSpace cookie = "picket_session=" ++ passwordHash

def applicationCollections : List String :=
  ["systems", "system_stats", "containers", "container_stats", "system_details",
    "systemd_services", "alerts", "alerts_history", "notification_settings"]

def isBlockedPocketBaseAPI (path : String) : Bool :=
  if ["/api/settings", "/api/logs", "/api/backups", "/api/crons"].any
      fun start => path = start || hasPrefix path (start ++ "/") then true
  else if path = "/api/collections" then true
  else if !hasPrefix path "/api/collections/" then false
  else
    let name := (splitAt (trimPrefix path "/api/collections/") '/').headD ""
    name ∉ applicationCollections

/-! ### URLs -/

section Urls

variable (lib : NetLib)

def beforeComma (s : String) : String :=
  String.ofList (s.toList.takeWhile (· ≠ ','))

def lower (s : String) : String :=
  String.ofList (s.toList.map lib.toLower)

def requestBaseURL (e : Request) : String :=
  let scheme :=
    if e.xForwardedProto = "" then if e.tls then "https" else "http" else e.xForwardedProto
  let scheme := lower lib (Gather.trimSpace (beforeComma scheme))
  let scheme := if scheme = "wss" then "https" else if scheme = "ws" then "http" else scheme
  let host := if e.xForwardedHost = "" then e.host else e.xForwardedHost
  trimSuffix scheme "://" ++ "://" ++ host

def isLocalURL (rawURL : String) : Bool :=
  match lib.hostname rawURL with
  | none => false
  | some hostname =>
      let host := lower lib hostname
      if host = "localhost" then true else (lib.parseIP host).getD false

def setAppURL (h : HubSettings) (appURL : String) : HubSettings :=
  { h with appURL := trimSuffix appURL "/" }

def appURLForRequest (h : HubSettings) (e : Request) : String :=
  let appURL := trimSuffix h.appURL "/"
  if appURL ≠ "" ∧ isLocalURL lib appURL = false then appURL else requestBaseURL lib e

/-- The middleware: what the settings are after it, and how the request goes on. -/
def middleware (h : HubSettings) (e : Request) : HubSettings × HandledRequest :=
  let h :=
    if isLocalURL lib h.appURL then
      let h := setAppURL h (requestBaseURL lib e)
      { h with metaAppURL := if e.saved then h.appURL else h.metaAppURL }
    else h
  let handled :=
    if h.dashboardPasswordHash ≠ "" ∧ isPublicRequest e.path = false ∧
        hasDashboardSession e.cookie h.dashboardPasswordHash = false then
      .unauthorized
    else if e.path = "/_" ∨ hasPrefix e.path "/_/" ∨ isBlockedPocketBaseAPI e.path then .notFound
    else .next
  (h, handled)

/-! ### Runs -/

def handleAll (h : HubSettings) (es : List Request) : HubSettings :=
  es.foldl (fun h e => (middleware lib h e).1) h

/-- The URL that an installer or a launcher gets if it is made during a request. -/
def generatedURL (h : HubSettings) (e : Request) : String :=
  appURLForRequest lib (middleware lib h e).1 e

def authenticated (h : HubSettings) (es : List Request) : List Request :=
  es.filter fun e => hasDashboardSession e.cookie h.dashboardPasswordHash

/-- Requests without a valid session influence neither the URL nor what is generated later. -/
def UnauthenticatedIrrelevant (h : HubSettings) : Prop :=
  ∀ es es', authenticated h es = authenticated h es' →
    (handleAll lib h es).appURL = (handleAll lib h es').appURL ∧
      (handleAll lib h es).metaAppURL = (handleAll lib h es').metaAppURL ∧
      ∀ e, hasDashboardSession e.cookie h.dashboardPasswordHash = true →
        generatedURL lib (handleAll lib h es) e = generatedURL lib (handleAll lib h es') e

end Urls

end Picket
