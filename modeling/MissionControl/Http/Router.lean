import MissionControl.Http.Request
/-!
# The observability endpoint

The endpoint answers two routes, both for GET only: `/metrics` with the metric families in the
text exposition format, and `/health` with `ok` once the service is ready (or when there is no
readiness test) and `starting` with status 503 before. Every other request is answered 404 with
a plain `404 page not found`, except a GET whose path is a route with one slash added: that is
redirected permanently to the route, with a small HTML body naming the new location (the query
kept). The root path is never redirected.

A request is read first (see `readRequest`); its target's decoded path is routed. A request
that does not read cannot be served at all.

The location of a redirect is the request's URL written back with a new path: the route, behind
the prefix that an `X-Forwarded-Prefix` field names. The prefix is cleaned as a path, then kept
to letters, digits, slashes and hyphens with no slash repeated, and joined to the request's path
by one more slash. A location without scheme and host is then made absolute against that new
path and cleaned again, keeping a final slash and the query.

Cleaning a path drops empty and `.` elements, and lets `..` remove the element before it; at
the root it removes nothing, and a relative path keeps the `..` it cannot resolve. An empty
result is `.`, or `/` for a rooted path.
-/

namespace MissionControl

namespace Http

/-- An answered request. -/
structure Response where
  status : Nat
  contentType : String
  body : String
  deriving Inhabited

/-- The routes of the endpoint. -/
inductive Route where
  | metrics
  | health
  deriving BEq

/-- The route a decoded path names. -/
def Route.ofPath? (path : String) : Option Route :=
  if path == "/metrics" then some .metrics else if path == "/health" then some .health else none

/-- The content type of the metric exposition. -/
def metricsType : String := "text/plain; version=0.0.4; charset=utf-8; escaping=values"

/-- The content type of plain answers. -/
def plainType : String := "text/plain; charset=utf-8"

/-- A text with the characters that are special in HTML escaped. -/
def htmlEscape (s : String) : String :=
  String.join (s.toList.map fun c =>
    if c == '&' then "&amp;" else if c == '<' then "&lt;" else if c == '>' then "&gt;"
    else if c == '"' then "&#34;" else if c == '\'' then "&#39;" else c.toString)

/-- The answer of a request for a route. -/
def Route.answer (r : Route) (ready : Option Bool) : Response :=
  match r with
  | .metrics => { status := 200, contentType := metricsType, body := "" }
  | .health =>
    if ready == some false then { status := 503, contentType := plainType, body := "starting\n" }
    else { status := 200, contentType := plainType, body := "ok\n" }

/-- A path cleaned: empty and `.` elements dropped, each `..` removing the element before it. -/
def cleanPath (s : String) : String :=
  if s.isEmpty then "."
  else
    let rooted := s.startsWith "/"
    let kept := (s.splitOn "/").foldl (fun (acc : List String) seg =>
      if seg.isEmpty || seg == "." then acc
      else if seg == ".." then
        match acc with
        | top :: rest => if top == ".." then ".." :: acc else rest
        | [] => if rooted then [] else [".."]
      else seg :: acc) []
    let body := "/".intercalate kept.reverse
    if rooted then "/" ++ body else if body.isEmpty then "." else body

/-- A forwarded prefix as it goes in front of a redirect's path: cleaned, kept to letters,
digits, slashes and hyphens, with runs of slashes made one; none for an empty prefix. -/
def forwardedPrefix (raw : String) : Option String :=
  let cleaned := cleanPath raw
  if cleaned == "." then none
  else
    let safe := cleaned.toList.filter fun c => (c.toNat < 128 && c.isAlphanum) || c == '/' || c == '-'
    let collapsed := safe.foldr (fun c acc =>
      if c == '/' && acc.head? == some '/' then acc else c :: acc) []
    some (String.ofList collapsed)

/-- The path a redirect names for a path with one slash too many, behind the forwarded prefix. -/
def redirectPath (pre : Option String) (path : String) : String :=
  let p := match pre with
    | some x => x ++ "/" ++ path
    | none => path
  if p.length > 1 && p.endsWith "/" then (p.dropEnd 1).toString else p ++ "/"

/-- Whether a location names neither scheme nor host, and its fragment's escapes read: it is
then made absolute and cleaned. -/
def hostless (url : String) : Bool :=
  let cs := url.toList
  let body := cs.takeWhile (· != '#')
  let fragment := (cs.dropWhile (· != '#')).drop 1
  let rec escapesRead : List Char → Bool
    | '%' :: x :: y :: rest => x.isHexDigit && y.isHexDigit && escapesRead rest
    | '%' :: _ => false
    | _ :: rest => escapesRead rest
    | [] => true
  let schemeChar (c : Char) := c.isAlphanum || c == '+' || c == '-' || c == '.'
  let hasScheme := match body.head? with
    | some c => c.isAlpha && (body.dropWhile schemeChar).head? == some ':'
    | none => false
  let beforeQuery := body.takeWhile (· != '?')
  let authority := (beforeQuery.drop 2).takeWhile (· != '/')
  let hasHost := beforeQuery.take 2 == ['/', '/'] && beforeQuery.take 3 != ['/', '/', '/'] &&
    !authority.isEmpty
  escapesRead fragment && body.head? != some ':' && !hasScheme && !hasHost

/-- Where a redirect sends the client: a location without scheme and host is made absolute
against the request's path (as changed for the redirect) and cleaned, keeping a final slash and
the query. -/
def redirectLocation (url requestPath : String) : String :=
  if !hostless url then url
  else
    let base := if requestPath.isEmpty then "/" else requestPath
    let dir := String.ofList ((base.toList.reverse.dropWhile (· != '/')).reverse)
    let url := if url.startsWith "/" then url else dir ++ url
    let cs := url.toList
    let pathPart := String.ofList (cs.takeWhile (· != '?'))
    let query := String.ofList (cs.dropWhile (· != '?'))
    let cleaned := cleanPath pathPart
    let cleaned := if pathPart.endsWith "/" && !cleaned.endsWith "/" then cleaned ++ "/" else cleaned
    cleaned ++ query

/-- The answer to a request: a method, a target and the readiness test's answer (`none` for no
test); or why the request cannot be made. -/
def serve (method target : String) (ready : Option Bool) : Except String Response := do
  let req ← (readRequest method target).mapError ("invalid NewRequest arguments; " ++ ·)
  let notFound : Response := { status := 404, contentType := "text/plain", body := "404 page not found" }
  let path := Text.lossy req.target.path
  if req.method != "GET" then return notFound
  match Route.ofPath? path with
  | some r => return r.answer ready
  | none =>
    if path != "/" && path.endsWith "/" && (Route.ofPath? (path.dropEnd 1).toString).isSome then
      let newPath := redirectPath (forwardedPrefix ((req.field? "X-Forwarded-Prefix").getD "")) path
      let url := redirectLocation (req.target.render newPath) newPath
      return { status := 301, contentType := "text/html; charset=utf-8",
               body := "<a href=\"" ++ htmlEscape url ++ "\">Moved Permanently</a>.\n\n" }
    else return notFound

end Http

end MissionControl
