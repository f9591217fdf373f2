import MissionControl.Http.Target
import MissionControl.Http.Header
/-!
# Requests

A request reaches the endpoint as the text `METHOD TARGET HTTP/1.0`, an empty line after it (an
empty method reads as `GET`). Its first line is the request line; what follows is read as
header fields, so a target with line feeds in it brings fields of its own.

The request line must have two spaces: the method is what stands before the first, the target
what stands between them and the protocol version what follows. The method must be a token
and the version `HTTP/d.d`, so a target with a space in it leaves a version that does not read.
A `CONNECT` whose target does not start with `/` names only an authority.

Then the fields are read (see `readFields`): at most one `Host`, and a body that is framed one
way only.

* From version 1.1 on (and for version 0.0), a `Transfer-Encoding` must be a single field that
  says `chunked` in any letter case; the body is then chunked and any `Content-Length` is
  dropped. Before 1.1 the field is ignored.
* Several `Content-Length` fields must agree once trimmed; the length must be decimal digits
  below `2^63`, and not empty.
* A chunked body's `Trailer` may not announce the framing fields themselves.
-/

namespace MissionControl

namespace Http

/-- A request as the server reads it. -/
structure Request where
  method : String
  target : Target
  /-- The protocol version, major and minor. -/
  version : Nat × Nat
  fields : List Field
  deriving Inhabited

/-- The value of the first field filed under a name. -/
def Request.field? (r : Request) (name : String) : Option String :=
  (fieldValues r.fields name).head?

/-- The protocol version of a request line, when it reads as `HTTP/d.d`. -/
def parseVersion (v : String) : Option (Nat × Nat) :=
  match v.toList with
  | ['H', 'T', 'T', 'P', '/', a, '.', b] =>
    if a.isDigit && b.isDigit then some (a.toNat - 48, b.toNat - 48) else none
  | _ => none

/-- The method, the target and the version of a request line, or why the line does not read. -/
def readRequestLine (line : List Char) : Except String (String × String × (Nat × Nat)) :=
  let malformed := "malformed HTTP request " ++ Text.quote (String.ofList line)
  if !line.contains ' ' then .error malformed
  else
    let m := line.takeWhile (· != ' ')
    let rest := (line.dropWhile (· != ' ')).drop 1
    if !rest.contains ' ' then .error malformed
    else
      let uri := rest.takeWhile (· != ' ')
      let proto := String.ofList ((rest.dropWhile (· != ' ')).drop 1)
      if m.isEmpty || !m.all isTokenChar then .error ("invalid method " ++ Text.quote (String.ofList m))
      else match parseVersion proto with
        | none => .error ("malformed HTTP version " ++ Text.quote proto)
        | some v => .ok (String.ofList m, String.ofList uri, v)

/-- Whether a body is framed by the rules of version 1.1 or later; version 0.0 counts as 1.1. -/
def framedAsNew (v : Nat × Nat) : Bool :=
  let (major, minor) := if v == (0, 0) then (1, 1) else v
  major > 1 || (major == 1 && minor ≥ 1)

/-- Field values as a bracketed list of quoted texts. -/
def quoteAll (vs : List String) : String := "[" ++ " ".intercalate (vs.map Text.quote) ++ "]"

/-- A text without spaces, tabs, carriage returns and line feeds at its ends. -/
def trimSpace (s : String) : String :=
  let blank (c : Char) := c == ' ' || c == '\t' || c == '\r' || c == '\n'
  String.ofList ((s.toList.dropWhile blank).reverse.dropWhile blank).reverse

/-- Whether a length reads: decimal digits only, below `2^63`. -/
def validLength (cl : String) : Bool :=
  !cl.isEmpty && cl.all Char.isDigit &&
    cl.foldl (fun acc d => min (acc * 10 + (d.toNat - 48)) (Nat.pow 2 63)) 0 < Nat.pow 2 63

/-- The elements of a comma-separated field value, trimmed, the empty ones left out. -/
def listElements (v : String) : List String :=
  ((trimSpace v).splitOn ",").map trimSpace |>.filter (!·.isEmpty)

/-- Whether the body of a request is framed one way only; why not otherwise. -/
def checkFraming (version : Nat × Nat) (fields : List Field) : Except String Unit := do
  let encodings := fieldValues fields "Transfer-Encoding"
  let chunked ← if encodings.isEmpty || !framedAsNew version then pure false
    else match encodings with
      | [e] =>
        if String.ofList (e.toList.map Char.toLower) == "chunked" then pure true
        else throw ("unsupported transfer encoding: " ++ Text.quote e)
      | _ => throw ("too many transfer encodings: " ++ quoteAll encodings)
  let lengths := if chunked then [] else fieldValues fields "Content-Length"
  match lengths with
  | [] => pure ()
  | first :: more =>
    if more.any (trimSpace · != trimSpace first) then
      throw ("http: message cannot contain multiple Content-Length headers; got " ++ quoteAll lengths)
    let cl := trimSpace first
    if cl.isEmpty then throw ("invalid empty Content-Length " ++ Text.quote cl)
    if !validLength cl then throw ("bad Content-Length " ++ Text.quote cl)
  if chunked then
    let announced := (fieldValues fields "Trailer").flatMap listElements |>.map (canonicalName ·.toList)
    match announced.find? fun k => k == "Transfer-Encoding" || k == "Trailer" || k == "Content-Length" with
    | some k => throw ("bad trailer key " ++ Text.quote k)
    | none => pure ()

/-- A request as the server reads it from its method and target, or why it does not read. -/
def readRequest (method target : String) : Except String Request := do
  let method := if method.isEmpty then "GET" else method
  let lines := textLines (method ++ " " ++ target ++ " HTTP/1.0\r\n\r\n").toList
  let (first, rest) := match lines with
    | l :: r => (l, r)
    | [] => ([], [])
  let (m, uri, version) ← readRequestLine first
  let authorityOnly := m == "CONNECT" && !uri.startsWith "/"
  let t ← parseTarget (if authorityOnly then "http://" ++ uri else uri)
  let fields ← readFields rest
  if (fieldValues fields "Host").length > 1 then throw "too many Host headers"
  checkFraming version fields
  pure { method := m, target := if authorityOnly then { t with scheme := "" } else t, version, fields }

end Http

end MissionControl
