import MissionControl.Client.Filter
import MissionControl.Client.Proxy

/-!
# Choosing handlers

Given channels to hand over (or, with none, a request for a channel yet to be created), the
registry ranks the clients able to handle them.

Matches are scored by the registry's match function, `Client.matchFilters` unless the registry
was configured with another. A client's quality for a request alone is the match of the
request's properties against its handler filters, the request taken as requested. For channels, it is the sum of the matches of
every channel's properties (an unsigned 64-bit sum), or 0 as soon as one channel does not match.
The candidates are the handlers, in discovery order, of positive quality and, when a unique
name is given, owned by that name. Candidates that bypass approval come first; within each
group higher quality comes first; equal ones keep discovery order.

With no candidate, the request's preferred handler is the answer if it is registered, whatever
its roles or owner; otherwise there is no handler at all.
-/

namespace MissionControl

namespace Registry

/-- A channel request waiting for a handler. -/
structure Request where
  path : String
  props : Properties
  preferred : String
  deriving Inhabited

/-- An existing channel offered for handling. -/
structure Channel where
  path : String
  props : Properties
  deriving Inhabited

/-- How a client's filters score a channel's properties, the channel taken as requested or not;
0 means no match. -/
abbrev MatchFunc := Properties → List Properties → Bool → Nat

/-- The sum of the channels' matches, or 0 once one does not match. -/
def channelQuality (score : MatchFunc) (filters : List Properties) : List Channel → Nat → Nat
  | [], total => total
  | ch :: rest, total =>
    let q := score ch.props filters false
    if q == 0 then 0 else channelQuality score filters rest ((total + q) % Nat.pow 2 64)

/-- A client's quality for a request and channels. -/
def quality (score : MatchFunc) (filters : List Properties) (req : Option Request)
    (channels : List Channel) : Nat :=
  match channels, req with
  | [], none => 0
  | [], some r => score r.props filters true
  | chs, _ => channelQuality score filters chs 0

/-- A candidate handler: its name, whether it bypasses approval, and its quality. -/
structure Candidate where
  name : String
  bypass : Bool
  quality : Nat
  deriving Inhabited

/-- Whether `a` ranks strictly before `b`. -/
def Candidate.before (a b : Candidate) : Bool :=
  if a.bypass != b.bypass then a.bypass else a.quality > b.quality

/-- Candidates in rank order; equal candidates keep their order. -/
def rank (cs : List Candidate) : List Candidate :=
  cs.mergeSort fun a b => !(Candidate.before b a)

/-- The candidates among registered clients, in discovery order. -/
def candidates (score : MatchFunc) (clients : List Client.Proxy) (req : Option Request)
    (channels : List Channel) (unique : String) : List Candidate :=
  clients.filterMap fun p =>
    if !unique.isEmpty && p.uniqueName != unique then none
    else if !p.isHandler then none
    else
      let q := quality score ((p.handlerFilters.getD []).map (·.getD [])) req channels
      if q > 0 then some { name := p.name, bypass := p.bypassApproval, quality := q } else none

/-- The names of the possible handlers, most preferred first; `none` when there is no handler. -/
def possibleHandlers (score : MatchFunc) (clients : List Client.Proxy) (req : Option Request)
    (channels : List Channel) (unique : String) : Option (List String) :=
  match candidates score clients req channels unique with
  | [] =>
    match req with
    | some r =>
      if r.preferred.isEmpty then none
      else (clients.find? (·.name == r.preferred)).map fun p => [p.name]
    | none => none
  | cs => some ((rank cs).map (·.name))

end Registry

end MissionControl
