import DeclarativeQuery.Plan.Request

/-!
A target that writes down the calls made on it instead of carrying them out. It has a strategy for
searches, so what it writes down holds none; loads, grouped raw expressions and scopes it accepts
only where it is told to.
-/

namespace DeclarativeQuery

structure Recorder where
  strategy : LikeStrategy := Dialect.other.likeStrategy
  inclusion : Bool := false
  scopes : List String := []
  acceptsLoads : Bool := false
  acceptsRawHaving : Bool := false
  acceptsScopes : Bool := false

namespace Recorder

def capabilities (recorder : Recorder) : Capabilities where
  inclusion := recorder.inclusion
  hasScope name := recorder.scopes.contains name

abbrev Record := List Call × Option Error

def accept (accepts : Bool) (call : Call) (error : Error) : Record :=
  if accepts then ([call], none) else ([], some error)

/-- A call with calls inside is written down once they all are, and not if one of them fails. -/
def enclose (inner : Record) (call : List Call → Call) : Record :=
  match inner with
  | (calls, none) => ([call calls], none)
  | (_, some error) => ([], some error)

def acceptHaving (recorder : Recorder) : Call → Record
  | call@(.rawHaving _ _ _) =>
      accept recorder.acceptsRawHaving call (.unsupportedCapability "raw having predicate")
  | call => ([call], none)

mutual

def record (recorder : Recorder) : Call → Record
  | .group connective calls => enclose (recordAll recorder calls) (.group connective)
  | .related relation connective calls =>
      enclose (recordAll recorder calls) (.related relation connective)
  | .search field pattern connective =>
      ([recorder.strategy.searchCall field pattern connective], none)
  | .searchHaving field pattern =>
      recorder.acceptHaving (recorder.strategy.searchHavingCall field pattern)
  | .rawHaving expression binding connective =>
      recorder.acceptHaving (.rawHaving expression binding connective)
  | .load loads => accept recorder.acceptsLoads (.load loads) Request.inclusionUnsupported
  | .scope name => accept recorder.acceptsScopes (.scope name) (.unknownScope name)
  | .report _ => ([], none)
  | call => ([call], none)
termination_by structural call => call

def recordAll (recorder : Recorder) : List Call → Record
  | [] => ([], none)
  | call :: rest =>
      match record recorder call with
      | (calls, some error) => (calls, some error)
      | (calls, none) =>
          let (others, error) := recordAll recorder rest
          (calls ++ others, error)
termination_by structural calls => calls

end

def recordRequest (recorder : Recorder) (request : Request) : Record :=
  match request.plan recorder.capabilities with
  | .ok calls => recorder.recordAll calls
  | .error rejection => ([], some rejection.error)

end Recorder

end DeclarativeQuery
