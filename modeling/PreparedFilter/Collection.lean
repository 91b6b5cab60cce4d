import PreparedFilter.Codec

/-!
# Collections

The requests to a server that take a filter. The filter is encoded first; a fault there is passed on
with the name of the request in front of it, and nothing is sent. What the server makes of the query
document is its own affair: a refusal becomes a fault that names the request and shows the filter.

What it replies depends on the request. Found documents are handed on as they are, by a cursor of
any type. A number of documents must be natural. A reply to a deletion may tell that a write was
refused, and is then no better than a refusal of the request
(`CollectionRequest.send_deleteMatching`).
-/

namespace PreparedFilter

/-- A request that takes a filter. -/
inductive CollectionRequest where
  | findMatching
  | countMatching
  | deleteMatching
  deriving DecidableEq

namespace CollectionRequest

/-- The name of a request in messages. -/
def text : CollectionRequest → String
  | findMatching => "find_matching"
  | countMatching => "count_matching"
  | deleteMatching => "delete_matching"

/-- The query document of a request. -/
def queryDocument (request : CollectionRequest) (codec : FilterCodec) (planner : Planner)
    (filter : Filter) : Planner × Except Failure Document :=
  let (planner, encoded) := codec.encode planner filter
  let message := "can't encode filter for " ++ codec.schema.name ++ "::" ++ request.text
  (planner, encoded.mapError (Failure.mapFault fun fault => fault.chain message))

end CollectionRequest

/-! ## Replies -/

/-- What a server replies to a deletion. -/
structure Deletion where
  /-- How many documents were deleted. -/
  count : Int32
  /-- The failure of a write, if the server refused one. -/
  refusal : Option Origin
  deriving DecidableEq

namespace CollectionRequest

/-- What a server replies to a request. -/
def Reply (cursor : Type) : CollectionRequest → Type
  | findMatching => cursor
  | countMatching => Int64
  | deleteMatching => Deletion

/-- What the caller of a request gets. -/
def Outcome (cursor : Type) : CollectionRequest → Type
  | findMatching => cursor
  | countMatching => Nat
  | deleteMatching => Nat

/-- What the caller gets out of a reply. The message is for a reply that tells of a refusal. -/
def receive {cursor : Type} (message : String) : (request : CollectionRequest) →
    request.Reply cursor → Except Fault (request.Outcome cursor)
  | findMatching, found => .ok found
  | countMatching, count =>
    (naturalCount "# of counted documents" (Int64.toInt count)).mapError Fault.ofDefect
  | deleteMatching, { count, refusal } =>
    match refusal with
    | some origin => .error (.ofOrigin message origin)
    | none => (naturalCount "# of deleted documents" count.toInt).mapError Fault.ofDefect

/-- Sends a request to a server. `shown` is the text that shows the filter. -/
def send {cursor : Type} (request : CollectionRequest)
    (server : Document → Except Origin (request.Reply cursor)) (codec : FilterCodec)
    (planner : Planner) (filter : Filter) (shown : String) :
    Planner × Except Failure (request.Outcome cursor) :=
  match request.queryDocument codec planner filter with
  | (planner, .error failure) => (planner, .error failure)
  | (planner, .ok document) =>
    let message := "error in " ++ codec.schema.name ++ "::" ++ request.text ++ "(" ++ shown ++ ")"
    let outcome := (server document).mapError (Fault.ofOrigin message) >>= request.receive message
    (planner, Failure.lift outcome)

/-- A write that the server refused fails a deletion just as if the server had refused the request,
however many documents are said to be deleted. -/
theorem send_deleteMatching {cursor : Type}
    (server : Document → Except Origin (deleteMatching.Reply cursor)) (codec : FilterCodec)
    (planner : Planner) (filter : Filter) (shown : String) :
    let strict (document : Document) : Except Origin (deleteMatching.Reply cursor) := do
      let deletion : Deletion ← server document
      match deletion.refusal with
      | some origin => .error origin
      | none => .ok deletion
    deleteMatching.send server codec planner filter shown =
      deleteMatching.send strict codec planner filter shown := by
  intro strict
  unfold send
  generalize deleteMatching.queryDocument codec planner filter = query
  obtain ⟨planner', failure | document⟩ := query
  · rfl
  · refine congrArg (fun outcome => (planner', Failure.lift outcome)) ?_
    show (server document).mapError _ >>= _ = (server document >>= _).mapError _ >>= _
    cases server document with
    | error origin => rfl
    | ok deletion =>
      -- a reply without a refusal is handed on as it is
      obtain ⟨count, refusal⟩ := deletion
      cases refusal <;> rfl

end CollectionRequest

end PreparedFilter
