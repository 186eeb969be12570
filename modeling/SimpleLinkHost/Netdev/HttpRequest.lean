import Mathlib.Data.List.Nodup
import SimpleLinkHost.Core.BlockHeap

/-!
# The requests of an HTTP client

The driver answers a request at once, with "pending" or with an error, and copies it for the
thread of the network device.  The copy takes up to three blocks, which the thread frees by
the lengths in it.
-/

namespace SimpleLinkHost.HttpRequest

open BlockHeap

section Types

/-- The types of a request as `SL_NETAPP_REQUEST_HTTP_…`, and all others. -/
inductive NetAppRequestType
  | httpGet
  | httpDelete
  | httpPost
  | httpPut
  | other (code : ℕ)
deriving DecidableEq

/-- `SlNetAppData_t` -/
structure NetAppData where
  flags : BitVec 32
  pMetadata : Option ℕ
  metadataLen : ℕ
  pPayload : Option ℕ
  payloadLen : ℕ
deriving DecidableEq

def NetAppData.setPMetadata (pointer : Option ℕ) (data : NetAppData) : NetAppData :=
  { data with pMetadata := pointer }

def NetAppData.setMetadataLen (length : ℕ) (data : NetAppData) : NetAppData :=
  { data with metadataLen := length }

def NetAppData.setPPayload (pointer : Option ℕ) (data : NetAppData) : NetAppData :=
  { data with pPayload := pointer }

def NetAppData.setPayloadLen (length : ℕ) (data : NetAppData) : NetAppData :=
  { data with payloadLen := length }

/-- `SlNetAppRequest_t` -/
structure NetAppRequest where
  appId : BitVec 8
  type : NetAppRequestType
  handle : BitVec 16
  requestData : NetAppData
deriving DecidableEq

inductive Block
  | request (request : NetAppRequest)
  | bytes (bytes : List (BitVec 8))
deriving DecidableEq

inductive ResponseStatus
  | pending
  | internalServerError
deriving DecidableEq

/-- `SlNetAppResponse_t` -/
structure NetAppResponse where
  status : ResponseStatus
  responseData : NetAppData
deriving DecidableEq

/-- The request as the host driver hands it over, with what its pointers point to. -/
structure Incoming where
  appId : BitVec 8
  type : NetAppRequestType
  handle : BitVec 16
  flags : BitVec 32
  metadata : List (BitVec 8)
  payload : List (BitVec 8)

/-- Which allocations succeed, what the block of the request holds then, and what becomes of
the message.  `mq_send` is given a length of 1, so what `mq_receive` finds in the queue need
not be the pointer that was sent. -/
structure Outcomes where
  request : Bool
  metadata : Bool
  payload : Bool
  stale : NetAppRequest
  queued : Option ℕ

end Types

section Handler

def noData : NetAppData := ⟨0, none, 0, none, 0⟩

def pendingResponse : NetAppResponse := ⟨.pending, noData⟩

/-- `NetAppRequestErrorResponse` -/
def netAppRequestErrorResponse : NetAppResponse := ⟨.internalServerError, noData⟩

def isHttp : NetAppRequestType → Bool
  | .other _ => false
  | _ => true

/-- A store to the request in a block. -/
def setRequest (p : ℕ) (change : NetAppRequest → NetAppRequest) (heap : Heap Block) : Heap Block :=
  heap.modify p fun
    | .request request => .request (change request)
    | .bytes bytes => .bytes bytes

/-- The fields that are copied as they are. -/
def copyHead (incoming : Incoming) (request : NetAppRequest) : NetAppRequest :=
  { request with
    appId := incoming.appId
    type := incoming.type
    handle := incoming.handle
    requestData := { request.requestData with flags := incoming.flags } }

/-- The copy of the metadata or of the payload to a block of its own; `false` where the
allocation fails. -/
def copyField (setPointer : Option ℕ → NetAppData → NetAppData)
    (setLen : ℕ → NetAppData → NetAppData) (succeeds : Bool) (bytes : List (BitVec 8)) (p : ℕ)
    (heap : Heap Block) : Bool × Heap Block :=
  let store (change : NetAppData → NetAppData) : Heap Block → Heap Block :=
    setRequest p fun request => { request with requestData := change request.requestData }
  if 0 < bytes.length then
    let (pointer, heap) := heap.malloc succeeds (.bytes [])
    let heap := store (setPointer pointer) heap
    match pointer with
    | none => (false, heap)
    | some q => (true, store (setLen bytes.length) (heap.modify q fun _ => .bytes bytes))
  else (true, store (setLen 0) heap)

def copyMetadata : Bool → List (BitVec 8) → ℕ → Heap Block → Bool × Heap Block :=
  copyField NetAppData.setPMetadata NetAppData.setMetadataLen

def copyPayload : Bool → List (BitVec 8) → ℕ → Heap Block → Bool × Heap Block :=
  copyField NetAppData.setPPayload NetAppData.setPayloadLen

/-- The answer to a request, the heap behind it, and what the queue has for the thread. -/
structure Handled where
  response : NetAppResponse
  heap : Heap Block
  queued : Option ℕ

/-- `SimpleLinkNetAppRequestEventHandler` -/
def simpleLinkNetAppRequestEventHandler (outcomes : Outcomes) (incoming : Incoming)
    (heap : Heap Block) : Handled :=
  if isHttp incoming.type then
    match heap.malloc outcomes.request (.request outcomes.stale) with
    | (none, heap) => ⟨netAppRequestErrorResponse, heap, none⟩
    | (some netAppRequest, heap) =>
        let heap := setRequest netAppRequest (copyHead incoming) heap
        match copyMetadata outcomes.metadata incoming.metadata netAppRequest heap with
        | (false, heap) => ⟨netAppRequestErrorResponse, heap, none⟩
        | (true, heap) =>
            match copyPayload outcomes.payload incoming.payload netAppRequest heap with
            | (false, heap) => ⟨netAppRequestErrorResponse, heap, none⟩
            | (true, heap) => ⟨pendingResponse, heap, outcomes.queued⟩
  else ⟨netAppRequestErrorResponse, heap, none⟩

/-- `http_get_handler` and `http_post_handler` of the application -/
structure HttpHandlers where
  get : ℕ → Heap Block → Heap Block
  post : ℕ → Heap Block → Heap Block

variable (http : HttpHandlers)

/-- A request that is read where there is none has no result. -/
def request? (p : ℕ) (heap : Heap Block) : Option NetAppRequest :=
  match heap.block p with
  | some (.request request) => some request
  | _ => none

/-- `netdev_wlan_cc3220sf_sm_http_message`, with the pointers that it frees -/
def smHttpMessage (received : Option ℕ) (heap : Heap Block) :
    Option (List (Option ℕ) × Heap Block) :=
  match received with
  | none => some ([], heap)
  | some netAppRequest => do
      let request ← request? netAppRequest heap
      let heap :=
        match request.type with
        | .httpGet | .httpDelete => http.get netAppRequest heap
        | .httpPost | .httpPut => http.post netAppRequest heap
        | .other _ => heap
      let request ← request? netAppRequest heap
      let metadata :=
        if 0 < request.requestData.metadataLen then [request.requestData.pMetadata] else []
      let heap ← heap.freeAll? metadata
      let request ← request? netAppRequest heap
      let payload :=
        if 0 < request.requestData.payloadLen then [request.requestData.pPayload] else []
      let heap ← heap.freeAll? payload
      let heap ← heap.free? (some netAppRequest)
      return (metadata ++ payload ++ [some netAppRequest], heap)

end Handler

section Property

/-- The request in a block is a copy of the one that came, with its metadata and payload. -/
structure Copies (heap : Heap Block) (incoming : Incoming) (p : ℕ) (request : NetAppRequest) :
    Prop where
  block : heap.block p = some (.request request)
  appId : request.appId = incoming.appId
  type : request.type = incoming.type
  handle : request.handle = incoming.handle
  flags : request.requestData.flags = incoming.flags
  metadataLen : request.requestData.metadataLen = incoming.metadata.length
  payloadLen : request.requestData.payloadLen = incoming.payload.length
  metadata : 0 < incoming.metadata.length → ∃ q,
    request.requestData.pMetadata = some q ∧ heap.block q = some (.bytes incoming.metadata)
  payload : 0 < incoming.payload.length → ∃ q,
    request.requestData.pPayload = some q ∧ heap.block q = some (.bytes incoming.payload)

/-- Whatever happens to the other blocks, the thread frees the blocks that the copy has taken,
each once. -/
def FreesTaken (http : HttpHandlers) (before : Heap Block) (handled : Handled) : Prop :=
  ∀ later : Heap Block,
    (∀ p ∈ before.since handled.heap, later.block p = handled.heap.block p) →
      ∃ frees final, smHttpMessage http handled.queued later = some (frees, final) ∧
        frees.Perm ((before.since handled.heap).map some)

/-- A request is queued and answered with "pending", or answered with an error that leaves no
block of its copy. -/
def Handles (http : HttpHandlers) (before : Heap Block) (incoming : Incoming)
    (handled : Handled) : Prop :=
  (handled.response = pendingResponse ∧
    (∃ p request, handled.queued = some p ∧ Copies handled.heap incoming p request) ∧
      FreesTaken http before handled) ∨
    (handled.response = netAppRequestErrorResponse ∧
      ∀ p ∈ before.since handled.heap, handled.heap.block p = none)

/-- Nothing fails but the first allocation, and the thread finds the pointer that was sent. -/
def GoesThrough (outcomes : Outcomes) (incoming : Incoming) (before : Heap Block) : Prop :=
  isHttp incoming.type = true → outcomes.request = true →
    (0 < incoming.metadata.length → outcomes.metadata = true) ∧
      (0 < incoming.payload.length → outcomes.payload = true) ∧
        outcomes.queued = some before.given

/-- A handler of the application frees no block that it is not given, and leaves the data of
the request in place. -/
structure Preserves (handler : ℕ → Heap Block → Heap Block) : Prop where
  requestData : ∀ p heap request, request? p heap = some request → ∃ handled,
    request? p (handler p heap) = some handled ∧ handled.requestData = request.requestData
  live : ∀ p heap q, (heap.block q).isSome → ((handler p heap).block q).isSome

end Property

section Copy

variable {heap before : Heap Block} {request : NetAppRequest} {p : ℕ}
variable (setPointer : Option ℕ → NetAppData → NetAppData) (setLen : ℕ → NetAppData → NetAppData)
variable {succeeds : Bool} {bytes : List (BitVec 8)}

theorem request?_eq_some : request? p heap = some request ↔
    heap.block p = some (.request request) := by
  rw [request?]
  split
  · rename_i found hfound
    simp [hfound]
  · rename_i hnone
    simpa using hnone request

/-- The blocks that the copy of a field takes. -/
def blocksFor (bytes : List (BitVec 8)) : ℕ := if 0 < bytes.length then 1 else 0

/-- The data of the request behind the copy of a field. -/
def withField (setPointer : Option ℕ → NetAppData → NetAppData)
    (setLen : ℕ → NetAppData → NetAppData) (bytes : List (BitVec 8)) (given : ℕ)
    (data : NetAppData) : NetAppData :=
  if 0 < bytes.length then setLen bytes.length (setPointer (some given) data) else setLen 0 data

theorem setRequest_block_self {change : NetAppRequest → NetAppRequest}
    (hp : heap.block p = some (.request request)) :
    (setRequest p change heap).block p = some (.request (change request)) :=
  Heap.modify_block_self hp

theorem setRequest_block_of_ne {change : NetAppRequest → NetAppRequest} {q : ℕ} (hq : q ≠ p) :
    (setRequest p change heap).block q = heap.block q :=
  Heap.modify_block_of_ne hq

/-- What the copy of a field leaves: its bytes in a block of their own, the pointer and the
length in the request, and the other blocks as they were. -/
structure FieldCopied (setPointer : Option ℕ → NetAppData → NetAppData)
    (setLen : ℕ → NetAppData → NetAppData) (bytes : List (BitVec 8)) (p : ℕ)
    (request : NetAppRequest) (before after : Heap Block) : Prop where
  given : after.given = before.given + blocksFor bytes
  request : after.block p = some (.request
    { request with
      requestData := withField setPointer setLen bytes before.given request.requestData })
  bytes : 0 < bytes.length → after.block before.given = some (.bytes bytes)
  others : ∀ q, q ≠ p → q < before.given → after.block q = before.block q

theorem copyField_succeeds (hp : heap.block p = some (.request request))
    (hsucceeds : 0 < bytes.length → succeeds = true) :
    ∃ after, copyField setPointer setLen succeeds bytes p heap = (true, after) ∧
      FieldCopied setPointer setLen bytes p request heap after := by
  have hlt := Heap.lt_given_of_live hp
  by_cases hlength : 0 < bytes.length
  · rw [hsucceeds hlength, copyField, if_pos hlength]
    refine ⟨_, rfl, ⟨?_, ?_, ?_, ?_⟩⟩
    · rw [blocksFor, if_pos hlength]
      rfl
    · have hcopied : ((setRequest p (fun request =>
          { request with requestData := setPointer (some heap.given) request.requestData })
            (heap.alloc (.bytes []))).modify heap.given fun _ => .bytes bytes).block p =
          some (.request { request with
            requestData := setPointer (some heap.given) request.requestData }) := by
        rw [Heap.modify_block_of_ne (Nat.ne_of_lt hlt)]
        apply setRequest_block_self
        rw [Heap.alloc_block_of_ne (Nat.ne_of_lt hlt), hp]
      rw [withField, if_pos hlength]
      exact setRequest_block_self hcopied
    · intro _
      rw [setRequest_block_of_ne (Nat.ne_of_gt hlt)]
      apply Heap.modify_block_self
      rw [setRequest_block_of_ne (Nat.ne_of_gt hlt)]
      exact Heap.alloc_block_given _ _
    · intro q hq hold
      rw [setRequest_block_of_ne hq, Heap.modify_block_of_ne (Nat.ne_of_lt hold),
        setRequest_block_of_ne hq, Heap.alloc_block_of_ne (Nat.ne_of_lt hold)]
  · rw [copyField, if_neg hlength]
    refine ⟨_, rfl, ⟨?_, ?_, ?_, ?_⟩⟩
    · rw [blocksFor, if_neg hlength]
      rfl
    · rw [withField, if_neg hlength]
      exact setRequest_block_self hp
    · exact fun hpos => absurd hpos hlength
    · exact fun q hq _ => setRequest_block_of_ne hq

/-- A copy that fails leaves the request behind. -/
theorem copyField_fails (hp : heap.block p = some (.request request))
    (hlength : 0 < bytes.length) :
    ∃ after, copyField setPointer setLen false bytes p heap = (false, after) ∧
      after.given = heap.given ∧ (after.block p).isSome := by
  rw [copyField, if_pos hlength]
  refine ⟨_, rfl, rfl, ?_⟩
  rw [setRequest_block_self hp]
  rfl

end Copy

section Thread

variable {http : HttpHandlers} {heap final : Heap Block} {request : NetAppRequest} {p : ℕ}

/-- The pointers that the thread frees for a request. -/
def owned (request : NetAppRequest) (p : ℕ) : List (Option ℕ) :=
  (if 0 < request.requestData.metadataLen then [request.requestData.pMetadata] else []) ++
    (if 0 < request.requestData.payloadLen then [request.requestData.pPayload] else []) ++ [some p]

theorem owned_of_requestData {other : NetAppRequest}
    (hsame : other.requestData = request.requestData) : owned other p = owned request p := by
  rw [owned, hsame]
  rfl

/-- The request as the handler of its type leaves it. -/
theorem exists_handled (hget : Preserves http.get) (hpost : Preserves http.post)
    (hrequest : request? p heap = some request) :
    ∃ handled, (match request.type with
      | .httpGet | .httpDelete => http.get p heap
      | .httpPost | .httpPut => http.post p heap
      | .other _ => heap) = handled ∧ (∃ other, request? p handled = some other ∧
        other.requestData = request.requestData) ∧
          ∀ q, (heap.block q).isSome → (handled.block q).isSome := by
  refine ⟨_, rfl, ?_⟩
  cases request.type with
  | httpGet | httpDelete => exact ⟨hget.requestData p heap request hrequest, hget.live p heap⟩
  | httpPost | httpPut => exact ⟨hpost.requestData p heap request hrequest, hpost.live p heap⟩
  | other code => exact ⟨⟨request, hrequest, rfl⟩, fun _ hlive => hlive⟩

/-- The thread frees what a request owns. -/
theorem smHttpMessage_owned (hget : Preserves http.get) (hpost : Preserves http.post)
    (hrequest : request? p heap = some request) (hnodup : (owned request p).Nodup)
    (hlive : ∀ pointer ∈ owned request p, ∃ q, pointer = some q ∧ (heap.block q).isSome) :
    ∃ final, smHttpMessage http (some p) heap = some (owned request p, final) := by
  obtain ⟨handled, hhandled, ⟨other, hother, hdata⟩, hkept⟩ :=
    exists_handled hget hpost hrequest
  rw [← owned_of_requestData hdata] at hnodup hlive ⊢
  have hlive' : ∀ pointer ∈ owned other p,
      ∃ q, pointer = some q ∧ (handled.block q).isSome := by
    intro pointer hpointer
    obtain ⟨q, hq, hblock⟩ := hlive pointer hpointer
    exact ⟨q, hq, hkept q hblock⟩
  rw [owned] at hnodup hlive'
  obtain ⟨hfields, -, hown⟩ := List.nodup_append.mp hnodup
  obtain ⟨hmetadata, hpayload, hapart⟩ := List.nodup_append.mp hfields
  obtain ⟨freed, hfreed, hkept'⟩ := Heap.freeAll?_of_live hmetadata fun pointer hpointer =>
    hlive' pointer (List.mem_append_left _ (List.mem_append_left _ hpointer))
  have hother' : request? p freed = some other := by
    rw [request?_eq_some, hkept' p fun hmem => hown _ (List.mem_append_left _ hmem) _
      List.mem_cons_self rfl]
    exact request?_eq_some.mp hother
  have hlive'' : ∀ pointer ∈ (if 0 < other.requestData.payloadLen then
      [other.requestData.pPayload] else []), ∃ q, pointer = some q ∧ (freed.block q).isSome := by
    intro pointer hpointer
    obtain ⟨q, rfl, hq⟩ :=
      hlive' pointer (List.mem_append_left _ (List.mem_append_right _ hpointer))
    refine ⟨q, rfl, ?_⟩
    rw [hkept' q fun hmem => hapart _ hmem _ hpointer rfl]
    exact hq
  obtain ⟨last, hlast, hkept''⟩ := Heap.freeAll?_of_live hpayload hlive''
  have hblock : (last.block p).isSome := by
    rw [hkept'' p fun hmem => hown _ (List.mem_append_right _ hmem) _ List.mem_cons_self rfl,
      request?_eq_some.mp hother']
    rfl
  refine ⟨last.remove p, ?_⟩
  simp only [smHttpMessage, hrequest, Option.bind_eq_bind, Option.bind_some, hhandled, hother,
    hfreed, hother', hlast, Heap.free?_of_live hblock, owned]
  rfl

/-- A call of the thread that comes to its end has freed the request. -/
theorem mem_frees_of_smHttpMessage {frees : List (Option ℕ)}
    (hends : smHttpMessage http (some p) heap = some (frees, final)) : some p ∈ frees := by
  simp only [smHttpMessage, Option.bind_eq_bind, Option.bind_eq_some_iff, Option.pure_def,
    Option.some.injEq, Prod.mk.injEq] at hends
  obtain ⟨-, -, -, -, -, -, -, -, -, -, -, -, rfl, -⟩ := hends
  exact List.mem_append_right _ List.mem_cons_self

end Thread

section Requests

variable {http : HttpHandlers} {outcomes : Outcomes} {incoming : Incoming}
variable {before after : Heap Block} {request : NetAppRequest} {handled : Handled}

/-- A finished copy: the request owns the blocks that were taken, and all but its own hold
bytes. -/
structure Built (before after : Heap Block) (incoming : Incoming) (request : NetAppRequest) :
    Prop where
  copies : Copies after incoming before.given request
  owned : (owned request before.given).Perm ((before.since after).map some)
  others : ∀ q ∈ before.since after, q ≠ before.given →
    ∃ bytes, after.block q = some (.bytes bytes)

def withMetadata : List (BitVec 8) → ℕ → NetAppData → NetAppData :=
  withField NetAppData.setPMetadata NetAppData.setMetadataLen

def withPayload : List (BitVec 8) → ℕ → NetAppData → NetAppData :=
  withField NetAppData.setPPayload NetAppData.setPayloadLen

/-- The request behind the copies of its fields. -/
def copied (incoming : Incoming) (stale : NetAppRequest) (given : ℕ) : NetAppRequest :=
  let head := copyHead incoming stale
  { head with
    requestData :=
      withPayload incoming.payload (given + 1 + blocksFor incoming.metadata)
        (withMetadata incoming.metadata (given + 1) head.requestData) }

theorem withPayload_metadata (bytes : List (BitVec 8)) (given : ℕ) (data : NetAppData) :
    (withPayload bytes given data).metadataLen = data.metadataLen ∧
      (withPayload bytes given data).pMetadata = data.pMetadata ∧
        (withPayload bytes given data).flags = data.flags := by
  rw [withPayload, withField]
  split
  · exact ⟨rfl, rfl, rfl⟩
  · exact ⟨rfl, rfl, rfl⟩

theorem copied_metadataLen (stale : NetAppRequest) (given : ℕ) :
    (copied incoming stale given).requestData.metadataLen = incoming.metadata.length := by
  rw [copied, (withPayload_metadata _ _ _).1, withMetadata, withField]
  split
  · rfl
  · rename_i hnone
    exact (Nat.eq_zero_of_not_pos hnone).symm

theorem copied_payloadLen (stale : NetAppRequest) (given : ℕ) :
    (copied incoming stale given).requestData.payloadLen = incoming.payload.length := by
  rw [copied, withPayload, withField]
  split
  · rfl
  · rename_i hnone
    exact (Nat.eq_zero_of_not_pos hnone).symm

theorem copied_pMetadata (stale : NetAppRequest) (given : ℕ)
    (hlength : 0 < incoming.metadata.length) :
    (copied incoming stale given).requestData.pMetadata = some (given + 1) := by
  rw [copied, (withPayload_metadata _ _ _).2.1, withMetadata, withField, if_pos hlength]
  rfl

theorem copied_pPayload (stale : NetAppRequest) (given : ℕ)
    (hlength : 0 < incoming.payload.length) :
    (copied incoming stale given).requestData.pPayload =
      some (given + 1 + blocksFor incoming.metadata) := by
  rw [copied, withPayload, withField, if_pos hlength]
  rfl

theorem copied_flags (stale : NetAppRequest) (given : ℕ) :
    (copied incoming stale given).requestData.flags = incoming.flags := by
  rw [copied, (withPayload_metadata _ _ _).2.2, withMetadata, withField]
  split
  · rfl
  · rfl

/-- The blocks of the copy, in the order of the frees. -/
theorem owned_copied (stale : NetAppRequest) (given : ℕ) :
    (owned (copied incoming stale given) given).Perm
      ((List.range' given (1 + blocksFor incoming.metadata + blocksFor incoming.payload)).map
        some) := by
  rw [owned, copied_metadataLen, copied_payloadLen]
  apply List.perm_append_comm.trans
  by_cases hmetadata : 0 < incoming.metadata.length
  · by_cases hpayload : 0 < incoming.payload.length
    · simp [blocksFor, hmetadata, hpayload, copied_pMetadata, copied_pPayload, List.range']
    · simp [blocksFor, hmetadata, hpayload, copied_pMetadata, List.range']
  · by_cases hpayload : 0 < incoming.payload.length
    · simp [blocksFor, hmetadata, hpayload, copied_pPayload, List.range']
    · simp [blocksFor, hmetadata, hpayload]

/-- The heap with the fields of the request that are copied as they are. -/
def started (incoming : Incoming) (stale : NetAppRequest) (before : Heap Block) : Heap Block :=
  setRequest before.given (copyHead incoming) (before.alloc (.request stale))

theorem started_block (incoming : Incoming) (stale : NetAppRequest) (before : Heap Block) :
    (started incoming stale before).block before.given =
      some (.request (copyHead incoming stale)) :=
  setRequest_block_self (Heap.alloc_block_given _ _)

/-- The copy of the metadata and the copy of the payload behind it make a finished copy. -/
theorem built_of_fieldCopied {middle : Heap Block} {stale : NetAppRequest}
    (hmiddle : FieldCopied NetAppData.setPMetadata NetAppData.setMetadataLen incoming.metadata
      before.given (copyHead incoming stale) (started incoming stale before) middle)
    (hafter : FieldCopied NetAppData.setPPayload NetAppData.setPayloadLen incoming.payload
      before.given
      { copyHead incoming stale with
        requestData :=
          withMetadata incoming.metadata (before.given + 1) (copyHead incoming stale).requestData }
      middle after) :
    Built before after incoming (copied incoming stale before.given) := by
  have hgiven' : middle.given = before.given + 1 + blocksFor incoming.metadata := hmiddle.given
  have hgiven : after.given =
      before.given + 1 + blocksFor incoming.metadata + blocksFor incoming.payload := by
    rw [hafter.given, hgiven']
  have hblock := hafter.request
  rw [hgiven'] at hblock
  have hbytes (hlength : 0 < incoming.metadata.length) :
      after.block (before.given + 1) = some (.bytes incoming.metadata) := by
    have htaken : blocksFor incoming.metadata = 1 := if_pos hlength
    rw [hafter.others _ (by omega) (by omega)]
    exact hmiddle.bytes hlength
  have hbytes' (hlength : 0 < incoming.payload.length) :
      after.block (before.given + 1 + blocksFor incoming.metadata) =
        some (.bytes incoming.payload) := by
    rw [← hgiven']
    exact hafter.bytes hlength
  constructor
  · exact
      { block := hblock
        appId := rfl
        type := rfl
        handle := rfl
        flags := copied_flags _ _
        metadataLen := copied_metadataLen _ _
        payloadLen := copied_payloadLen _ _
        metadata := fun hlength => ⟨_, copied_pMetadata _ _ hlength, hbytes hlength⟩
        payload := fun hlength => ⟨_, copied_pPayload _ _ hlength, hbytes' hlength⟩ }
  · have hsince : before.since after = List.range' before.given
        (1 + blocksFor incoming.metadata + blocksFor incoming.payload) := by
      calc before.since after = List.range' before.given (after.given - before.given) := rfl
        _ = List.range' before.given
              (1 + blocksFor incoming.metadata + blocksFor incoming.payload) := by
            congr 1
            omega
    rw [hsince]
    exact owned_copied _ _
  · intro q hq hother
    rw [Heap.mem_since_iff, hgiven] at hq
    by_cases hmiddle : q < before.given + 1 + blocksFor incoming.metadata
    · have hlength : 0 < incoming.metadata.length := by
        by_contra hnone
        rw [blocksFor, if_neg hnone] at hmiddle
        omega
      have htaken : blocksFor incoming.metadata = 1 := if_pos hlength
      have hsame : q = before.given + 1 := by omega
      exact ⟨_, hsame ▸ hbytes hlength⟩
    · have hlength : 0 < incoming.payload.length := by
        by_contra hnone
        have htaken : blocksFor incoming.payload = 0 := if_neg hnone
        omega
      have htaken : blocksFor incoming.payload = 1 := if_pos hlength
      have hsame : q = before.given + 1 + blocksFor incoming.metadata := by omega
      exact ⟨_, hsame ▸ hbytes' hlength⟩

theorem handler_builds (hhttp : isHttp incoming.type = true) (hrequest : outcomes.request = true)
    (hmetadata : 0 < incoming.metadata.length → outcomes.metadata = true)
    (hpayload : 0 < incoming.payload.length → outcomes.payload = true) :
    ∃ after, simpleLinkNetAppRequestEventHandler outcomes incoming before =
        ⟨pendingResponse, after, outcomes.queued⟩ ∧
      Built before after incoming (copied incoming outcomes.stale before.given) := by
  obtain ⟨middle, hfirst, hmiddle⟩ := copyField_succeeds NetAppData.setPMetadata
    NetAppData.setMetadataLen (started_block incoming outcomes.stale before) hmetadata
  obtain ⟨after, hsecond, hafter⟩ := copyField_succeeds NetAppData.setPPayload
    NetAppData.setPayloadLen hmiddle.request hpayload
  refine ⟨after, ?_, built_of_fieldCopied hmiddle hafter⟩
  rw [started] at hfirst
  rw [simpleLinkNetAppRequestEventHandler, if_pos hhttp, hrequest, Heap.malloc_true]
  simp only [copyMetadata, hfirst, copyPayload, hsecond]

/-- Where an allocation behind the first one fails, the request is left behind with an error. -/
theorem handler_leaks (hhttp : isHttp incoming.type = true) (hrequest : outcomes.request = true)
    (hfails : ¬((0 < incoming.metadata.length → outcomes.metadata = true) ∧
      (0 < incoming.payload.length → outcomes.payload = true))) :
    ∃ after, simpleLinkNetAppRequestEventHandler outcomes incoming before =
        ⟨netAppRequestErrorResponse, after, none⟩ ∧
      before.given ∈ before.since after ∧ (after.block before.given).isSome := by
  rw [simpleLinkNetAppRequestEventHandler, if_pos hhttp, hrequest, Heap.malloc_true]
  by_cases hmetadata : 0 < incoming.metadata.length → outcomes.metadata = true
  · obtain ⟨middle, hfirst, hmiddle⟩ := copyField_succeeds NetAppData.setPMetadata
      NetAppData.setMetadataLen (started_block incoming outcomes.stale before) hmetadata
    have hpayload : 0 < incoming.payload.length ∧ outcomes.payload = false := by
      simpa using fun hsucceeds => hfails ⟨hmetadata, hsucceeds⟩
    obtain ⟨after, hsecond, hgiven, hlive⟩ := copyField_fails NetAppData.setPPayload
      NetAppData.setPayloadLen hmiddle.request hpayload.1
    rw [started] at hfirst
    refine ⟨after, ?_, ?_, hlive⟩
    · simp only [copyMetadata, hfirst, copyPayload, hpayload.2, hsecond]
    · have hgiven' : middle.given = before.given + 1 + blocksFor incoming.metadata :=
        hmiddle.given
      rw [Heap.mem_since_iff]
      omega
  · have hfailed : 0 < incoming.metadata.length ∧ outcomes.metadata = false := by
      simpa using hmetadata
    obtain ⟨after, hfirst, hgiven, hlive⟩ := copyField_fails NetAppData.setPMetadata
      NetAppData.setMetadataLen (started_block incoming outcomes.stale before) hfailed.1
    rw [started] at hfirst
    refine ⟨after, ?_, ?_, hlive⟩
    · simp only [copyMetadata, hfailed.2, hfirst]
    · have hgiven' : after.given = before.given + 1 := hgiven
      rw [Heap.mem_since_iff]
      omega

/-- A finished copy is freed by the thread. -/
theorem freesTaken_of_built (hget : Preserves http.get) (hpost : Preserves http.post)
    (hbuilt : Built before after incoming request) :
    FreesTaken http before ⟨pendingResponse, after, some before.given⟩ := by
  intro later hlater
  have hlive : ∀ q ∈ before.since after, (later.block q).isSome := by
    intro q hq
    rw [hlater q hq]
    by_cases hown : q = before.given
    · rw [hown, hbuilt.copies.block]
      rfl
    · obtain ⟨bytes, hbytes⟩ := hbuilt.others q hq hown
      rw [hbytes]
      rfl
  have hown : before.given ∈ before.since after := by
    have hmem : some before.given ∈ owned request before.given :=
      List.mem_append_right _ List.mem_cons_self
    obtain ⟨q, hq, hsame⟩ := List.mem_map.mp (hbuilt.owned.mem_iff.mp hmem)
    rwa [Option.some.inj hsame] at hq
  have hrequest : request? before.given later = some request := by
    rw [request?_eq_some, hlater _ hown]
    exact hbuilt.copies.block
  have hnodup : (owned request before.given).Nodup := by
    rw [hbuilt.owned.nodup_iff]
    exact List.Nodup.map (fun _ _ => Option.some.inj) (List.nodup_range' ..)
  obtain ⟨final, hfinal⟩ := smHttpMessage_owned hget hpost hrequest hnodup fun pointer hmem => by
    obtain ⟨q, hq, rfl⟩ := List.mem_map.mp (hbuilt.owned.mem_iff.mp hmem)
    exact ⟨q, rfl, hlive q hq⟩
  exact ⟨_, final, hfinal, hbuilt.owned⟩

/-- A pointer by which the thread frees what was taken is the one that was sent. -/
theorem received_of_freesTaken (hbuilt : Built before after incoming request) {received : ℕ}
    {other : NetAppRequest} (hcopies : Copies after incoming received other)
    (hfrees : FreesTaken http before ⟨pendingResponse, after, some received⟩) :
    received = before.given := by
  obtain ⟨frees, final, hends, hperm⟩ := hfrees after fun _ _ => rfl
  obtain ⟨q, hq, hsame⟩ :=
    List.mem_map.mp (hperm.mem_iff.mp (mem_frees_of_smHttpMessage hends))
  rw [Option.some.inj hsame] at hq
  by_contra hne
  obtain ⟨bytes, hbytes⟩ := hbuilt.others received hq hne
  rw [hcopies.block] at hbytes
  cases hbytes

/-- A request is handled as it should exactly if its type is none of HTTP, or its first
allocation fails, or all that it needs succeeds, the send with the whole pointer included. -/
theorem handles_iff (hget : Preserves http.get) (hpost : Preserves http.post)
    (outcomes : Outcomes) (incoming : Incoming) (before : Heap Block) :
    Handles http before incoming
        (simpleLinkNetAppRequestEventHandler outcomes incoming before) ↔
      GoesThrough outcomes incoming before := by
  by_cases hhttp : isHttp incoming.type = true
  · cases hrequest : outcomes.request with
    | false =>
        rw [simpleLinkNetAppRequestEventHandler, if_pos hhttp, hrequest, Heap.malloc_false]
        refine iff_of_true (Or.inr ⟨rfl, ?_⟩) fun _ hsucceeds => ?_
        · exact fun p hp => absurd hp (Heap.not_mem_since_self before p)
        · rw [hrequest] at hsucceeds
          cases hsucceeds
    | true =>
        rw [GoesThrough]
        simp only [hhttp, hrequest, forall_const, ← and_assoc]
        by_cases hfields : (0 < incoming.metadata.length → outcomes.metadata = true) ∧
            (0 < incoming.payload.length → outcomes.payload = true)
        · obtain ⟨after, hhandled, hbuilt⟩ :=
            handler_builds hhttp hrequest hfields.1 hfields.2
          rw [hhandled]
          constructor
          · rintro (⟨-, ⟨p, request, hqueued, hcopies⟩, hfrees⟩ | ⟨herror, -⟩)
            · simp only at hqueued hcopies
              rw [hqueued] at hfrees
              rw [hqueued, received_of_freesTaken hbuilt hcopies hfrees]
              exact ⟨hfields, rfl⟩
            · cases herror
          · rintro ⟨-, hqueued⟩
            rw [hqueued]
            exact Or.inl ⟨rfl, ⟨_, _, rfl, hbuilt.copies⟩, freesTaken_of_built hget hpost hbuilt⟩
        · obtain ⟨after, hhandled, hgiven, hlive⟩ := handler_leaks hhttp hrequest hfields
          rw [hhandled]
          refine iff_of_false ?_ fun hboth => hfields hboth.1
          rintro (⟨hpending, -⟩ | ⟨-, hnone⟩)
          · cases hpending
          · rw [hnone _ hgiven] at hlive
            cases hlive
  · rw [simpleLinkNetAppRequestEventHandler, if_neg hhttp]
    refine iff_of_true (Or.inr ⟨rfl, ?_⟩) fun htype => absurd htype hhttp
    exact fun p hp => absurd hp (Heap.not_mem_since_self before p)

/-- A GET with one byte of metadata, behind which the heap is empty. -/
def getOfOneByte : Incoming := ⟨0, .httpGet, 0, 0, [0], []⟩

def metadataFails : Outcomes := ⟨true, false, true, ⟨0, .httpGet, 0, noData⟩, none⟩

/-- Handlers that only look at the request. -/
def looking : HttpHandlers := ⟨fun _ heap => heap, fun _ heap => heap⟩

theorem preserves_looking : Preserves fun _ heap => heap :=
  ⟨fun _ _ request hrequest => ⟨request, hrequest, rfl⟩, fun _ _ _ hlive => hlive⟩

theorem handles_broken : ¬Handles looking Heap.empty getOfOneByte
    (simpleLinkNetAppRequestEventHandler metadataFails getOfOneByte Heap.empty) := by
  rintro (⟨hpending, -⟩ | ⟨-, hnone⟩)
  · cases hpending
  · have hleft := hnone 0 (by decide)
    cases hleft

/-- A POST with metadata and a payload, for which nothing fails. -/
theorem handles_iff_post : Handles looking Heap.empty ⟨1, .httpPost, 7, 0, [65], [66, 67]⟩
    (simpleLinkNetAppRequestEventHandler
      ⟨true, true, true, ⟨0, .other 0, 0, noData⟩, some 0⟩ ⟨1, .httpPost, 7, 0, [65], [66, 67]⟩
        Heap.empty) :=
  (handles_iff preserves_looking preserves_looking _ _ _).mpr
    fun _ _ => ⟨fun _ => rfl, fun _ => rfl, rfl⟩

end Requests

end SimpleLinkHost.HttpRequest
