import Mathlib.Data.List.Induction
import GrokDesktop.VmService.Records

/-!
# Requests and responses of the VM host

The named-pipe host of the VM service reads one JSON envelope a frame, checks it, and answers with
one response envelope. A request is authenticated by the identity of its peer, and its stored
result is found under a key made of that identity, the operation and the request's own idempotency
key.

JSON, timestamps, letter case and the redaction of diagnostics are library functions.
-/

namespace GrokDesktop.VmHost

open List

open Except (rejectIf okOr)
open VmService (ServiceError ErrorCode quoted)

/-! ## Operations -/

/-- The allowlisted operations. -/
inductive Operation where
  | getCapabilities
  | ensureImage
  | createVm
  | startVm
  | stopVm
  | deleteVm
  | attachWorkspace
  | guestControl
  | openSocket
  deriving DecidableEq

namespace Operation

def text : Operation → String
  | getCapabilities => "get_capabilities"
  | ensureImage => "ensure_image"
  | createVm => "create_vm"
  | startVm => "start_vm"
  | stopVm => "stop_vm"
  | deleteVm => "delete_vm"
  | attachWorkspace => "attach_workspace"
  | guestControl => "guest_control"
  | openSocket => "open_socket"

def all : List Operation :=
  [getCapabilities, ensureImage, createVm, startVm, stopVm, deleteVm, attachWorkspace,
    guestControl, openSocket]

/-- The operation with the given text, if it is known. -/
def ofText (value : String) : Option Operation := all.find? (·.text = value)

end Operation

/-! ## Envelopes -/

/-- A request as its frame spells it. -/
structure RequestEnvelope where
  version : String
  id : String
  operation : String
  deadline : String
  idempotencyKey : String
  payload : List UInt8

structure ResponseError where
  code : String
  message : String
  retryable : Bool
  deriving DecidableEq

/-- A response: a result or an error. -/
structure ResponseEnvelope where
  version : String
  id : String
  ok : Bool
  result : List UInt8
  error : Option ResponseError
  deriving DecidableEq

def envelopeVersion : String := "1.0.0"

/-- The library functions of the host. Instants are nanoseconds. -/
class HostLibrary where
  /-- The payloads of the operations. -/
  Payload : Type
  /-- `decodeStrictJSON` into a request envelope. -/
  parseEnvelope : List UInt8 → Except String RequestEnvelope
  /-- The `id` of a frame that is otherwise not understood. -/
  parseId : List UInt8 → Option String
  /-- `time.Parse(time.RFC3339Nano, ..)`. -/
  parseTime : String → Option ℕ
  /-- `decodeStrictJSON` into the payload of an operation. -/
  parsePayload : Operation → List UInt8 → Except String Payload
  /-- `json.Marshal` of a payload. -/
  marshalPayload : Payload → Except String (List UInt8)
  /-- `strings.ToUpper`. -/
  toUpper : String → String
  /-- The text of a duration. -/
  durationText : ℕ → String
  /-- `ReplaceAllString` of a regular expression, on a text, with a replacement. -/
  replaceAllString : String → String → String → String

/-- A refusal of the host itself. -/
structure ProtocolError where
  code : String
  message : String
  retryable : Bool

def newProtocolError (code message : String) : ProtocolError := ⟨code, message, false⟩

def protocolErrorResponse (id : String) (error : ProtocolError) : ResponseEnvelope where
  version := envelopeVersion
  id := id
  ok := false
  result := []
  error := some ⟨error.code, error.message, error.retryable⟩

/-- The pattern `[A-Za-z0-9._:-]` with bounds on the length. -/
def isSafeText (minimum maximum : ℕ) (value : String) : Bool :=
  decide (minimum ≤ value.toList.length) && decide (value.toList.length ≤ maximum) &&
    value.toList.all fun c => isAsciiAlphanumeric c || c = '.' || c = '_' || c = ':' || c = '-'

/-- The first byte after white space is an opening brace. -/
def isJsonObject (payload : List UInt8) : Bool :=
  (payload.dropWhile fun b => b = 32 || (9 ≤ b && b ≤ 13)).head? = some 123

/-- A request that passed the checks of its envelope. -/
structure ValidatedRequest where
  id : String
  operation : Operation
  idempotencyKey : String
  payload : List UInt8
  deadline : ℕ

section

variable [HostLibrary]

def decodeEnvelope (data : List UInt8) (now maxDeadline : ℕ) :
    Except ProtocolError ValidatedRequest := do
  let request ← (HostLibrary.parseEnvelope data).mapError fun text =>
    newProtocolError "malformed_request" ("request envelope is not valid JSON: " ++ text)
  rejectIf (request.version ≠ envelopeVersion)
    (newProtocolError "unsupported_version" ("version must be " ++ quoted envelopeVersion))
  rejectIf (isSafeText 1 128 request.id = false)
    (newProtocolError "malformed_request" "id must contain 1 to 128 safe characters")
  let operation ← okOr (Operation.ofText request.operation)
    (newProtocolError "unknown_operation"
      ("operation " ++ quoted request.operation ++ " is not supported"))
  rejectIf (isJsonObject request.payload = false)
    (newProtocolError "malformed_request" "payload must be a JSON object")
  let deadline ← okOr (HostLibrary.parseTime request.deadline)
    (newProtocolError "malformed_request" "deadline must be an RFC3339 timestamp")
  rejectIf (deadline ≤ now) ⟨"deadline_exceeded", "request deadline has expired", true⟩
  rejectIf (now + maxDeadline < deadline)
    (newProtocolError "deadline_too_far" ("deadline cannot be more than " ++
      HostLibrary.durationText maxDeadline ++ " in the future"))
  rejectIf (request.idempotencyKey ≠ "" ∧ isSafeText 16 128 request.idempotencyKey = false)
    (newProtocolError "malformed_request"
      "idempotencyKey must contain 16 to 128 safe characters")
  rejectIf (operation ≠ .getCapabilities ∧ request.idempotencyKey = "")
    (newProtocolError "idempotency_key_required"
      "idempotencyKey is required for mutating operations")
  return ⟨request.id, operation, request.idempotencyKey, request.payload, deadline⟩

/-- The envelopes that pass the checks. -/
theorem decodeEnvelope_eq_ok {data : List UInt8} {now maxDeadline : ℕ}
    {validated : ValidatedRequest} :
    decodeEnvelope data now maxDeadline = .ok validated ↔
      ∃ req, HostLibrary.parseEnvelope data = .ok req ∧
        req.version = envelopeVersion ∧ isSafeText 1 128 req.id = true ∧
        ∃ op, Operation.ofText req.operation = some op ∧
          isJsonObject req.payload = true ∧
          ∃ deadline, HostLibrary.parseTime req.deadline = some deadline ∧
            now < deadline ∧ deadline ≤ now + maxDeadline ∧
            (req.idempotencyKey ≠ "" → isSafeText 16 128 req.idempotencyKey = true) ∧
            (op ≠ .getCapabilities → req.idempotencyKey ≠ "") ∧
            validated =
              ⟨req.id, op, req.idempotencyKey, req.payload, deadline⟩ := by
  simp only [decodeEnvelope, Except.bind_eq_ok, Except.mapError_eq_ok, Except.rejectIf_eq_ok,
    Except.okOr_eq_ok, Except.return_eq_ok, exists_const, not_and, not_not, not_le, not_lt,
    Bool.not_eq_false, eq_comm (a := validated)]

def decodePayload (request : ValidatedRequest) : Except ProtocolError (List UInt8) := do
  let payload ← (HostLibrary.parsePayload request.operation request.payload).mapError
    fun text => newProtocolError "malformed_request" ("operation payload is invalid: " ++ text)
  let canonical ← (HostLibrary.marshalPayload payload).mapError
    fun text => newProtocolError "internal" ("cannot canonicalize operation payload: " ++ text)
  rejectIf (canonical = [])
    (newProtocolError "internal" "canonical operation payload is empty")
  return canonical

def bestEffortRequestId (frame : List UInt8) : String :=
  match HostLibrary.parseId frame with
  | some id => if isSafeText 1 128 id then id else ""
  | none => ""

end

/-! ## Service errors -/

/-- Why a service operation failed. -/
inductive ServiceFailure where
  | service (error : ServiceError)
  | context
  | other

def errorCodeText : ErrorCode → String
  | .invalidArgument => "invalid_argument"
  | .permissionDenied => "permission_denied"
  | .notFound => "not_found"
  | .conflict => "conflict"
  | .unavailable => "unavailable"

section

variable [HostLibrary]

/-- Takes account identifiers, secrets and paths out of a message. -/
def redactDiagnostic (message : String) : String :=
  let redacted := HostLibrary.replaceAllString r"(?i)\bS-1-[0-9]+(?:-[0-9]+)+\b" message "[sid]"
  let redacted := HostLibrary.replaceAllString
    r"(?i)(bearer\s+|(?:token|secret|api[_-]?key)\s*[:=]\s*)[^\s,;]+" redacted
    "$\x7b1\x7d[redacted]"
  let redacted := HostLibrary.replaceAllString r"(?i)(?:[a-z]:\\|\\\\)[^\r\n]+" redacted "[path]"
  HostLibrary.replaceAllString r"(^|\s)/[^\r\n]+" redacted "$\x7b1\x7d[path]"

def publicServiceMessage (code : ErrorCode) (message : String) : String :=
  if code = .unavailable then "VM service is temporarily unavailable"
  else
    let redacted := trim (redactDiagnostic message)
    if redacted = "" then "VM service request failed" else redacted

def deadlineExpired (id : String) : ResponseEnvelope :=
  protocolErrorResponse id ⟨"deadline_exceeded", "request deadline expired", true⟩

def errorResponse (id : String) : ServiceFailure → ResponseEnvelope
  | .service error =>
      { version := envelopeVersion
        id := id
        ok := false
        result := []
        error := some ⟨errorCodeText error.code, publicServiceMessage error.code error.message,
          error.code = .unavailable⟩ }
  | .context => deadlineExpired id
  | .other => protocolErrorResponse id ⟨"internal", "service operation failed", false⟩

end

/-! ## Peers -/

/-- How the transport authenticated a peer. -/
inductive AuthenticationMethod where
  | windowsNamedPipe
  | development
  | unspecified
  deriving DecidableEq

def AuthenticationMethod.text : AuthenticationMethod → String
  | .windowsNamedPipe => "windows-named-pipe-identification"
  | .development => "development-loopback"
  | .unspecified => ""

/-- The identity of a peer, as far as the host uses it. -/
structure PeerIdentity where
  userSid : String
  sessionId : ℕ
  authenticationId : ℕ
  impersonationLevel : ℕ
  clientProcessId : ℕ
  clientProcessStart : ℕ
  packagedDesktopQualified : Bool
  guestControlQualified : Bool
  method : AuthenticationMethod

/-- `%t`. -/
def boolText (b : Bool) : String := if b then "true" else "false"

/-- Texts joined by NUL characters. -/
def joinFields (first : String) (rest : List String) : String :=
  rest.foldl (fun text field => text ++ "\x00" ++ field) first

/-- The fields of the cache key after the user. -/
def principalFields (peer : PeerIdentity) : List String :=
  [toString peer.sessionId, toString peer.authenticationId, toString peer.impersonationLevel,
    toString peer.clientProcessId, toString peer.clientProcessStart,
    boolText peer.packagedDesktopQualified, boolText peer.guestControlQualified, peer.method.text]

section

variable [HostLibrary]

/-- Keeps replay results scoped to the authenticated logon and its authorization level. -/
def principalCacheKey (peer : PeerIdentity) : String :=
  joinFields (HostLibrary.toUpper peer.userSid) (principalFields peer)

/-- The key under which the result of a request is stored. -/
def cacheKey (peer : PeerIdentity) (operation : Operation) (idempotencyKey : String) : String :=
  principalCacheKey peer ++ "\x00" ++ operation.text ++ "\x00" ++ idempotencyKey

/-- The same principal: the peers agree on every field of the cache key. -/
def SamePrincipalKey (a b : PeerIdentity) : Prop :=
  HostLibrary.toUpper a.userSid = HostLibrary.toUpper b.userSid ∧ a.sessionId = b.sessionId ∧
    a.authenticationId = b.authenticationId ∧ a.impersonationLevel = b.impersonationLevel ∧
    a.clientProcessId = b.clientProcessId ∧ a.clientProcessStart = b.clientProcessStart ∧
    a.packagedDesktopQualified = b.packagedDesktopQualified ∧
    a.guestControlQualified = b.guestControlQualified ∧ a.method = b.method

end

/-! ### The key tells requests apart -/

/-- A text without NUL characters. -/
def NulFree (text : String) : Prop := '\x00' ∉ text.toList

/-- The last field of a joined text can be read back. -/
lemma append_nul_inj {a b f g : String} (hf : NulFree f) (hg : NulFree g)
    (h : a ++ "\x00" ++ f = b ++ "\x00" ++ g) : a = b ∧ f = g := by
  have hlist : a.toList ++ '\x00' :: f.toList = b.toList ++ '\x00' :: g.toList := by
    simpa using congrArg String.toList h
  rcases append_eq_append_iff.1 hlist with ⟨mid, hb, hmid⟩ | ⟨mid, ha, hmid⟩
  · cases mid with
    | nil =>
      exact ⟨String.toList_inj.1 (by simpa using hb.symm),
        String.toList_inj.1 (by simpa using hmid)⟩
    | cons x mid => exact absurd (by simp [(cons.inj hmid).2]) hf
  · cases mid with
    | nil =>
      exact ⟨String.toList_inj.1 (by simpa using ha),
        String.toList_inj.1 (by simpa using hmid.symm)⟩
    | cons x mid => exact absurd (by simp [(cons.inj hmid).2]) hg

/-- Joined texts with the same number of fields can be read back when only the first field may
hold NUL characters. -/
lemma joinFields_inj {a b : String} {fs gs : List String} (hlen : fs.length = gs.length)
    (hfs : ∀ f ∈ fs, NulFree f) (hgs : ∀ g ∈ gs, NulFree g)
    (h : joinFields a fs = joinFields b gs) : a = b ∧ fs = gs := by
  -- the fields are taken off from the right
  induction fs using reverseRecOn generalizing gs with
  | nil =>
    obtain rfl := length_eq_zero_iff.1 hlen.symm
    exact ⟨h, rfl⟩
  | append_singleton fs f ih =>
    obtain rfl | ⟨gs, g, rfl⟩ := eq_nil_or_concat gs
    · simp at hlen
    · simp only [concat_eq_append, joinFields, foldl_append] at h hlen hgs ⊢
      obtain ⟨hrest, rfl⟩ := append_nul_inj (hfs f (by simp)) (hgs g (by simp)) h
      obtain ⟨rfl, rfl⟩ := ih (by simpa using hlen) (fun f hf => hfs f (by simp [hf]))
        (fun g hg => hgs g (by simp [hg])) hrest
      exact ⟨rfl, rfl⟩

lemma nulFree_repr (n : ℕ) : NulFree n.repr := by
  intro hmem
  rw [Nat.toList_repr] at hmem
  exact absurd (Nat.isDigit_of_mem_toDigits (by decide) (by decide) hmem) (by decide)

lemma nulFree_boolText (b : Bool) : NulFree (boolText b) := by
  cases b <;> simp [NulFree, boolText]

lemma nulFree_method (m : AuthenticationMethod) : NulFree m.text := by
  cases m <;> simp [NulFree, AuthenticationMethod.text]

lemma nulFree_operation (op : Operation) : NulFree op.text := by
  cases op <;> simp [NulFree, Operation.text]

lemma nulFree_of_isSafeText {minimum maximum : ℕ} {value : String}
    (h : isSafeText minimum maximum value = true) : NulFree value := by
  intro hmem
  have hall := (Bool.and_eq_true_iff.1 h).2
  exact absurd (all_eq_true.1 hall _ hmem) (by decide)

lemma boolText_inj {a b : Bool} (h : boolText a = boolText b) : a = b := by
  cases a <;> cases b <;> simp [boolText] at h ⊢

lemma AuthenticationMethod.text_inj {a b : AuthenticationMethod} (h : a.text = b.text) :
    a = b := by
  cases a <;> cases b <;> simp [AuthenticationMethod.text] at h ⊢

lemma Operation.text_inj {a b : Operation} (h : a.text = b.text) : a = b := by
  cases a <;> cases b <;> simp [Operation.text] at h ⊢

lemma nulFree_principalFields (peer : PeerIdentity) : ∀ f ∈ principalFields peer, NulFree f := by
  simp [principalFields, nulFree_repr, nulFree_boolText, nulFree_method]

section

variable [HostLibrary]

/-- The key of a request tells its principal, its operation and its idempotency key. -/
theorem cacheKey_inj {a b : PeerIdentity} {op op' : Operation} {key key' : String}
    (hkey : NulFree key) (hkey' : NulFree key') (h : cacheKey a op key = cacheKey b op' key') :
    SamePrincipalKey a b ∧ op = op' ∧ key = key' := by
  have hfree : ∀ (peer : PeerIdentity) (op : Operation) (key : String), NulFree key →
      ∀ f ∈ principalFields peer ++ [op.text, key], NulFree f := by
    intro peer op key hkey f hf
    rcases mem_append.1 hf with hf | hf
    · exact nulFree_principalFields peer f hf
    · simp only [mem_cons, not_mem_nil, or_false] at hf
      rcases hf with rfl | rfl
      · exact nulFree_operation op
      · exact hkey
  obtain ⟨huser, hfiel⟩ := joinFields_inj (by simp [principalFields]) (hfree a op key hkey)
    (hfree b op' key' hkey') h
  simp only [principalFields, cons_append, nil_append, cons.injEq, and_true] at hfiel
  obtain ⟨hsess, hauth, hlevel, hproc, hstart, hpack, hguest, hmeth, hop, hkeys⟩ :=
    hfiel
  exact ⟨⟨huser, repr_inj hsess, repr_inj hauth, repr_inj hlevel, repr_inj hproc,
    repr_inj hstart, boolText_inj hpack, boolText_inj hguest,
    AuthenticationMethod.text_inj hmeth⟩, Operation.text_inj hop, hkeys⟩

lemma SamePrincipalKey.cacheKey_eq {a b : PeerIdentity} (h : SamePrincipalKey a b)
    (op : Operation) (key : String) : cacheKey a op key = cacheKey b op key := by
  obtain ⟨huser, hsess, hauth, hlevel, hproc, hstart, hpack, hguest, hmeth⟩ := h
  simp only [cacheKey, principalCacheKey, principalFields, huser, hsess, hauth, hlevel,
    hproc, hstart, hpack, hguest, hmeth]

end

section

variable [Sha256Library]

def operationDigest (operation : Operation) (canonicalPayload : List UInt8) : Digest :=
  Sha256Library.digest (utf8Bytes operation.text ++ [0] ++ canonicalPayload)

end

end GrokDesktop.VmHost
