import PgBalancer.Auth.Frontend

/-!
# Authenticating with the backends

`pool_do_auth` opens a session on new connections: it reads which kind of
authentication the backends ask for, answers each of them on the client's behalf, has
the client authenticate itself on the way, and goes on to the phase in which the
backends hand out their cancel keys.  `pool_do_reauth` is its counterpart for pooled
connections.

The functions are translated up to the point where the cancel keys are read.
-/

open Std.Do

set_option mvcgen.warning false

namespace PgBalancer.Auth

/-- The client side of SCRAM, towards a backend: `pg_SASL_init` and `pg_SASL_continue`,
`none` being an ERROR. -/
structure SaslClient where
  State : Type
  init : Bytes → Bytes → Bytes → Option State
  step : State → Bytes → Bool → Option State

/-- The backends of the session: those for which `VALID_BACKEND` holds, in the order of
their node ids, and `MAIN_NODE_ID`. -/
structure Nodes where
  valid : List Nat
  nodup : valid.Nodup
  main : Nat
  main_mem : main ∈ valid
  sasl : SaslClient

variable (env : Env) (nodes : Nodes)

/-! ## Programs that deal with the backends only -/

/-- The connections to the backends, by node id. -/
abbrev Backends := Nat → Backend

/-- A program that deals with the backends only. -/
abbrev BackendM := EStateM Ereport Backends

/-- Such a program as a part of one that deals with the client as well. -/
def onBackends {α : Type} (p : BackendM α) : AuthM α := fun s =>
  match p s.backend with
  | .ok a b => .ok a { s with backend := b }
  | .error e b => .error e { s with backend := b }

/-- Read from a backend. -/
def fromBackend {α : Type} (i : Nat) (f : Bytes → Except Ereport (α × Bytes)) : BackendM α := do
  let b ← get
  let (a, rest) ← liftExcept (f (b i).input)
  set (Function.update b i { b i with input := rest })
  return a

/-- Read the code of an authentication message, in network byte order. -/
def readCode (i : Nat) : BackendM CInt := do
  let code ← fromBackend i readInt
  modify fun b => Function.update b i { b i with codes := (b i).codes ++ [code.ntohl.val] }
  return code

/-- Send a packet to a backend. -/
def toBackend (i : Nat) (packet : Bytes) : BackendM Unit :=
  modify fun b => Function.update b i { b i with sent := (b i).sent ++ [packet] }

/-- The kind of authentication is kept with the connection. -/
def setAuthKind (i : Nat) (kind : Int) : BackendM Unit :=
  modify fun b => Function.update b i { b i with authKind := kind }

/-- The password is saved with the connection, for when it is reused. -/
def savePassword (i : Nat) (password : Bytes) (type : PasswordType) : BackendM Unit :=
  modify fun b => Function.update b i
    { b i with pwdSize := password.length, password, passwordType := type }

/-! ## Reading from all backends -/

/-- The loop of `pool_read_kind` and `pool_read_int`: the same value has to come from all
backends.  The main node sets the value the nodes after it are compared with; nodes
before it are compared with the initial one. -/
def poolReadAll {α : Type} [DecidableEq α] (read : Nat → BackendM α) (mismatch : Ereport) :
    List Nat → α → α → BackendM α
  | [], _, data => return data
  | i :: rest, data0, _ => do
    let data ← read i
    if i = nodes.main then poolReadAll read mismatch rest data data
    else do
      ereportIf (data ≠ data0) mismatch
      poolReadAll read mismatch rest data0 data

/-- `pool_read_kind`: all backends have to send the same kind. -/
def poolReadKind : BackendM UInt8 :=
  poolReadAll nodes (fromBackend · readByte) ⟨"unable to read message kind",
    "kind does not match between main(%x) slot[%d] (%x)"⟩ nodes.valid 0 255

/-- `pool_read_int`, of a number that is a code or something else. -/
def poolReadInt (read : Nat → BackendM CInt) : BackendM CInt :=
  poolReadAll nodes read ⟨"unable to read int value",
    "data does not match between between main(%x) slot[%d] (%x)"⟩
    nodes.valid ⟨0, 0, 0, 0⟩ ⟨255, 255, 255, 255⟩

/-- The loop of `pool_read_message_length` over the nodes other than the main one: do they
all send `length0`?  It stops at the first that does not. -/
def sameLength (length0 : CInt) : List Nat → BackendM Bool
  | [] => return true
  | i :: rest => do
    if i = nodes.main then sameLength length0 rest
    else do
      let length ← fromBackend i readInt
      if length ≠ length0 then return false else sameLength length0 rest

/-- `pool_read_message_length`: the lengths have to agree, too. -/
def poolReadMessageLength : BackendM Int := do
  let length0 ← fromBackend nodes.main readInt
  if ← sameLength nodes length0 nodes.valid then do
    ereportIf (length0.ntohl.val < 0)
      ⟨"unable to read message length", "invalid message length (%d)"⟩
    return length0.ntohl.val
  else return -1

/-- Skip the rest of a message on each of the nodes. -/
def skipMessage (len : Nat) : List Nat → BackendM Unit
  | [] => return ()
  | i :: rest => do
    let _ ← fromBackend i (poolRead len)
    skipMessage len rest

/-- `ProcessNegotiateProtocol`; what it forwards and saves is not an authentication packet. -/
def processNegotiateProtocol : BackendM Unit := do
  let len ← poolReadInt nodes (fromBackend · readInt)
  let _protov ← poolReadInt nodes (fromBackend · readInt)
  skipMessage (len.ntohl.val - 8).toNat nodes.valid

/-- The `read_kind` loop at the start of `pool_do_auth`.  Each turn takes a byte from the
main node, so the length of its stream bounds the number of turns. -/
def readKindLoop : Nat → BackendM Unit
  | 0 => throw ⟨"unable to read data", "EOF encountered"⟩
  | n + 1 => do
    let kind ← poolReadKind nodes
    ereportIf (128 ≤ kind)
      ⟨"invalid authentication packet from backend", "failed to get response kind"⟩
    ereportIf (kind = 69) ⟨"backend authentication failed",
      "backend response with kind 'E' when expecting 'R'"⟩
    if kind = 118 then do
      processNegotiateProtocol nodes
      readKindLoop n
    else ereportIf (kind ≠ 82) ⟨"backend authentication failed",
      "backend response with kind '%c' when expecting 'R'"⟩

/-! ## One backend -/

/-- The four bytes of a length, in network byte order. -/
def htonl (n : Nat) : Bytes := (ByteMem.leBytes 4 n).reverse

/-- `send_password_packet`: the code of the answer, *in network byte order*. -/
def sendPasswordPacket (i : Nat) (password : Bytes) : BackendM CInt := do
  toBackend i ((if env.protoMajor = .v3 then ascii "p" else []) ++
    htonl (4 + password.length + 1) ++
    password ++ [0])
  let response ← fromBackend i readByte
  ereportIf (response ≠ 82) ⟨"authentication failed",
    "invalid backend response. Response does not replied with \"R\""⟩
  if env.protoMajor = .v3 then do
    let len ← fromBackend i readInt
    ereportIf (len.ntohl.val ≠ 8) ⟨"authentication failed",
      "invalid authentication packet. incorrect authentication packet size (%d)"⟩
  else pure ()
  readCode i

/-- Tell the client that the session is accepted. -/
def sendAuthOk : AuthM Unit := sendAuthRequest authReqOk []

/-- Ask the client for its password in clear text, and look for the password again. -/
def askInClearText (i : Nat) (notFound : Ereport) : AuthM (Option (Bytes × PasswordType)) := do
  authenticateFrontendClearText env
  match ← getAuthPassword env (some i) false with
  | none => throw notFound
  | some p => return some p

/-- The first half of `do_clear_text_password`: the password to send to the backend. -/
def clearTextPassword (i : Nat) (reauth : Bool) : AuthM (Option (Bytes × PasswordType)) := do
  let rtn ← getAuthPassword env (some i) reauth
  let fe := (← get).frontend
  if reauth = true ∧ rtn.isSome ∧ fe.passwordMapping.isNone ∧ 0 < fe.pwdSize ∧
      fe.passwordType = .plaintext then
    return some (fe.password, fe.passwordType)
  else if rtn.isNone ∨ fe.pwdSize = 0 then
    if fe.poolHba = none ∨ fe.poolHba = some .password ∨ env.allowClearTextFrontendAuth then
      askInClearText env i ⟨"clear text password authentication failed",
        "unable to get the password for user: \"%s\""⟩
    else return rtn
  else return rtn

/-- The clear text of a password, if it has one. -/
def usablePassword : Option (Bytes × PasswordType) → Except Ereport Bytes
  | some (pwd, .aes) =>
    match env.getDecryptedPassword pwd with
    | none => .error ⟨"clear text password authentication failed",
        "unable to decrypt password from pool_passwd"⟩
    | some pwd => .ok pwd
  | some (pwd, .plaintext) => .ok (cstr pwd)
  | _ => .error ⟨"clear text password authentication failed", "unable to get the password"⟩

/-- `do_clear_text_password`: send the password, or ask the client for it first. -/
def doClearTextPassword (i : Nat) (reauth : Bool) : AuthM CInt := do
  if reauth = true ∧ (← get).frontend.frontendAuthenticated = true then return ⟨0, 0, 0, 0⟩
  else do
    let found ← clearTextPassword env i reauth
    let pwd ← liftExcept (usablePassword env found)
    if reauth then do
      let b := (← get).backend i
      ereportIf (pwd.length ≠ b.pwdSize) ⟨"clear text password authentication failed",
        "password does not match"⟩
      ereportIf (pwd ≠ b.password.take b.pwdSize) ⟨"clear text password authentication failed",
        "password does not match"⟩
      return ⟨0, 0, 0, 0⟩
    else do
      let kind ← onBackends (sendPasswordPacket env i pwd)
      if kind.val = authReqOk then do
        if i = nodes.main then sendAuthOk else pure ()
        onBackends (setAuthKind i authReqPassword)
        onBackends (savePassword i pwd .plaintext)
      else pure ()
      return kind

/-- The MD5 form of the password `do_md5` works with. -/
def backendMd5 (username : Bytes) : Bytes × PasswordType → Except Ereport Bytes
  | (storedPassword, .aes) =>
    match env.getDecryptedPassword storedPassword with
    | none => .error ⟨"md5 authentication failed", "unable to decrypt password from pool_passwd"⟩
    | some pwd => .ok (pgMd5Encrypt env pwd username)
  | (storedPassword, .plaintext) => .ok (pgMd5Encrypt env (cstr storedPassword) username)
  | (storedPassword, .md5) => .ok storedPassword
  | _ => .error ⟨"md5 authentication failed", "unable to get the password"⟩

/-- Has the client been asked for its password in clear text, so that it need not be
asked again? -/
def havePassword (fe : Frontend) : Prop :=
  (env.allowClearTextFrontendAuth = true ∨ fe.authKind = authReqPassword) ∧ 0 < fe.pwdSize ∧
    fe.passwordType = .plaintext

instance (fe : Frontend) : Decidable (havePassword env fe) :=
  inferInstanceAs (Decidable (_ ∧ _))

/-- The part of `do_md5` and `do_SCRAM` that has the client authenticate itself, when the
main node's turn comes. -/
def authenticateAtMain (exchange : AuthM Unit) (i : Nat) : AuthM Unit := do
  let fe := (← get).frontend
  if i = nodes.main ∧ fe.frontendAuthenticated = false then
    if havePassword env fe then
      onBackends (savePassword i fe.password fe.passwordType)
    else exchange
  else pure ()

/-- The part of `do_md5` that authenticates with the backend: the code it replies. -/
def answerMd5 (i : Nat) (poolPasswd : Bytes) : BackendM CInt := do
  let salt ← fromBackend i (poolRead 4)
  let encbuf := pgMd5Encrypt env (poolPasswd.drop (ascii "md5").length) salt
  sendPasswordPacket env i encbuf

/-- `do_md5` with `reauth = 0`, the only way it is called.  It returns 0 whatever
non-negative code the backend has replied. -/
def doMd5 (i : Nat) (stored : Bytes × PasswordType) : AuthM CInt := do
  let fe := (← get).frontend
  let poolPasswd ← liftExcept (backendMd5 env fe.username stored)
  authenticateAtMain env nodes (authenticateFrontendMd5 env (some i) false) i
  let kind ← onBackends (answerMd5 env i poolPasswd)
  ereportIf (kind.val < 0) ⟨"md5 authentication failed", "backend replied with invalid kind"⟩
  if kind.val = 0 then do
    if i = nodes.main then sendAuthOk else pure ()
    onBackends (setAuthKind i authReqMd5)
  else pure ()
  return ⟨0, 0, 0, 0⟩

/-- The `switch` of `do_SCRAM` on the codes other than AuthenticationOk. -/
def saslAnswer (username password payload : Bytes) (authKind : Int)
    (saslState : Option nodes.sasl.State) : Except Ereport nodes.sasl.State :=
  if authKind = authReqSasl then
    match nodes.sasl.init payload username password with
    | none => .error ⟨"invalid authentication request from server", ""⟩
    | some st => .ok st
  else if authKind = authReqSaslCont ∨ authKind = authReqSaslFin then
    match saslState with
    | none => .error ⟨"invalid authentication request from server: " ++
        "AUTH_REQ_SASL_CONT without AUTH_REQ_SASL", ""⟩
    | some st =>
      match nodes.sasl.step st payload (authKind = authReqSaslFin) with
      | none => .error ⟨"error in SASL authentication", ""⟩
      | some st => .ok st
  else .error ⟨"invalid authentication request from server: unknown auth kind %d", ""⟩

/-- The header of the next message: its length and its code. -/
def readAuthHeader (i : Nat) : BackendM (Int × Int) := do
  let kind ← fromBackend i readByte
  let len ← fromBackend i readInt
  ereportIf (kind ≠ 82) ⟨"backend authentication failed",
    "backend response with kind '%c' when expecting 'R'"⟩
  ereportIf (len.ntohl.val < 8)
    ⟨"backend authentication failed", "backend response with no data "⟩
  let authKind ← readCode i
  return (len.ntohl.val, authKind.ntohl.val)

/-- The loop of `do_SCRAM`.  Each turn but the last reads at least nine bytes, so the
length of the stream bounds the number of turns. -/
def doScramLoop (i : Nat) (username password : Bytes) :
    Nat → Int → Int → Option nodes.sasl.State → BackendM Unit
  | 0, _, _, _ => throw ⟨"unable to read data", "EOF encountered"⟩
  | n + 1, authKind, payloadLen, saslState => do
    ereportIf (1024 < payloadLen) ⟨"invalid authentication data too big", ""⟩
    let payload ← fromBackend i (poolRead payloadLen.toNat)
    if authKind = authReqOk then setAuthKind i authReqSasl
    else do
      let st ← liftExcept (saslAnswer nodes username password payload authKind saslState)
      let (len, authKind) ← readAuthHeader i
      doScramLoop i username password n authKind (len - 4 - 4) (some st)

/-- `do_SCRAM`; it never returns false, but leaves with an ERROR instead. -/
def doScram (i : Nat) (messageLength : Int) (password : Bytes) : AuthM Unit := do
  authenticateAtMain env nodes (authenticateFrontendScram env (some i) false) i
  let s ← get
  onBackends (doScramLoop nodes i s.frontend.username password ((s.backend i).input.length + 1)
    authReqSasl (messageLength - 4 - 4) none)

/-! ## `pool_do_auth` and `pool_do_reauth` -/

/-- The loops of the clear-text and the MD5 branch: the result of each turn replaces that of
the last. -/
def backendLoop (doAuth : Nat → AuthM CInt) (failed : Ereport) : List Nat → CInt → AuthM CInt
  | [], authkind => return authkind
  | i :: rest, _ => do
    let authkind ← doAuth i
    ereportIf (authkind.val < 0) failed
    backendLoop doAuth failed rest authkind

/-- The loop of the clear-text branch. -/
def clearTextLoop : List Nat → CInt → AuthM CInt :=
  backendLoop (doClearTextPassword env nodes · false)
    ⟨"failed to authenticate with backend", "do_clear_text_password failed in slot %d"⟩

/-- The loop of the MD5 branch. -/
def md5Loop (stored : Bytes × PasswordType) : List Nat → CInt → AuthM CInt :=
  backendLoop (doMd5 env nodes · stored)
    ⟨"failed to authenticate with backend", "MD5 authentication failed in slot [%d]."⟩

/-- The loop of the SCRAM branch. -/
def scramBackendLoop (messageLength : Int) (password : Bytes) : List Nat → AuthM Unit
  | [] => return ()
  | i :: rest => do
    doScram env nodes i messageLength password
    scramBackendLoop messageLength password rest

/-- The password of the MD5 and SCRAM branches: if there is none, and there is no
`pool_hba.conf` to forbid it, the client is asked for it in clear text. -/
def branchPassword (method : String) : AuthM (Option (Bytes × PasswordType)) := do
  match ← getAuthPassword env (some nodes.main) false with
  | some p => return some p
  | none =>
    if (← get).frontend.poolHba = none ∧ env.allowClearTextFrontendAuth then
      askInClearText env nodes.main ⟨"failed to authenticate with backend using " ++ method,
        "unable to get the password"⟩
    else return none

/-- The password of the MD5 branch has to be of a type that branch can use. -/
def md5BranchPassword : Option (Bytes × PasswordType) → Except Ereport (Bytes × PasswordType)
  | some (pwd, type) => do
    ereportIf (type ∉ [.plaintext, .md5, .aes])
      ⟨"failed to authenticate with backend using md5", "valid password not found"⟩
    return (pwd, type)
  | none => .error ⟨"failed to authenticate with backend using md5", "valid password not found"⟩

/-- The password of the SCRAM branch has to be plain text, or decrypt to it. -/
def scramBranchPassword : Option (Bytes × PasswordType) → Except Ereport Bytes
  | some (pwd, .aes) =>
    match env.getDecryptedPassword pwd with
    | none => .error ⟨"SCRAM authentication failed", "unable to decrypt password from pool_passwd"⟩
    | some pwd => .ok pwd
  | some (pwd, .plaintext) => .ok (cstr pwd)
  | _ => .error ⟨"failed to authenticate with backend using SCRAM", "valid password not found"⟩

/-- The branches of `pool_do_auth`: the value `authkind` has after them. -/
def authBranch (messageLength : Int) (authkind : CInt) : AuthM CInt := do
  if authkind.ntohl.val = authReqOk then do
    sendAuthOk
    onBackends (setAuthKind nodes.main authReqOk)
    return authkind.ntohl
  else if authkind.ntohl.val = authReqPassword then
    clearTextLoop env nodes nodes.valid authkind.ntohl
  else if authkind.ntohl.val = authReqMd5 then do
    let stored ← liftExcept (md5BranchPassword (← branchPassword env nodes "md5"))
    md5Loop env nodes stored nodes.valid authkind.ntohl
  else if authkind.ntohl.val = authReqSasl then do
    let password ← liftExcept (scramBranchPassword env (← branchPassword env nodes "SCRAM"))
    scramBackendLoop env nodes messageLength password nodes.valid
    sendAuthOk
    return ⟨0, 0, 0, 0⟩
  else throw ⟨"failed to authenticate with backend",
    "unsupported auth kind received from backend: authkind:%d"⟩

/-- The first part of `pool_do_auth`: the length of the authentication request, and its code
in network byte order. -/
def readAuthRequest : BackendM (Int × CInt) := do
  let b ← get
  readKindLoop nodes ((b nodes.main).input.length + 1)
  let messageLength ←
    if env.protoMajor = .v3 then do
      let len ← poolReadMessageLength nodes
      ereportIf (len ≤ 0) ⟨"invalid authentication packet from backend",
        "failed to get the authentication packet length"⟩
      pure len
    else pure 0
  let authkind ← poolReadInt nodes readCode
  ereportIf (authkind.val < 0)
    ⟨"invalid authentication packet from backend", "failed to get auth kind"⟩
  return (messageLength, authkind)

/-- `pool_do_auth`: it returns when the BackendKeyData phase is reached. -/
def poolDoAuth : AuthM Unit := do
  let (messageLength, authkind) ← onBackends (readAuthRequest env nodes)
  let authkind ← authBranch env nodes messageLength authkind
  ereportIf (authkind.val ≠ 0) ⟨"failed to authenticate with backend",
    "invalid auth kind received from backend: authkind:%d"⟩

/-- `pool_do_reauth`: the client of a pooled connection proves its password again. -/
def poolDoReauth : AuthM Unit := do
  let s ← get
  if s.frontend.frontendAuthenticated = false then
    let kind := (s.backend nodes.main).authKind
    if kind = authReqOk then pure ()
    else if kind = authReqPassword then do
      let _ ← doClearTextPassword env nodes nodes.main true
    else if kind = authReqMd5 then authenticateFrontendMd5 env (some nodes.main) true
    else if kind = authReqSasl then authenticateFrontendScram env (some nodes.main) true
    else throw ⟨"authentication failed", "unknown authentication request code %d"⟩
  else pure ()
  sendAuthOk

/-! ## Dealing with the backends leaves the client's connection alone -/

section Frame

variable {α : Type} {P : Backends → Prop} {Q : α → Backends → Prop} {E : Ereport → Backends → Prop}
  {p : BackendM α} {a : α} {s s' : AuthState}

theorem onBackends_eq_ok :
    onBackends p s = .ok a s' ↔ p s.backend = .ok a s'.backend ∧ s'.frontend = s.frontend := by
  unfold onBackends
  cases p s.backend with
  | ok a' b =>
    obtain ⟨fe', b'⟩ := s'
    constructor
    · rintro ⟨⟩
      exact ⟨rfl, rfl⟩
    · rintro ⟨⟨⟩, rfl⟩
      rfl
  | error e b => simp

theorem onBackends_spec (h : ⦃fun b => ⌜P b⌝⦄ p ⦃post⟨fun a b => ⌜Q a b⌝, fun e b => ⌜E e b⌝⟩⦄)
    (fe : Frontend) : ⦃fun s => ⌜P s.backend ∧ s.frontend = fe⌝⦄ onBackends p
    ⦃post⟨fun a s => ⌜Q a s.backend ∧ s.frontend = fe⌝,
      fun e s => ⌜E e s.backend ∧ s.frontend = fe⌝⟩⦄ := by
  rw [EStateM.triple_iff] at *
  rintro s ⟨hP, rfl⟩
  obtain ⟨hok, herror⟩ := h s.backend hP
  constructor
  · intro a s' hrun
    unfold onBackends at hrun
    split at hrun
    · next hp => cases hrun; exact ⟨hok _ _ hp, rfl⟩
    · cases hrun
  · intro e s' hrun
    unfold onBackends at hrun
    split at hrun
    · cases hrun
    · next hp => cases hrun; exact ⟨herror _ _ hp, rfl⟩

theorem onBackends_frame (p : BackendM α) (fe : Frontend) :
    ⦃fun s => ⌜s.frontend = fe⌝⦄ onBackends p
    ⦃post⟨fun _ s => ⌜s.frontend = fe⌝, fun _ s => ⌜s.frontend = fe⌝⟩⦄ := by
  have htriv : ⦃fun _ => ⌜True⌝⦄ p ⦃post⟨fun _ _ => ⌜True⌝, fun _ _ => ⌜True⌝⟩⦄ :=
    EStateM.triple_iff.2 fun _ _ => ⟨fun _ _ _ => trivial, fun _ _ _ => trivial⟩
  have hspec := onBackends_spec htriv fe
  mvcgen [hspec] with grind

end Frame

end PgBalancer.Auth
