import PgBalancer.Auth.Scram
import PgBalancer.Lib.Triple

/-!
# Authenticating the client

The connections of a session that is being set up, the password file entry of its
user, and the three exchanges by which the pooler has the client prove that it knows
that password: clear text, MD5 and SCRAM.

* `scramLoop_ends` — **the SCRAM exchange is over after three messages of the client**.
-/

namespace PgBalancer.Auth

open ByteMem

/-! ## Reading from a connection -/

/-- A C `int` as it arrives: its four bytes in the order of the wire. -/
structure CInt where
  b0 : UInt8
  b1 : UInt8
  b2 : UInt8
  b3 : UInt8
  deriving DecidableEq

namespace CInt

/-- The unsigned number the bytes denote on a little-endian host. -/
def toNat (x : CInt) : Nat :=
  x.b0.toNat + 256 * x.b1.toNat + 65536 * x.b2.toNat + 16777216 * x.b3.toNat

/-- The `int` the bytes denote on a little-endian host. -/
def val (x : CInt) : Int :=
  if x.toNat < 2147483648 then x.toNat else (x.toNat : Int) - 4294967296

/-- The number in the other byte order. -/
def ntohl (x : CInt) : CInt := ⟨x.b3, x.b2, x.b1, x.b0⟩

theorem toNat_lt (x : CInt) : x.toNat < 4294967296 := by
  have := x.b0.toNat_lt; have := x.b1.toNat_lt; have := x.b2.toNat_lt; have := x.b3.toNat_lt
  unfold toNat
  omega

theorem val_eq_zero_iff (x : CInt) : x.val = 0 ↔ x = ⟨0, 0, 0, 0⟩ := by
  have hlt := x.toNat_lt
  constructor
  · intro h
    have hzero : x.toNat = 0 := by
      unfold val at h
      split at h <;> omega
    unfold toNat at hzero
    obtain ⟨b0, b1, b2, b3⟩ := x
    simp only [mk.injEq, ← UInt8.toNat_inj, UInt8.toNat_ofNat]
    simp only at hzero
    omega
  · rintro rfl
    decide

theorem ntohl_eq_zero {x : CInt} (h : x.ntohl = ⟨0, 0, 0, 0⟩) : x = ⟨0, 0, 0, 0⟩ := by
  obtain ⟨b0, b1, b2, b3⟩ := x
  obtain ⟨rfl, rfl, rfl, rfl⟩ := CInt.mk.inj h
  rfl

end CInt

/-- `pool_read`: the next `n` bytes of a stream; it is an ERROR if there are no more. -/
def poolRead (n : Nat) (input : Bytes) : Except Ereport (Bytes × Bytes) :=
  if input.length < n then .error ⟨"unable to read data", "EOF encountered"⟩
  else .ok (input.take n, input.drop n)

/-- `pool_read` of a character. -/
def readByte : Bytes → Except Ereport (UInt8 × Bytes)
  | c :: rest => .ok (c, rest)
  | [] => .error ⟨"unable to read data", "EOF encountered"⟩

/-- `pool_read` of an `int`. -/
def readInt : Bytes → Except Ereport (CInt × Bytes)
  | b0 :: b1 :: b2 :: b3 :: rest => .ok (⟨b0, b1, b2, b3⟩, rest)
  | _ => .error ⟨"unable to read data", "EOF encountered"⟩

theorem poolRead_eq_ok {n : Nat} {b p rest : Bytes} :
    poolRead n b = .ok (p, rest) ↔ b = p ++ rest ∧ p.length = n := by
  unfold poolRead
  constructor
  · intro h
    split at h
    · cases h
    · cases h
      exact ⟨(List.take_append_drop n b).symm, List.length_take_of_le (by omega)⟩
  · rintro ⟨rfl, rfl⟩
    rw [if_neg (by simp), List.take_left, List.drop_left]

theorem readByte_eq_ok {b rest : Bytes} {c : UInt8} :
    readByte b = .ok (c, rest) ↔ b = c :: rest := by
  cases b <;> simp [readByte]

theorem readInt_eq_ok {b rest : Bytes} {x : CInt} :
    readInt b = .ok (x, rest) ↔ b = x.b0 :: x.b1 :: x.b2 :: x.b3 :: rest := by
  obtain ⟨b0, b1, b2, b3⟩ := x
  unfold readInt
  split <;> simp_all [and_assoc]

/-! ## Passwords -/

/-- `PasswordType`: how a password is kept. -/
inductive PasswordType where
  | unknown
  | plaintext
  | md5
  | aes
  | scramSha256
  | textPrefixed
  deriving DecidableEq

/-- `get_password_type`: the form is told by the beginning of the text. -/
def getPasswordType (shadowPass : Bytes) : PasswordType :=
  if ascii "md5" <+: shadowPass then
    if shadowPass.length = 32 + 3 then .md5 else .plaintext
  else if ascii "AES" <+: shadowPass then .aes
  else if ascii "SCRAM-SHA-256$" <+: shadowPass then .scramSha256
  else if ascii "TEXT" <+: shadowPass then .textPrefixed
  else .plaintext

/-- The `pgpoolUser` half of a `PasswordMapping`: the password as it stands in
`pool_passwd`, a C string.  The type is always the one its text shows. -/
structure PasswordMapping where
  password : Bytes
  no_nul : 0 ∉ password

/-- The type of the entry's password. -/
def PasswordMapping.passwordType (m : PasswordMapping) : PasswordType := getPasswordType m.password

/-- `auth_method` of a line of `pool_hba.conf`, without the methods a build has to be
configured for (PAM, LDAP). -/
inductive UserAuth where
  | reject
  | implicitReject
  | trust
  | md5
  | password
  | scram
  | cert
  deriving DecidableEq

/-- The version of the protocol the session speaks. -/
inductive Proto where
  | v2
  | v3
  deriving DecidableEq

/-- The MD5 hash as 32 hexadecimal digits. -/
structure Md5 where
  hash : Bytes → Bytes
  length_hash : ∀ b, (hash b).length = 32
  no_nul : ∀ b, 0 ∉ hash b

/-- What the functions below take from the configuration, the libraries and the machine. -/
structure Env where
  protoMajor : Proto
  numBackends : Nat
  allowClearTextFrontendAuth : Bool
  /-- `pool_get_user_credentials` -/
  credentials : Bytes → Option PasswordMapping
  /-- `get_decrypted_password`; the result is a C string -/
  getDecryptedPassword : Bytes → Option Bytes
  no_nul_decrypted : ∀ b p, getDecryptedPassword b = some p → 0 ∉ p
  md5 : Md5
  scram : ScramCrypto
  /-- what `pool_random` draws: the MD5 salt, the salt and the nonce of SCRAM, and the salt
  of a mock exchange -/
  md5Salt : Bytes
  scramSalt : Bytes
  scramNonce : Bytes
  mockSalt : Bytes
  /-- the bytes of memory a stored password is followed by -/
  heap : Mem
  /-- the contents of the static buffer of the SASL loop -/
  saslData : Mem

/-- `AUTH_REQ_OK`, `AUTH_REQ_PASSWORD`, … -/
def authReqOk : Int := 0
/-- `AUTH_REQ_PASSWORD` -/
def authReqPassword : Int := 3
/-- `AUTH_REQ_MD5` -/
def authReqMd5 : Int := 5
/-- `AUTH_REQ_SASL` -/
def authReqSasl : Int := 10
/-- `AUTH_REQ_SASL_CONT` -/
def authReqSaslCont : Int := 11
/-- `AUTH_REQ_SASL_FIN` -/
def authReqSaslFin : Int := 12

/-- An authentication packet for the client: code and further data. -/
structure AuthRequest where
  code : Int
  extradata : Bytes
  deriving DecidableEq

/-- The connection to the client. -/
structure Frontend where
  username : Bytes
  /-- the bytes the client is going to send -/
  input : Bytes
  /-- the authentication packets it has been sent -/
  sent : List AuthRequest
  authKind : Int
  pwdSize : Nat
  password : Bytes
  passwordType : PasswordType
  frontendAuthenticated : Bool
  passwordMapping : Option PasswordMapping
  poolHba : Option UserAuth
  /-- `cert_cn`, if a client certificate has been loaded -/
  certCn : Option Bytes

/-- The connection to a backend. -/
structure Backend where
  /-- the bytes the backend is going to send -/
  input : Bytes
  /-- the packets it has been sent -/
  sent : List Bytes
  /-- the codes of the authentication messages that have been read from it -/
  codes : List Int
  authKind : Int
  pwdSize : Nat
  password : Bytes
  passwordType : PasswordType

/-- The connections of a session. -/
structure AuthState where
  frontend : Frontend
  backend : Nat → Backend

/-- One more authentication packet for the client. -/
def AuthState.send (s : AuthState) (r : AuthRequest) : AuthState :=
  { s with frontend := { s.frontend with sent := s.frontend.sent ++ [r] } }

/-- The client's stream after something has been read from it. -/
def AuthState.consume (s : AuthState) (rest : Bytes) : AuthState :=
  { s with frontend := { s.frontend with input := rest } }

/-- The password the client sent in clear text is remembered. -/
def AuthState.keepPassword (s : AuthState) (password : Bytes) : AuthState :=
  { s with frontend := { s.frontend with
      authKind := authReqPassword
      pwdSize := password.length
      password
      passwordType := .plaintext } }

/-- Set `passwordMapping`. -/
def AuthState.setMapping (s : AuthState) (mapping : Option PasswordMapping) : AuthState :=
  { s with frontend := { s.frontend with passwordMapping := mapping } }

/-- Set `frontend_authenticated`. -/
def AuthState.setAuthenticated (s : AuthState) (value : Bool) : AuthState :=
  { s with frontend := { s.frontend with frontendAuthenticated := value } }

/-- A function that works on the connections and may leave with an ERROR, which does not
undo what it has done to them. -/
abbrev AuthM := EStateM Ereport AuthState

/-- A computation that leaves the connections as they are. -/
def liftExcept {σ α : Type} : Except Ereport α → EStateM Ereport σ α
  | .ok a => pure a
  | .error e => throw e

/-- Read from the client. -/
def fromFrontend {α : Type} (f : Bytes → Except Ereport (α × Bytes)) : AuthM α := do
  let s ← get
  let (a, rest) ← liftExcept (f s.frontend.input)
  set (s.consume rest)
  return a

/-- Send an authentication packet to the client. -/
def sendAuthRequest (code : Int) (extradata : Bytes) : AuthM Unit :=
  modify fun s => s.send ⟨code, extradata⟩

variable (env : Env)

/-- The C string at the start of a buffer. -/
def cstr (b : Bytes) : Bytes := b.takeWhile (· ≠ 0)

/-- The C string at an address of a buffer of `MAX_PASSWORD_SIZE` bytes and a NUL. -/
def cstrAt (m : Mem) (a : Nat) : Bytes := cstr (read m a (1025 - a))

/-- The kind of a password packet, which only the newer protocol has. -/
def skipPacketKind (input : Bytes) : Except Ereport Bytes :=
  match env.protoMajor with
  | .v2 => return input
  | .v3 => do
    let (k, rest) ← readByte input
    ereportIf (k ≠ 112) ⟨"authentication failed",
      "invalid authentication packet. password packet does not start with \"p\""⟩
    return rest

/-- `read_password_packet`: the payload of the next packet. -/
def readPasswordPacket (input : Bytes) : Except Ereport (Bytes × Bytes) := do
  let input ← skipPacketKind env input
  let (size, input) ← readInt input
  let pwdSize := ((size.ntohl.toNat : Int) - 4).bmod (2 ^ 32)
  ereportIf (1024 < pwdSize) ⟨"authentication failed",
    "invalid authentication packet. password is too long. password length is %d"⟩
  ereportIf (pwdSize ≤ 0) ⟨"authentication failed",
    "invalid authentication packet. invalid password length. password length is %d"⟩
  poolRead pwdSize.toNat input

theorem readPasswordPacket_eq_ok {env : Env} {b payload rest : Bytes}
    (h : readPasswordPacket env b = .ok (payload, rest)) :
    0 < payload.length ∧ payload.length ≤ 1024 ∧ ∃ header, b = header ++ payload ++ rest := by
  simp only [readPasswordPacket, bind_eq_ok, ereportIf_eq_ok, poolRead_eq_ok] at h
  obtain ⟨b₁, hb₁, ⟨size, b₂⟩, hsize, -, hle, -, hpos, hpayload, hlen⟩ := h
  rw [readInt_eq_ok] at hsize
  obtain ⟨kind, rfl⟩ : ∃ kind, b = kind ++ b₁ := by
    unfold skipPacketKind at hb₁
    split at hb₁
    · cases hb₁
      exact ⟨[], rfl⟩
    · simp only [bind_eq_ok] at hb₁
      obtain ⟨⟨k, b'⟩, hk, -, -, hb'⟩ := hb₁
      cases hb'
      exact ⟨[k], readByte_eq_ok.1 hk⟩
  subst hsize
  simp only at hpayload
  subst hpayload
  exact ⟨by omega, by omega, kind ++ [size.b0, size.b1, size.b2, size.b3], by simp⟩

/-- `pg_md5_encrypt` -/
def pgMd5Encrypt (passwd salt : Bytes) : Bytes := ascii "md5" ++ env.md5.hash (passwd ++ salt)

/-- A C string in memory, followed by whatever stands there. -/
def inMemory (behind : Mem) (s : Bytes) : Mem := write behind 0 (s ++ [0])

/-- `memcmp`: do the first `n` bytes differ? -/
def memcmp (m m' : Mem) (n : Nat) : Bool := read m 0 n != read m' 0 n

/-! ## The exchanges -/

/-- `get_auth_password`: password and type, from `pool_passwd` if the user is there,
otherwise from the client (first connection) or from the backend (reused connection). -/
def getAuthPassword (backend : Option Nat) (reauth : Bool) :
    AuthM (Option (Bytes × PasswordType)) := do
  modify fun s =>
    s.setMapping (s.frontend.passwordMapping <|> env.credentials s.frontend.username)
  let s ← get
  match s.frontend.passwordMapping with
  | none =>
    if reauth = false ∧ 0 < s.frontend.pwdSize ∧ s.frontend.passwordType = .plaintext then
      return some (s.frontend.password, s.frontend.passwordType)
    else match backend with
      | none => return none
      | some i =>
        if reauth = true ∧ 0 < (s.backend i).pwdSize then
          return some ((s.backend i).password, (s.backend i).passwordType)
        else return none
  | some mapping =>
    if mapping.passwordType = .textPrefixed then
      return some (mapping.password.drop (ascii "TEXT").length, .plaintext)
    else return some (mapping.password, mapping.passwordType)

/-- What the clear-text exchange compares: the text it takes for the client's password,
the stored one, and on how many bytes. -/
def clearTextOperands (username password : Bytes) (mapping : PasswordMapping) :
    Except Ereport (Bytes × Bytes × Nat) :=
  match mapping.passwordType with
  | .md5 =>
    let userPassword := pgMd5Encrypt env (cstr password) username
    .ok (userPassword, mapping.password, userPassword.length)
  | .aes =>
    match env.getDecryptedPassword mapping.password with
    | none => .error ⟨"clear text authentication failed",
        "unable to decrypt password from pool_passwd"⟩
    | some storedPassword => .ok (password, storedPassword, password.length)
  | .textPrefixed =>
    .ok (password, mapping.password.drop (ascii "TEXT").length, password.length)
  | .plaintext => .ok (password, mapping.password, password.length)
  | _ => .error ⟨"clear text authentication failed",
      "password type stored in pool_passwd can't be used for clear text authentication"⟩

/-- `authenticate_frontend_clear_text` -/
def authenticateFrontendClearText : AuthM Unit := do
  sendAuthRequest authReqPassword []
  let password ← fromFrontend (readPasswordPacket env)
  modify fun s => s.keepPassword password
  let fe := (← get).frontend
  match fe.passwordMapping with
  | none => return ()
  | some mapping => do
    let (userPwd, storedPassword, size) ←
      liftExcept (clearTextOperands env fe.username password mapping)
    ereportIf (memcmp (inMemory env.heap userPwd) (inMemory env.heap storedPassword) size = true)
      ⟨"clear text authentication failed", "password does not match"⟩
    modify fun s => s.setAuthenticated true

/-- The MD5 form of the stored password, as the MD5 exchange needs it. -/
def storedMd5 (username : Bytes) : Bytes × PasswordType → Except Ereport Bytes
  | (storedPassword, .plaintext) => .ok (pgMd5Encrypt env storedPassword username)
  | (storedPassword, .aes) =>
    match env.getDecryptedPassword storedPassword with
    | none => .error ⟨"md5 authentication failed", "unable to decrypt password from pool_passwd"⟩
    | some pwd => .ok (pgMd5Encrypt env pwd username)
  | (storedPassword, .md5) => .ok storedPassword
  | _ => .error ⟨"md5 authentication failed", "unable to get the password for \"%s\""⟩

/-- `authenticate_frontend_md5`: the answer to a random salt is compared. -/
def authenticateFrontendMd5 (backend : Option Nat) (reauth : Bool) : AuthM Unit := do
  match ← getAuthPassword env backend reauth with
  | none => throw ⟨"md5 authentication failed",
      "pool_passwd file does not contain an entry for \"%s\""⟩
  | some stored => do
    sendAuthRequest authReqMd5 env.md5Salt
    let password ← fromFrontend (readPasswordPacket env)
    let fe := (← get).frontend
    let md5 ← liftExcept (storedMd5 env fe.username stored)
    let encbuf := pgMd5Encrypt env (md5.drop (ascii "md5").length) env.md5Salt
    ereportIf (cstr password ≠ encbuf) ⟨"md5 authentication failed", "password does not match"⟩
    modify fun s => s.setAuthenticated true

/-- What one packet of the SASL exchange hands to `pg_be_scram_exchange`: the message, or
`none` if there is no initial response, and the length the packet gives for it.  The first
packet starts with the name of the mechanism. -/
def saslInput (initial : Bool) (data : Mem) (size : Nat) : Except Ereport (Option Bytes × Int) :=
  if initial then do
    let selectedMech := cstrAt data 0
    ereportIf (selectedMech ≠ ascii "SCRAM-SHA-256")
      ⟨"client selected an invalid SASL authentication mechanism", ""⟩
    let ptr := selectedMech.length + 1
    let inputlen : CInt := ⟨data ptr, data (ptr + 1), data (ptr + 2), data (ptr + 3)⟩
    if inputlen.ntohl.val = -1 then return (none, -1)
    else return (some (cstrAt data (ptr + 4)), inputlen.ntohl.val)
  else return (some (cstrAt data 0), size)

/-- The loop of `authenticate_frontend_SCRAM`.  A missing initial response, the first and
the final message: there are never more than three turns. -/
def scramLoop : Nat → Bool → Mem → ScramState → AuthM SaslResult
  | 0, _, _, _ => throw ⟨"authentication failed", ""⟩
  | n + 1, initial, data, st => do
    let payload ← fromFrontend (readPasswordPacket env)
    let data := write data 0 (payload ++ [0])
    let (input, inputlen) ← liftExcept (saslInput initial data payload.length)
    let (st, result, output) ←
      liftExcept (pgBeScramExchange env.scram env.scramNonce st input inputlen)
    match output with
    | some out =>
      sendAuthRequest (if result = .success then authReqSaslFin else authReqSaslCont) out
    | none => pure ()
    if result = .continue then scramLoop n false data st else return result

section Turns

variable {env} {initial : Bool} {data : Mem} {st : ScramState} {n k : Nat}

@[simp] theorem liftExcept_eq_ok {σ α : Type} {e : Except Ereport α} {a : α} {s s' : σ} :
    liftExcept e s = .ok a s' ↔ e = .ok a ∧ s = s' := by
  cases e with
  | ok b => simp [liftExcept, pure, EStateM.pure]
  | error e => simp [liftExcept, throw, throwThe, MonadExceptOf.throw, EStateM.throw]

@[simp] theorem ereportIf_apply_eq_ok {σ : Type} {c : Prop} [Decidable c] {e : Ereport} {u : Unit}
    {s s' : σ} : (ereportIf c e : EStateM Ereport σ Unit) s = .ok u s' ↔ ¬ c ∧ s = s' := by
  by_cases h : c
  · simp [ereportIf, h, throw, throwThe, MonadExceptOf.throw, EStateM.throw]
  · simp [ereportIf, h, pure, EStateM.pure]

theorem scramLoop_succ_congr
    (h : ∀ data' size input len st' out, saslInput initial data' size = .ok (input, len) →
      pgBeScramExchange env.scram env.scramNonce st input len = .ok (st', .continue, out) →
      scramLoop env n false data' st' = scramLoop env k false data' st') :
    scramLoop env (n + 1) initial data st = scramLoop env (k + 1) initial data st := by
  funext s
  refine EStateM.bind_apply_congr fun payload s₁ _ => ?_
  refine EStateM.bind_apply_congr fun ⟨input, len⟩ s₂ hinput => ?_
  refine EStateM.bind_apply_congr fun ⟨st', result, output⟩ s₃ hstep => ?_
  obtain ⟨hinput, -⟩ := liftExcept_eq_ok.1 hinput
  obtain ⟨hstep, -⟩ := liftExcept_eq_ok.1 hstep
  by_cases hresult : result = .continue
  · subst hresult
    cases output with
    | none => simp [h _ _ _ _ _ _ hinput hstep]
    | some out => simp [h _ _ _ _ _ _ hinput hstep]
  · simp [hresult]

theorem saslInput_false_ne_none {size : Nat} {len : Int} :
    saslInput false data size ≠ .ok (none, len) := by
  simp [saslInput, pure, Except.pure]

/-- **Three turns are enough**: a missing initial response, the first message, the final
one. -/
theorem scramLoop_ends (n : Nat) :
    scramLoop env (n + 3) true data st = scramLoop env 3 true data st := by
  -- once the salt is sent, the next message ends the exchange
  have hfinal : ∀ (n : Nat) data (st : ScramState), st.phase = .saltSent →
      scramLoop env (n + 1) false data st = scramLoop env 1 false data st := by
    intro n data st hsalt
    refine scramLoop_succ_congr fun _ _ _ _ _ _ hinput hstep => ?_
    obtain ⟨-, -, ⟨rfl, -⟩ | ⟨hinit, -⟩⟩ := pgBeScramExchange_continue hstep
    · exact absurd hinput saslInput_false_ne_none
    · rw [hsalt] at hinit
      cases hinit
  have hfirst : ∀ (n : Nat) data (st : ScramState),
      scramLoop env (n + 2) false data st = scramLoop env 2 false data st := by
    intro n data st
    refine scramLoop_succ_congr fun _ _ _ _ _ _ hinput hstep => ?_
    obtain ⟨-, -, ⟨rfl, -⟩ | ⟨-, hsalt, -⟩⟩ := pgBeScramExchange_continue hstep
    · exact absurd hinput saslInput_false_ne_none
    · exact hfinal n _ _ hsalt
  refine scramLoop_succ_congr fun _ _ _ _ _ _ _ hstep => ?_
  obtain ⟨-, -, ⟨-, rfl⟩ | ⟨-, hsalt, -⟩⟩ := pgBeScramExchange_continue hstep
  · exact hfirst n _ _
  · exact (hfinal (n + 1) _ _ hsalt).trans (hfinal 1 _ _ hsalt).symm

end Turns

/-- The plain text the SCRAM exchange needs. -/
def storedPlain : Bytes × PasswordType → Except Ereport Bytes
  | (storedPassword, .aes) =>
    match env.getDecryptedPassword storedPassword with
    | none => .error ⟨"SCRAM authentication failed", "unable to decrypt password from pool_passwd"⟩
    | some pwd => .ok pwd
  | (storedPassword, .plaintext) => .ok storedPassword
  | _ => .error ⟨"SCRAM authentication failed", "username \"%s\" has invalid password type"⟩

/-- `authenticate_frontend_SCRAM` -/
def authenticateFrontendScram (backend : Option Nat) (reauth : Bool) : AuthM Unit := do
  match ← getAuthPassword env backend reauth with
  | none => throw ⟨"SCRAM authentication failed",
      "pool_passwd file does not contain an entry for \"%s\""⟩
  | some stored => do
    let storedPassword ← liftExcept (storedPlain env stored)
    let shadowPass := pgBeScramBuildVerifier env.scram env.scramSalt storedPassword
    ereportIf (env.protoMajor = .v2)
      ⟨"SASL authentication is not supported in protocol version 2", ""⟩
    sendAuthRequest authReqSasl (ascii "SCRAM-SHA-256" ++ [0, 0])
    let result ←
      scramLoop env 3 true env.saslData (pgBeScramInit env.scram env.mockSalt (some shadowPass))
    ereportIf (result ≠ .success) ⟨"authentication failed",
      "username \"%s\" or password does not exist in backend"⟩
    modify fun s => s.setAuthenticated true

/-- `authenticate_frontend_cert`: the common name of the certificate is the user's. -/
def authenticateFrontendCert : AuthM Unit := do
  let fe := (← get).frontend
  let lower := fun b : Bytes => b.map fun c => if 65 ≤ c ∧ c ≤ 90 then c + 32 else c
  match fe.certCn with
  | some cn =>
    if lower fe.username = lower cn then
      modify fun s => s.setAuthenticated true
    else do
      modify fun s => s.setAuthenticated false
      throw ⟨"CERT authentication failed", "no valid certificate presented"⟩
  | none => throw ⟨"CERT authentication failed", "no valid certificate presented"⟩

/-- `authenticate_frontend`, by the method of the line of `pool_hba.conf`. -/
def authenticateFrontend (authMethod : UserAuth) : AuthM Unit :=
  match authMethod with
  | .md5 => authenticateFrontendMd5 env none false
  | .cert => authenticateFrontendCert
  | .scram => authenticateFrontendScram env none false
  | .password => authenticateFrontendClearText env
  | .implicitReject | .reject =>
    throw ⟨"authentication with pgpool failed for user \"%s\" rejected", ""⟩
  | .trust => modify fun s => s.setAuthenticated true

/-- The checks of `ClientAuthentication` on the password file entry. -/
def checkHbaEntry (mapping : Option PasswordMapping) : UserAuth → Except Ereport Unit
  | .implicitReject | .reject => .error ⟨"client authentication failed",
      "no pool_hba.conf entry for host \"%s\", user \"%s\", database \"%s\""⟩
  | .md5 =>
    if env.numBackends ≤ 1 then .ok ()
    else match mapping with
      | none => .error ⟨"md5 authentication failed",
          "pool_passwd file does not contain an entry for \"%s\""⟩
      | some m => ereportIf (m.passwordType ∉ [.plaintext, .md5, .textPrefixed, .aes])
          ⟨"md5 authentication failed",
            "pool_passwd file does not contain valid md5 entry for \"%s\""⟩
  | .scram =>
    match mapping with
    | none => .error ⟨"SCRAM authentication failed",
        "pool_passwd file does not contain an entry for \"%s\""⟩
    | some m => ereportIf (m.passwordType ∉ [.plaintext, .textPrefixed, .scramSha256, .aes])
        ⟨"SCRAM authentication failed",
          "pool_passwd file does not contain valid SCRAM entry for \"%s\""⟩
  | .password | .cert | .trust => .ok ()

/-- `ClientAuthentication`, once the line of `pool_hba.conf` is known. -/
def clientAuthentication (authMethod : UserAuth) : AuthM Unit := do
  modify fun s => s.setMapping (env.credentials s.frontend.username)
  let fe := (← get).frontend
  liftExcept (checkHbaEntry env fe.passwordMapping authMethod)
  authenticateFrontend env authMethod

end PgBalancer.Auth
