import PgBalancer.Lib.ByteMem

/-!
# SCRAM-SHA-256, server side

The exchange a client goes through when the pooler asks it for a SCRAM proof: the
parser of the two client messages, with its error paths, and the state machine
`pg_be_scram_exchange` drives.

* `pgBeScramExchange_success` — **the exchange succeeds only in its last state, on
  a message whose nonce continues the server's and whose proof is the one computed
  from the password the verifier was made of.**
-/

namespace PgBalancer.Auth

/-- A run of bytes. -/
abbrev Bytes := List UInt8

/-- The bytes of an ASCII literal. -/
def ascii (s : String) : Bytes := s.toList.map fun c => c.toNat.toUInt8

/-- What `ereport(ERROR, …)` carries: `errmsg` and `errdetail`, as the source's format
strings. -/
structure Ereport where
  errmsg : String
  errdetail : String
  deriving DecidableEq

/-- `if (c) ereport(ERROR, …)`. -/
def ereportIf {m : Type → Type} [Monad m] [MonadExceptOf Ereport m] (c : Prop) [Decidable c]
    (e : Ereport) : m Unit :=
  if c then throw e else pure ()

/-- The primitives of `scram-common.c`: HMAC and hash of SHA-256, base 64. -/
structure ScramCrypto where
  hmac : Bytes → Bytes → Bytes
  /-- `SCRAM_KEY_LEN` -/
  length_hmac : ∀ key msg, (hmac key msg).length = 32
  hash : Bytes → Bytes
  b64Encode : Bytes → Bytes
  b64Decode : Bytes → Option Bytes

variable (C : ScramCrypto) {a b : Bytes}

/-- Bytewise exclusive or. -/
def xorBytes (a b : Bytes) : Bytes := List.zipWith (· ^^^ ·) a b

theorem xorBytes_cancel (h : a.length = b.length) : xorBytes (xorBytes a b) b = a := by
  induction a generalizing b with
  | nil => simp [xorBytes]
  | cons x a ih =>
    cases b with
    | nil => simp at h
    | cons y b =>
      have hrest : List.zipWith (· ^^^ ·) (List.zipWith (· ^^^ ·) a b) b = a :=
        ih (by simpa using h)
      simp [xorBytes, hrest]

/-- The loop of `scram_SaltedPassword`: `Ui` is the last value, `result` the exclusive
or so far. -/
def saltedPasswordLoop (password : Bytes) : Nat → Bytes → Bytes → Bytes
  | 0, _, result => result
  | n + 1, ui, result =>
    let ui' := C.hmac password ui
    saltedPasswordLoop password n ui' (xorBytes result ui')

/-- `scram_SaltedPassword` -/
def scramSaltedPassword (password salt : Bytes) (iterations : Nat) : Bytes :=
  let u1 := C.hmac password (salt ++ [0, 0, 0, 1])
  saltedPasswordLoop C password (iterations - 1) u1 u1

/-- `scram_ClientKey` -/
def scramClientKey (saltedPassword : Bytes) : Bytes := C.hmac saltedPassword (ascii "Client Key")

/-- `scram_ServerKey` -/
def scramServerKey (saltedPassword : Bytes) : Bytes := C.hmac saltedPassword (ascii "Server Key")

/-- `SCRAM_DEFAULT_ITERATIONS` -/
def scramDefaultIterations : Nat := 4096

/-- The fields of a verifier, `SCRAM-SHA-256$<iterations>:<salt>$<StoredKey>:<ServerKey>`.
The salt is kept in base 64, as `parse_scram_verifier` hands it on. -/
structure ScramVerifier where
  iterations : Nat
  salt : Bytes
  storedKey : Bytes
  serverKey : Bytes

/-- `pg_be_scram_build_verifier`, with the random salt it draws. -/
def pgBeScramBuildVerifier (salt password : Bytes) : ScramVerifier :=
  let salted := scramSaltedPassword C password salt scramDefaultIterations
  { iterations := scramDefaultIterations
    salt := C.b64Encode salt
    storedKey := C.hash (scramClientKey C salted)
    serverKey := scramServerKey C salted }

/-- `scram_state_enum`. -/
inductive ScramPhase where
  | init
  | saltSent
  | finished
  deriving DecidableEq

/-- `scram_state`.  The user name of the first message is read and ignored, and so is
left out. -/
structure ScramState where
  phase : ScramPhase
  cbindFlag : UInt8
  verifier : ScramVerifier
  clientFirstMessageBare : Bytes
  clientNonce : Bytes
  clientFinalMessageWithoutProof : Bytes
  clientFinalNonce : Bytes
  clientProof : Bytes
  serverFirstMessage : Bytes
  serverNonce : Bytes
  doomed : Bool

/-- `mock_scram_verifier`: the salt is a hash of the user name. -/
def mockScramVerifier (mockSalt : Bytes) : ScramVerifier where
  iterations := scramDefaultIterations
  salt := C.b64Encode mockSalt
  storedKey := List.replicate 32 0
  serverKey := List.replicate 32 0

/-- `pg_be_scram_init`: without a verifier the exchange is doomed from the start. -/
def pgBeScramInit (mockSalt : Bytes) (shadowPass : Option ScramVerifier) : ScramState where
  phase := .init
  cbindFlag := 0
  verifier := shadowPass.getD (mockScramVerifier C mockSalt)
  clientFirstMessageBare := []
  clientNonce := []
  clientFinalMessageWithoutProof := []
  clientFinalNonce := []
  clientProof := []
  serverFirstMessage := []
  serverNonce := []
  doomed := shadowPass.isNone

/-! ## Reading the client's messages

The input is a C string: its end is the NUL that terminates it. -/

/-- The error for a message that cannot be read. -/
def malformed (detail : String) : Ereport := ⟨"malformed SCRAM message", detail⟩

/-- The text up to the next comma and what follows that comma. -/
def splitValue (s : Bytes) : Bytes × Bytes :=
  (s.takeWhile (· ≠ 44), (s.dropWhile (· ≠ 44)).drop 1)

/-- `read_attr_value`: the value of an attribute, and the text behind it. -/
def readAttrValue (attr : UInt8) : Bytes → Except Ereport (Bytes × Bytes)
  | c :: rest =>
    if c ≠ attr then .error (malformed "Expected attribute \"%c\" but found \"%s\".")
    else match rest with
      | 61 :: value => .ok (splitValue value)
      | _ => .error (malformed "Expected character \"=\" for attribute \"%c\".")
  | [] => .error (malformed "Expected attribute \"%c\" but found \"%s\".")

/-- `read_any_attr`: the attribute, its value and the rest. -/
def readAnyAttr : Bytes → Except Ereport (UInt8 × Bytes × Bytes)
  | attr :: rest =>
    if (65 ≤ attr ∧ attr ≤ 90) ∨ (97 ≤ attr ∧ attr ≤ 122) then
      match rest with
      | 61 :: value => .ok (attr, splitValue value)
      | _ => .error (malformed "Expected character \"=\" for attribute \"%c\".")
    else .error (malformed "Attribute expected, but found invalid character \"%s\".")
  | [] => .error (malformed "Attribute expected, but found invalid character \"%s\".")

/-- `is_scram_printable` -/
def isScramPrintable (s : Bytes) : Bool := s.all fun c => 33 ≤ c && c ≤ 126 && c != 44

/-- The extensions after the nonce of the first message: read and ignored.  An attribute
takes at least two bytes, so the length of the text bounds the number of turns. -/
def skipExtensions : Nat → Bytes → Except Ereport Unit
  | _, [] => .ok ()
  | 0, _ => .ok ()
  | n + 1, s => do
    let (_, _, rest) ← readAnyAttr s
    skipExtensions n rest

/-- `read_client_first_message` -/
def readClientFirstMessage (st : ScramState) (input : Bytes) : Except Ereport ScramState := do
  let flag := input.headD 0
  ereportIf (flag = 112)
    ⟨"client requires SCRAM channel binding, but it is not supported", ""⟩
  ereportIf (flag ≠ 110 ∧ flag ≠ 121) (malformed "Unexpected channel-binding flag \"%s\".")
  let input := input.drop 1
  ereportIf (input.headD 0 ≠ 44) (malformed "Comma expected, but found character \"%s\".")
  let input := input.drop 1
  ereportIf (input.headD 0 = 97)
    ⟨"client uses authorization identity, but it is not supported", ""⟩
  ereportIf (input.headD 0 ≠ 44)
    (malformed "Unexpected attribute \"%s\" in client-first-message.")
  let bare := input.drop 1
  ereportIf (bare.headD 0 = 109) ⟨"client requires an unsupported SCRAM extension", ""⟩
  let (_, rest) ← readAttrValue 110 bare
  let (nonce, rest) ← readAttrValue 114 rest
  ereportIf (isScramPrintable nonce = false) ⟨"non-printable characters in SCRAM nonce", ""⟩
  skipExtensions rest.length rest
  return { st with cbindFlag := flag, clientFirstMessageBare := bare, clientNonce := nonce }

/-- The loop of `read_client_final_message` that looks for the proof: its value, what
follows it, and the text the attribute stood at. -/
def readProof : Nat → Bytes → Except Ereport (Bytes × Bytes × Bytes)
  | 0, _ => .error (malformed "Attribute expected, but found invalid character \"%s\".")
  | n + 1, p => do
    let (attr, value, rest) ← readAnyAttr p
    if attr = 112 then return (value, rest, p) else readProof n rest

/-- `pg_b64_decode` into a key. -/
def decodeProof (value : Bytes) : Except Ereport Bytes := do
  let proof := (C.b64Decode value).getD []
  ereportIf (proof.length ≠ 32) (malformed "Malformed proof in client-final-message.")
  return proof

/-- `read_client_final_message` -/
def readClientFinalMessage (st : ScramState) (input : Bytes) : Except Ereport ScramState := do
  let (channelBinding, p) ← readAttrValue 99 input
  ereportIf (¬ ((channelBinding = ascii "biws" ∧ st.cbindFlag = 110) ∨
      (channelBinding = ascii "eSws" ∧ st.cbindFlag = 121)))
    ⟨"unexpected SCRAM channel-binding attribute in client-final-message", ""⟩
  let (nonce, p) ← readAttrValue 114 p
  let (value, rest, proofAt) ← readProof (p.length + 1) p
  let proof ← decodeProof C value
  ereportIf (rest ≠ []) (malformed "Garbage found at the end of client-final-message.")
  return { st with
    clientFinalNonce := nonce
    clientProof := proof
    -- everything before the comma in front of the proof
    clientFinalMessageWithoutProof := input.take (input.length - proofAt.length - 1) }

/-! ## The exchange -/

/-- `verify_final_nonce` -/
def verifyFinalNonce (st : ScramState) : Bool :=
  st.clientFinalNonce == st.clientNonce ++ st.serverNonce

/-- The text both signatures are taken of. -/
def authMessage (st : ScramState) : Bytes :=
  st.clientFirstMessageBare ++ ascii "," ++ st.serverFirstMessage ++ ascii "," ++
    st.clientFinalMessageWithoutProof

/-- `verify_client_proof`: the proof gives back a key whose hash is stored. -/
def verifyClientProof (st : ScramState) : Bool :=
  let clientSignature := C.hmac st.verifier.storedKey (authMessage st)
  let clientKey := xorBytes st.clientProof clientSignature
  C.hash clientKey == st.verifier.storedKey

/-- `build_server_first_message`, with the random nonce it draws. -/
def buildServerFirstMessage (rawNonce : Bytes) (st : ScramState) : ScramState :=
  let serverNonce := C.b64Encode rawNonce
  { st with
    serverNonce
    serverFirstMessage := ascii "r=" ++ st.clientNonce ++ serverNonce ++ ascii ",s=" ++
      st.verifier.salt ++ ascii ",i=" ++ ascii (toString st.verifier.iterations) }

/-- `build_server_final_message` -/
def buildServerFinalMessage (st : ScramState) : Bytes :=
  ascii "v=" ++ C.b64Encode (C.hmac st.verifier.serverKey (authMessage st))

/-- `SASL_EXCHANGE_CONTINUE`, `SASL_EXCHANGE_SUCCESS`, `SASL_EXCHANGE_FAILURE`. -/
inductive SaslResult where
  | continue
  | success
  | failure
  deriving DecidableEq

/-- `pg_be_scram_exchange`: the new state, the verdict and the message to send.
`input = none` is the missing initial response, `inputlen` what the packet claims. -/
def pgBeScramExchange (rawNonce : Bytes) (st : ScramState) (input : Option Bytes)
    (inputlen : Int) : Except Ereport (ScramState × SaslResult × Option Bytes) :=
  match input with
  | none => .ok (st, .continue, some [])
  | some input =>
    if inputlen = 0 then .error (malformed "The message is empty.")
    else if inputlen ≠ input.length then
      .error (malformed "Message length does not match input length.")
    else match st.phase with
      | .init => do
        let st ← readClientFirstMessage st input
        let st := buildServerFirstMessage C rawNonce st
        return ({ st with phase := .saltSent }, .continue, some st.serverFirstMessage)
      | .saltSent => do
        let st ← readClientFinalMessage C st input
        ereportIf (verifyFinalNonce st = false)
          ⟨"invalid SCRAM response", "Nonce does not match."⟩
        if !verifyClientProof C st || st.doomed then return (st, .failure, none)
        else
          return ({ st with phase := .finished }, .success, some (buildServerFinalMessage C st))
      | .finished => .error ⟨"invalid SCRAM exchange state", ""⟩

/-! ## What success means -/

/-- The key a client derives from a password and the salt of the exchange. -/
def clientKeyOf (salt password : Bytes) : Bytes :=
  scramClientKey C (scramSaltedPassword C password salt scramDefaultIterations)

/-- The proof that belongs to a password in the exchange `st`. -/
def scramProof (salt password : Bytes) (st : ScramState) : Bytes :=
  xorBytes (clientKeyOf C salt password)
    (C.hmac (pgBeScramBuildVerifier C salt password).storedKey (authMessage st))

variable {C} {st st' : ScramState} {rawNonce salt password : Bytes} {c : Prop} {e : Ereport}
  {u : Unit}

theorem bind_eq_ok {ε α β : Type} {x : Except ε α} {f : α → Except ε β} {b : β} :
    (x >>= f) = .ok b ↔ ∃ a, x = .ok a ∧ f a = .ok b := by
  cases x <;> simp [bind, Except.bind]

@[simp] theorem ereportIf_eq_ok [Decidable c] :
    (ereportIf c e : Except Ereport Unit) = .ok u ↔ ¬ c := by
  by_cases h : c <;> simp [ereportIf, h, throw, throwThe, MonadExceptOf.throw, pure, Except.pure]

/-- Reading the final message sets the nonce, the proof and the signed text only, and
the proof has the length of a key. -/
theorem readClientFinalMessage_ok {input : Bytes}
    (h : readClientFinalMessage C st input = .ok st') :
    ∃ nonce proof signed, proof.length = 32 ∧ st' = { st with
      clientFinalNonce := nonce, clientProof := proof,
      clientFinalMessageWithoutProof := signed } := by
  simp only [readClientFinalMessage, decodeProof, bind_eq_ok, ereportIf_eq_ok] at h
  obtain ⟨-, -, -, -, ⟨nonce, p⟩, -, ⟨value, rest, proofAt⟩, -, proof, ⟨-, hlen, hproof⟩, -,
    -, h⟩ := h
  cases hproof
  cases h
  exact ⟨nonce, _, _, not_not.1 hlen, rfl⟩

theorem readClientFirstMessage_ok {input : Bytes} (h : readClientFirstMessage st input = .ok st') :
    ∃ flag bare nonce, st' = { st with
      cbindFlag := flag, clientFirstMessageBare := bare, clientNonce := nonce } := by
  simp only [readClientFirstMessage, bind_eq_ok, ereportIf_eq_ok] at h
  obtain ⟨-, -, -, -, -, -, -, -, -, -, -, -, -, -, ⟨nonce, rest⟩, -, -, -, -, -, h⟩ := h
  cases h
  exact ⟨_, _, _, rfl⟩

/-- A successful exchange has had the right nonce and proof. -/
theorem pgBeScramExchange_success {input : Option Bytes} {inputlen : Int} {out : Option Bytes}
    (hverifier : st.verifier = pgBeScramBuildVerifier C salt password)
    (hideal : ∀ key, C.hash key = C.hash (clientKeyOf C salt password) →
      key = clientKeyOf C salt password)
    (h : pgBeScramExchange C rawNonce st input inputlen = .ok (st', .success, out)) :
    st.phase = .saltSent ∧ st.doomed = false ∧
      ∃ msg st₁, input = some msg ∧ readClientFinalMessage C st msg = .ok st₁ ∧
        st₁.clientFinalNonce = st.clientNonce ++ st.serverNonce ∧
        st₁.clientProof = scramProof C salt password st₁ := by
  cases input with
  | none => simp [pgBeScramExchange] at h
  | some msg =>
    simp only [pgBeScramExchange] at h
    split at h
    · cases h
    split at h
    · cases h
    split at h
    · simp [bind_eq_ok, pure, Except.pure] at h
    · next hphase =>
      simp only [bind_eq_ok, ereportIf_eq_ok, Bool.not_eq_false] at h
      obtain ⟨st₁, hread, -, hnonce, h⟩ := h
      obtain ⟨nonce, proof, signed, hlen, hst₁⟩ := readClientFinalMessage_ok hread
      split at h
      · simp [pure, Except.pure] at h
      · next hverified =>
        simp only [Bool.or_eq_true, Bool.not_eq_true', not_or, Bool.not_eq_false,
          Bool.not_eq_true] at hverified
        refine ⟨hphase, by simpa [hst₁] using hverified.2, msg, st₁, rfl, hread, ?_, ?_⟩
        · simpa [verifyFinalNonce, hst₁] using hnonce
        · -- the key behind the proof hashes to the stored key, so it is the client key
          have hkey : xorBytes st₁.clientProof
              (C.hmac (pgBeScramBuildVerifier C salt password).storedKey (authMessage st₁)) =
                clientKeyOf C salt password := by
            refine hideal _ ?_
            have hv : st₁.verifier = pgBeScramBuildVerifier C salt password := by
              rw [hst₁]; exact hverifier
            simpa [verifyClientProof, hv, pgBeScramBuildVerifier, clientKeyOf] using hverified.1
          rw [scramProof, ← hkey, xorBytes_cancel]
          rw [C.length_hmac, hst₁, hlen]
    · cases h

/-- A step that asks for more keeps the verifier, and is the missing initial response or
the first message. -/
theorem pgBeScramExchange_continue {input : Option Bytes} {inputlen : Int} {out : Option Bytes}
    (h : pgBeScramExchange C rawNonce st input inputlen = .ok (st', .continue, out)) :
    st'.verifier = st.verifier ∧ st'.doomed = st.doomed ∧
      ((input = none ∧ st' = st) ∨ (st.phase = .init ∧ st'.phase = .saltSent ∧
        st'.serverNonce = C.b64Encode rawNonce)) := by
  cases input with
  | none =>
    obtain ⟨rfl, -⟩ : st = st' ∧ _ := by simpa [pgBeScramExchange] using h
    exact ⟨rfl, rfl, .inl ⟨rfl, rfl⟩⟩
  | some msg =>
    simp only [pgBeScramExchange] at h
    split at h
    · cases h
    split at h
    · cases h
    split at h
    · next hphase =>
      simp only [bind_eq_ok] at h
      obtain ⟨st₁, hread, h⟩ := h
      obtain ⟨flag, bare, nonce, rfl⟩ := readClientFirstMessage_ok hread
      cases h
      exact ⟨rfl, rfl, .inr ⟨hphase, rfl, rfl⟩⟩
    · simp only [bind_eq_ok] at h
      obtain ⟨st₁, -, -, -, h⟩ := h
      split at h <;> simp [pure, Except.pure] at h
    · cases h

end PgBalancer.Auth
