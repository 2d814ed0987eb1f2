import PgBalancer.Auth.AllBackends
import PgBalancer.Lib.Numeral

/-!
# SCRAM-SHA-256, client side

Towards a backend the pooler is the client of a SCRAM exchange.  Two state machines take part in
it: the message loop of `do_SCRAM`, which dispatches on the code of a message alone, and
`pg_fe_scram_exchange`, which counts the messages it has been handed.  The latter checks the
signature by which the server shows that it knows the password.

* `verified_iff_two_answers` — **the server is authenticated when `do_SCRAM` returns exactly if
  two messages of the exchange have come since AuthenticationSASL**, or one has been refused.
* `selection_ends_iff` — the loop over the mechanisms of a server ends, inside of the message,
  exactly if SCRAM-SHA-256 is the last one of a list that is closed, or not in it.
-/

namespace PgBalancer.Auth

variable (C : ScramCrypto)

/-! ## The exchange -/

/-- `fe_scram_state_enum`. -/
inductive FeScramPhase where
  | init
  | nonceSent
  | proofSent
  | finished
  deriving DecidableEq

/-- `fe_scram_state` -/
structure FeScramState where
  phase : FeScramPhase
  username : Bytes
  password : Bytes
  saltedPassword : Bytes
  clientNonce : Bytes
  clientFirstMessageBare : Bytes
  clientFinalMessageWithoutProof : Bytes
  serverFirstMessage : Bytes
  /-- `salt` and `saltlen`; `none` is the length −1 of a text that is not base 64 -/
  salt : Option Bytes
  iterations : Int
  nonce : Bytes
  serverFinalMessage : Bytes
  serverSignature : Bytes

/-- `pg_fe_scram_init` -/
def pgFeScramInit (username password : Bytes) : FeScramState where
  phase := .init
  username := username
  password := password
  saltedPassword := List.replicate 32 0
  clientNonce := []
  clientFirstMessageBare := []
  clientFinalMessageWithoutProof := []
  serverFirstMessage := []
  salt := some []
  iterations := 0
  nonce := []
  serverFinalMessage := []
  serverSignature := List.replicate 32 0

/-- How a call can end other than by returning. -/
inductive Stop where
  | ereport (e : Ereport)
  /-- the process loops for ever, or reads where it has no memory -/
  | lost
  deriving DecidableEq

/-- An ERROR is one way not to return. -/
def report {α : Type} : Except Ereport α → Except Stop α
  | .ok a => .ok a
  | .error e => .error (.ereport e)

/-- `isspace` -/
def isSpace (c : UInt8) : Bool := c = 32 || (9 ≤ c && c ≤ 13)

/-- The sign in front of a numeral, and what follows it. -/
def readSign : Bytes → Int × Bytes
  | 45 :: rest => (-1, rest)
  | 43 :: rest => (1, rest)
  | s => (1, s)

/-- `strtol` with base 10: the number and `endptr`. -/
def strtol (s : Bytes) : Int × Bytes :=
  let (sign, t) := readSign (s.dropWhile isSpace)
  let digits := t.takeWhile Numeral.isDigit
  if digits = [] then (0, s)
  else
    let n : Nat := digits.foldl (fun n d => 10 * n + Numeral.digitValue d) 0
    (max (-(2 ^ 63)) (min (2 ^ 63 - 1) (sign * n)), t.dropWhile Numeral.isDigit)

/-- `build_client_first_message`, with the random nonce it draws. -/
def buildClientFirstMessage (rawNonce : Bytes) (st : FeScramState) : FeScramState × Bytes :=
  let clientNonce := C.b64Encode rawNonce
  let buf := ascii "n,,n=,r=" ++ clientNonce
  ({ st with clientNonce, clientFirstMessageBare := buf.drop 3 }, buf)

/-- The text both signatures are taken of. -/
def FeScramState.authMessage (st : FeScramState) : Bytes :=
  st.clientFirstMessageBare ++ ascii "," ++ st.serverFirstMessage ++ ascii "," ++
    st.clientFinalMessageWithoutProof

/-- `calculate_client_proof`: the state with the salted password, and the proof.  With a length
of −1 the whole address space would be hashed. -/
def calculateClientProof (st : FeScramState) : Except Stop (FeScramState × Bytes) :=
  match st.salt with
  | none => .error .lost
  | some salt =>
    let saltedPassword := scramSaltedPassword C st.password salt st.iterations.toNat
    let clientKey := scramClientKey C saltedPassword
    let storedKey := C.hash clientKey
    let clientSignature := C.hmac storedKey st.authMessage
    .ok ({ st with saltedPassword }, xorBytes clientKey clientSignature)

/-- `build_client_final_message` -/
def buildClientFinalMessage (st : FeScramState) : Except Stop (FeScramState × Bytes) := do
  let buf := ascii "c=biws,r=" ++ st.nonce
  let (st, clientProof) ← calculateClientProof C { st with clientFinalMessageWithoutProof := buf }
  return (st, buf ++ ascii ",p=" ++ C.b64Encode clientProof)

/-- `read_server_first_message`: the nonce has to begin with the client's. -/
def readServerFirstMessage (st : FeScramState) (input : Bytes) : Except Ereport FeScramState := do
  let st := { st with serverFirstMessage := input }
  let (nonce, input) ← readAttrValue 114 input
  ereportIf (¬ st.clientNonce <+: nonce)
    ⟨"invalid SCRAM response from server(nonce mismatch)", ""⟩
  let (encodedSalt, input) ← readAttrValue 115 input
  let (iterationsStr, _) ← readAttrValue 105 input
  let (n, endptr) := strtol iterationsStr
  let iterations := n.bmod (2 ^ 32)
  ereportIf (endptr ≠ [] ∨ iterations < 1)
    ⟨"malformed SCRAM message from server (invalid iteration count)", ""⟩
  return { st with nonce, salt := C.b64Decode encodedSalt, iterations }

/-- `read_server_final_message` -/
def readServerFinalMessage (st : FeScramState) (input : Bytes) : Except Ereport FeScramState := do
  let st := { st with serverFinalMessage := input }
  if input.headD 0 = 101 then do
    let _err ← readAttrValue 101 input
    throw ⟨"error received from server in SCRAM exchange: %s", ""⟩
  else do
    let (encodedServerSignature, _) ← readAttrValue 118 input
    let serverSignature := (C.b64Decode encodedServerSignature).getD []
    ereportIf (serverSignature.length ≠ 32)
      ⟨"malformed SCRAM message from server (invalid server signature)", ""⟩
    return { st with serverSignature }

/-- `verify_server_signature` -/
def verifyServerSignature (st : FeScramState) : Bool :=
  C.hmac (scramServerKey C st.saltedPassword) st.authMessage == st.serverSignature

/-- What a call of `pg_fe_scram_exchange` leaves behind: the state, `output` and the two
flags. -/
structure Exchanged where
  state : FeScramState
  output : Bytes
  done : Bool
  success : Bool

/-- The `switch` of `pg_fe_scram_exchange`. -/
def pgFeScramSwitch (rawNonce : Bytes) (st : FeScramState) (input : Bytes) :
    Except Stop Exchanged :=
  match st.phase with
  | .init =>
    let (st, output) := buildClientFirstMessage C rawNonce st
    .ok ⟨{ st with phase := .nonceSent }, output, false, false⟩
  | .nonceSent => do
    let st ← report (readServerFirstMessage C st input)
    let (st, output) ← buildClientFinalMessage C st
    return ⟨{ st with phase := .proofSent }, output, false, false⟩
  | .proofSent => do
    let st ← report (readServerFinalMessage C st input)
    report (ereportIf (verifyServerSignature C st = false) ⟨"incorrect server signature", ""⟩)
    return ⟨{ st with phase := .finished }, [], true, true⟩
  | .finished => .error (.ereport ⟨"invalid SCRAM exchange state", ""⟩)

/-- The checks `pg_fe_scram_exchange` starts with, once the handshake has begun.  The input is a
copy of the payload with a NUL behind it. -/
def checkInput (st : FeScramState) (input : Bytes) : Except Ereport Unit :=
  if st.phase = .init then .ok ()
  else do
    ereportIf (input.length = 0) ⟨"malformed SCRAM message from server (empty message)", ""⟩
    ereportIf (input.length ≠ (cstr input).length)
      ⟨"malformed SCRAM message (length mismatch)", ""⟩

/-- `pg_fe_scram_exchange` -/
def pgFeScramExchange (rawNonce : Bytes) (st : FeScramState) (input : Bytes) :
    Except Stop Exchanged := do
  report (checkInput st input)
  pgFeScramSwitch C rawNonce st (cstr input)

/-! ## The messages of the server -/

/-- A SASL exchange with a backend: the state, the packets that have been sent, and what
`pg_fe_scram_exchange` has reported at each of its calls (`done` and `success`). -/
structure Exchange where
  state : FeScramState
  sent : List Bytes
  reports : List (Bool × Bool)

/-- `SCRAM_SHA_256_NAME` -/
def scramSha256Name : Bytes := ascii "SCRAM-SHA-256"

/-- `mechanism_buf += strlen(mechanism_buf) + 1` -/
def nextName (memory : Bytes) : Bytes := memory.drop ((cstr memory).length + 1)

/-- The loop of `pg_SASL_init` over the names of mechanisms that stand in memory.  Once a
mechanism is selected, the loop no longer advances. -/
def selectMechanism (username password : Bytes) :
    Nat → Option FeScramState → Bytes → Except Stop FeScramState
  | 0, _, _ => .error .lost
  | _, _, [] => .error .lost
  | n + 1, selected, c :: memory =>
    if c = 0 then
      match selected with
      | some st => .ok st
      | none => .error (.ereport
          ⟨"none of the server's SASL authentication mechanisms are supported\n", ""⟩)
    else if selected.isSome then .error .lost
    else if cstr (c :: memory) = scramSha256Name then do
      report (ereportIf (password.headD 0 = 0) ⟨"password not found", ""⟩)
      selectMechanism username password n (some (pgFeScramInit username password))
        (nextName (c :: memory))
    else selectMechanism username password n none (nextName (c :: memory))

/-- The names are read from the payload on, to wherever a name ends. -/
def initialMechanism (stack payload username password : Bytes) : Except Stop FeScramState :=
  selectMechanism username password ((payload ++ stack).length + 1) none (payload ++ stack)

/-- A password packet: the kind, the length and the data. -/
def saslPacket (data : Bytes) : Bytes := ascii "p" ++ htonl (data.length + 4) ++ data

/-- `pg_SASL_init`; `stack` is the memory behind the payload. -/
def pgSaslInit (rawNonce stack payload username password : Bytes) : Except Stop Exchange := do
  let st ← initialMechanism stack payload username password
  let x ← pgFeScramExchange C rawNonce st []
  report (ereportIf (x.done = true ∧ x.success = false) ⟨"SASL authentication error", ""⟩)
  return ⟨x.state, [saslPacket (scramSha256Name ++ [0] ++ htonl x.output.length ++ x.output)],
    [(x.done, x.success)]⟩

/-- `pg_SASL_continue`, with the value it returns. -/
def pgSaslContinue (ex : Exchange) (payload : Bytes) (final : Bool) :
    Except Stop (Exchange × Int) := do
  let x ← pgFeScramExchange C [] ex.state payload
  let reports := ex.reports ++ [(x.done, x.success)]
  report (ereportIf (final = true ∧ x.done = false) ⟨"AuthenticationSASLFinal received from " ++
    "server, but SASL authentication was not completed", ""⟩)
  if x.output.length ≠ 0 then return (⟨x.state, ex.sent ++ [saslPacket x.output], reports⟩, 0)
  else if x.done = true ∧ x.success = false then return (⟨x.state, ex.sent, reports⟩, -1)
  else return (⟨x.state, ex.sent, reports⟩, 0)

/-- The exchange as `do_SCRAM` makes use of it.  The nonce that is drawn and the memory behind
the payload are any functions of the payload. -/
def scramClient (rawNonce stack : Bytes → Bytes) : SaslClient where
  State := Exchange
  init payload username password :=
    match pgSaslInit C (rawNonce payload) (stack payload) payload username password with
    | .ok ex => some ex
    | .error _ => none
  step ex payload final :=
    match pgSaslContinue C ex payload final with
    | .ok (ex, result) => if result = 0 then some ex else none
    | .error _ => none

/-- The same backends, with this client side of SCRAM. -/
def Nodes.withScram (nodes : Nodes) (client : SaslClient) : Nodes := { nodes with sasl := client }

/-- An authentication message of a server: kind `R`, length, code and payload. -/
structure AuthMessage where
  length : CInt
  code : CInt
  payload : Bytes
  length_eq : length.ntohl.val = payload.length + 8

namespace AuthMessage

/-- The code as `do_SCRAM` sees it. -/
def kind (m : AuthMessage) : Int := m.code.ntohl.val

/-- The header of the message. -/
def header (m : AuthMessage) : Bytes :=
  [82, m.length.b0, m.length.b1, m.length.b2, m.length.b3,
    m.code.b0, m.code.b1, m.code.b2, m.code.b3]

/-- The bytes of a message. -/
def wire (m : AuthMessage) : Bytes := m.header ++ m.payload

/-- The number of messages of the exchange since the last AuthenticationSASL, if there have been
`k` before. -/
def sinceSasl : Nat → List AuthMessage → Nat
  | k, [] => k
  | k, m :: ms =>
    if m.kind = authReqSasl then sinceSasl 0 ms
    else if m.kind = authReqSaslCont ∨ m.kind = authReqSaslFin then sinceSasl (k + 1) ms
    else sinceSasl k ms

end AuthMessage

/-- The exchange after a sequence of messages, each dispatched by its code. -/
def exchangeAfter (nodes : Nodes) (username password : Bytes) :
    Option nodes.sasl.State → List AuthMessage → Except Ereport (Option nodes.sasl.State)
  | st, [] => .ok st
  | st, m :: ms => do
    let st' ← saslAnswer nodes username password m.payload m.kind st
    exchangeAfter nodes username password (some st') ms

/-! ## The steps of the exchange -/

section Steps

variable {C} {st : FeScramState} {rawNonce stack input : Bytes} {x : Exchanged}

@[simp] theorem report_eq_ok {α : Type} {r : Except Ereport α} {a : α} :
    report r = .ok a ↔ r = .ok a := by
  cases r <;> simp [report]

/-- **What a call of `pg_fe_scram_exchange` can do**: it takes one of three steps, and reports
success in the last one only, after it has verified the signature. -/
theorem pgFeScramExchange_ok (h : pgFeScramExchange C rawNonce st input = .ok x) :
    (st.phase = .init ∧ x.state.phase = .nonceSent ∧ x.done = false ∧ x.success = false) ∨
    (st.phase = .nonceSent ∧ x.state.phase = .proofSent ∧ x.done = false ∧ x.success = false) ∨
    (st.phase = .proofSent ∧ x.state.phase = .finished ∧ x.done = true ∧ x.success = true ∧
      verifyServerSignature C x.state = true) := by
  simp only [pgFeScramExchange, bind_eq_ok] at h
  obtain ⟨-, -, h⟩ := h
  unfold pgFeScramSwitch at h
  split at h
  · next hphase =>
    cases h
    exact .inl ⟨hphase, rfl, rfl, rfl⟩
  · next hphase =>
    simp only [bind_eq_ok] at h
    obtain ⟨st₁, -, ⟨st₂, output⟩, -, h⟩ := h
    cases h
    exact .inr (.inl ⟨hphase, rfl, rfl, rfl⟩)
  · next hphase =>
    simp only [bind_eq_ok, report_eq_ok, ereportIf_eq_ok, Bool.not_eq_false] at h
    obtain ⟨st₁, -, -, hverified, h⟩ := h
    cases h
    exact .inr (.inr ⟨hphase, rfl, rfl, rfl, hverified⟩)
  · cases h

/-- The state an exchange is in that has been handed `k` messages, and what has been
reported. -/
def Reached (C : ScramCrypto) : Nat → Exchange → Prop
  | 0, ex => ex.state.phase = .nonceSent ∧ ex.reports = [(false, false)]
  | 1, ex => ex.state.phase = .proofSent ∧ ex.reports = [(false, false), (false, false)]
  | 2, ex => ex.state.phase = .finished ∧
      ex.reports = [(false, false), (false, false), (true, true)] ∧
      verifyServerSignature C ex.state = true
  | _, _ => False

/-- The server's signature has been verified exactly if both messages have come. -/
theorem Reached.verified_iff {k : Nat} {ex : Exchange} (h : Reached C k ex) :
    (true, true) ∈ ex.reports ↔ k = 2 := by
  match k, h with
  | 0, h => simp [h.2]
  | 1, h => simp [h.2]
  | 2, h => simp [h.2.1]

theorem selectMechanism_phase {username password memory : Bytes} {n : Nat}
    {selected : Option FeScramState} (hselected : ∀ st ∈ selected, st.phase = .init)
    (h : selectMechanism username password n selected memory = .ok st) : st.phase = .init := by
  induction n generalizing selected memory with
  | zero => cases h
  | succ n ih =>
    cases memory with
    | nil => cases h
    | cons c memory =>
      unfold selectMechanism at h
      split at h
      · cases selected with
        | none => cases h
        | some st₀ =>
          cases h
          exact hselected st rfl
      split at h
      · cases h
      split at h
      · simp only [bind_eq_ok] at h
        obtain ⟨-, -, h⟩ := h
        refine ih ?_ h
        rintro _ ⟨⟩
        rfl
      · exact ih (by simp) h

theorem pgSaslInit_reached {payload username password : Bytes} {ex : Exchange}
    (h : pgSaslInit C rawNonce stack payload username password = .ok ex) : Reached C 0 ex := by
  simp only [pgSaslInit, bind_eq_ok] at h
  obtain ⟨st, hst, x, hx, -, -, h⟩ := h
  cases h
  have hinit : st.phase = .init := selectMechanism_phase (by simp) hst
  rcases pgFeScramExchange_ok hx with ⟨-, hphase, hdone, hsuccess⟩ | ⟨hphase, -⟩ | ⟨hphase, -⟩
  · exact ⟨hphase, by rw [hdone, hsuccess]⟩
  · cases hinit.symm.trans hphase
  · cases hinit.symm.trans hphase

/-- What `pg_SASL_continue` does to the exchange is what `pg_fe_scram_exchange` has done. -/
theorem pgSaslContinue_ok {ex ex' : Exchange} {payload : Bytes} {final : Bool} {result : Int}
    (h : pgSaslContinue C ex payload final = .ok (ex', result)) :
    ∃ x, pgFeScramExchange C [] ex.state payload = .ok x ∧ ex'.state = x.state ∧
      ex'.reports = ex.reports ++ [(x.done, x.success)] := by
  simp only [pgSaslContinue, bind_eq_ok] at h
  obtain ⟨x, hx, -, -, h⟩ := h
  refine ⟨x, hx, ?_⟩
  split_ifs at h
  all_goals
    cases h
    exact ⟨rfl, rfl⟩

theorem pgSaslContinue_reached {ex ex' : Exchange} {payload : Bytes} {final : Bool} {result : Int}
    {k : Nat} (hk : Reached C k ex) (h : pgSaslContinue C ex payload final = .ok (ex', result)) :
    Reached C (k + 1) ex' := by
  obtain ⟨x, hx, hstate, hreports⟩ := pgSaslContinue_ok h
  have hstep := pgFeScramExchange_ok hx
  match k, hk with
  | 0, ⟨hphase, hbefore⟩ =>
    simp only [hphase, reduceCtorEq, false_and, true_and, false_or, or_false] at hstep
    obtain ⟨hphase', hdone, hsuccess⟩ := hstep
    exact ⟨hstate ▸ hphase', by rw [hreports, hbefore, hdone, hsuccess]; rfl⟩
  | 1, ⟨hphase, hbefore⟩ =>
    simp only [hphase, reduceCtorEq, false_and, true_and, false_or] at hstep
    obtain ⟨hphase', hdone, hsuccess, hverified⟩ := hstep
    exact ⟨hstate ▸ hphase', by rw [hreports, hbefore, hdone, hsuccess]; rfl, hstate ▸ hverified⟩
  | 2, ⟨hphase, _⟩ =>
    -- a third message finds the exchange finished
    simp [hphase] at hstep

end Steps

/-! ## The message loop -/

section Loop

variable {C} {nodes : Nodes} {rawNonce stack : Bytes → Bytes} {username password : Bytes}

theorem scramClient_init_eq_some {payload : Bytes} {ex : Exchange}
    (h : (scramClient C rawNonce stack).init payload username password = some ex) :
    pgSaslInit C (rawNonce payload) (stack payload) payload username password = .ok ex := by
  simp only [scramClient] at h
  split at h
  · next hinit =>
    cases h
    exact hinit
  · cases h

theorem scramClient_step_eq_some {payload : Bytes} {final : Bool} {ex ex' : Exchange}
    (h : (scramClient C rawNonce stack).step ex payload final = some ex') :
    pgSaslContinue C ex payload final = .ok (ex', 0) := by
  simp only [scramClient] at h
  split at h
  · next hstep =>
    split at h
    · next hresult =>
      cases h
      exact hresult ▸ hstep
    · cases h
  · cases h

/-- What a message of the exchange leads to. -/
theorem saslAnswer_ok {payload : Bytes} {kind : Int} {st : Option nodes.sasl.State}
    {st' : nodes.sasl.State} (h : saslAnswer nodes username password payload kind st = .ok st') :
    (kind = authReqSasl ∧ nodes.sasl.init payload username password = some st') ∨
    ((kind = authReqSaslCont ∨ kind = authReqSaslFin) ∧
      ∃ st₀, st = some st₀ ∧ nodes.sasl.step st₀ payload (kind = authReqSaslFin) = some st') := by
  unfold saslAnswer at h
  split at h
  · next hsasl =>
    split at h
    · cases h
    · next hinit =>
      cases h
      exact .inl ⟨hsasl, hinit⟩
  split at h
  · next hkind =>
    split at h
    · cases h
    split at h
    · cases h
    · next hstep =>
      cases h
      exact .inr ⟨hkind, _, rfl, hstep⟩
  · cases h

theorem saslAnswer_reached {m : AuthMessage} {k : Nat} {st : Option Exchange} {ex : Exchange}
    (hst : ∀ ex ∈ st, Reached C k ex)
    (h : saslAnswer (nodes.withScram (scramClient C rawNonce stack)) username password m.payload
      m.kind st = .ok ex) : Reached C (AuthMessage.sinceSasl k [m]) ex := by
  rcases saslAnswer_ok h with ⟨hsasl, hinit⟩ | ⟨hkind, ex₀, rfl, hstep⟩
  · simp only [AuthMessage.sinceSasl, if_pos hsasl]
    exact pgSaslInit_reached (scramClient_init_eq_some hinit)
  · have hsasl : m.kind ≠ authReqSasl := by
      rcases hkind with h | h <;> rw [h] <;> decide
    simp only [AuthMessage.sinceSasl, if_neg hsasl, if_pos hkind]
    exact pgSaslContinue_reached (hst ex₀ rfl) (scramClient_step_eq_some hstep)

theorem AuthMessage.sinceSasl_cons (k : Nat) (m : AuthMessage) (ms : List AuthMessage) :
    sinceSasl k (m :: ms) = sinceSasl (sinceSasl k [m]) ms := by
  simp only [sinceSasl]
  split_ifs <;> rfl

/-- A sequence of messages: how far the exchange has come is the number of its messages since the
last AuthenticationSASL. -/
theorem exchangeAfter_reached {msgs : List AuthMessage} {k : Nat} {ex : Exchange}
    {st : Option Exchange} (hk : Reached C k ex)
    (h : exchangeAfter (nodes.withScram (scramClient C rawNonce stack)) username password (some ex)
      msgs = .ok st) : ∃ ex', st = some ex' ∧ Reached C (AuthMessage.sinceSasl k msgs) ex' := by
  induction msgs generalizing k ex with
  | nil =>
    cases h
    exact ⟨ex, rfl, hk⟩
  | cons m msgs ih =>
    obtain ⟨ex₁, hfirst, hrest⟩ := bind_eq_ok.1 h
    rw [AuthMessage.sinceSasl_cons]
    refine ih (saslAnswer_reached ?_ hfirst) hrest
    rintro _ ⟨⟩
    exact hk

theorem fromBackend_ok {α : Type} {i : Nat} {f : Bytes → Except Ereport (α × Bytes)} {a : α}
    {b : Backends} {rest : Bytes} (h : f (b i).input = .ok (a, rest)) :
    ∃ b', fromBackend i f b = .ok a b' ∧ (b' i).input = rest := by
  refine ⟨Function.update b i { b i with input := rest }, ?_, by simp⟩
  simp only [fromBackend, EStateM.bind_eq_ok]
  exact ⟨b, b, rfl, (a, rest), b, liftExcept_eq_ok.2 ⟨h, rfl⟩, (), _, rfl, rfl⟩

theorem readAuthHeader_ok {i : Nat} {m : AuthMessage} {tail : Bytes} {b : Backends}
    (hinput : (b i).input = m.wire ++ tail) :
    ∃ b', readAuthHeader i b = .ok (m.payload.length + 8, m.kind) b' ∧
      (b' i).input = m.payload ++ tail := by
  obtain ⟨b₁, hkind, h₁⟩ := fromBackend_ok (readByte_eq_ok.2 hinput)
  obtain ⟨b₂, hlength, h₂⟩ := fromBackend_ok (readInt_eq_ok.2 h₁)
  obtain ⟨b₃, hcode, h₃⟩ := fromBackend_ok (readInt_eq_ok.2 h₂)
  refine ⟨Function.update b₃ i { b₃ i with codes := (b₃ i).codes ++ [m.kind] }, ?_, by simp [h₃]⟩
  have hlong : ¬ m.length.ntohl.val < 8 := by
    rw [m.length_eq]
    omega
  simp only [readAuthHeader, readCode, EStateM.bind_eq_ok, ereportIf_apply_eq_ok]
  refine ⟨_, b₁, hkind, _, b₂, hlength, (), b₂, ⟨by simp, rfl⟩, (), b₂, ⟨hlong, rfl⟩,
    m.code, _, ⟨m.code, b₃, hcode, (), _, rfl, rfl⟩, ?_⟩
  rw [← m.length_eq]
  rfl

section Turns

variable (username password) (n : Nat) (st : Option nodes.sasl.State) {i : Nat} {m m' : AuthMessage}
  {tail : Bytes} {b : Backends}

/-- The turn in which AuthenticationOk has come: the loop returns. -/
theorem doScramLoop_authOk (hm : m.kind = authReqOk) (hinput : (b i).input = m.payload ++ tail) :
    ∃ b₁, (b₁ i).input = tail ∧ ∀ b', doScramLoop nodes i username password (n + 1) m.kind
      m.payload.length st b = .ok () b' ↔ m.payload.length ≤ 1024 ∧ b' = b₁ := by
  obtain ⟨b₁, hpayload, hb₁⟩ := fromBackend_ok (poolRead_eq_ok.2 ⟨hinput, rfl⟩)
  refine ⟨Function.update b₁ i { b₁ i with authKind := authReqSasl }, by simp [hb₁], fun b' => ?_⟩
  simp only [doScramLoop, EStateM.bind_eq_ok, ereportIf_apply_eq_ok, Int.toNat_natCast, if_pos hm]
  constructor
  · rintro ⟨-, _, ⟨hsize, rfl⟩, payload, b₂, hread, hset⟩
    cases hpayload.symm.trans hread
    cases hset
    exact ⟨by omega, rfl⟩
  · rintro ⟨hsize, rfl⟩
    exact ⟨(), b, ⟨by omega, rfl⟩, _, b₁, hpayload, rfl⟩

/-- Any other turn: the `switch` accepts the message, and the header of the next one is read. -/
theorem doScramLoop_next (hm : m.kind ≠ authReqOk)
    (hinput : (b i).input = m.payload ++ (m'.wire ++ tail)) :
    ∃ b₁, (b₁ i).input = m'.payload ++ tail ∧ ∀ b', doScramLoop nodes i username password (n + 1)
      m.kind m.payload.length st b = .ok () b' ↔ m.payload.length ≤ 1024 ∧ ∃ st',
        saslAnswer nodes username password m.payload m.kind st = .ok st' ∧ doScramLoop nodes i
          username password n m'.kind m'.payload.length (some st') b₁ = .ok () b' := by
  obtain ⟨b₁, hpayload, hb₁⟩ := fromBackend_ok (poolRead_eq_ok.2 ⟨hinput, rfl⟩)
  obtain ⟨b₂, hheader, hb₂⟩ := readAuthHeader_ok hb₁
  have hlen : (m'.payload.length : Int) + 8 - 4 - 4 = m'.payload.length := by omega
  refine ⟨b₂, hb₂, fun b' => ?_⟩
  simp only [doScramLoop, EStateM.bind_eq_ok, ereportIf_apply_eq_ok, Int.toNat_natCast, if_neg hm,
    liftExcept_eq_ok]
  constructor
  · rintro ⟨-, _, ⟨hsize, rfl⟩, payload, b₃, hread, st', _, ⟨hanswer, rfl⟩, ⟨len, kind⟩, b₄, hnext,
      hloop⟩
    cases hpayload.symm.trans hread
    cases hheader.symm.trans hnext
    exact ⟨by omega, st', hanswer, hlen ▸ hloop⟩
  · rintro ⟨hsize, st', hanswer, hloop⟩
    exact ⟨(), b, ⟨by omega, rfl⟩, _, b₁, hpayload, st', b₁, ⟨hanswer, rfl⟩, _, b₂, hheader,
      hlen.symm ▸ hloop⟩

end Turns

/-- **The message loop, as a function of the messages.**  If it returns, it does so at the first
AuthenticationOk; and it does exactly if no payload is too long and the `switch` accepts each
message before that. -/
theorem doScramLoop_stream (username password : Bytes) {i n : Nat} {before : List AuthMessage}
    {ok m : AuthMessage} {next : List AuthMessage} {rest : Bytes} {b : Backends}
    (st : Option nodes.sasl.State)
    (hok : ok.kind = authReqOk) (hbefore : ∀ m ∈ before, m.kind ≠ authReqOk)
    (hmsgs : before ++ [ok] = m :: next) (hfuel : before.length < n)
    (hinput : (b i).input = m.payload ++ (next.flatMap AuthMessage.wire ++ rest)) :
    (∀ b', doScramLoop nodes i username password n m.kind m.payload.length st b = .ok () b' →
      (b' i).input = rest) ∧
    ((∃ b', doScramLoop nodes i username password n m.kind m.payload.length st b = .ok () b') ↔
      (∀ m ∈ before ++ [ok], m.payload.length ≤ 1024) ∧
        ∃ st', exchangeAfter nodes username password st before = .ok st') := by
  induction before generalizing n m next st b with
  | nil =>
    obtain ⟨rfl, rfl⟩ : ok = m ∧ [] = next := List.cons.inj hmsgs
    obtain ⟨n, rfl⟩ := Nat.exists_eq_succ_of_ne_zero (Nat.ne_zero_of_lt hfuel)
    obtain ⟨b₁, hb₁, hloop⟩ := doScramLoop_authOk username password n st hok hinput
    simp only [hloop]
    exact ⟨by simp [hb₁], by simp [exchangeAfter]⟩
  | cons m₀ before ih =>
    obtain ⟨rfl, rfl⟩ : m₀ = m ∧ before ++ [ok] = next := List.cons.inj hmsgs
    obtain ⟨n, rfl⟩ := Nat.exists_eq_succ_of_ne_zero (Nat.ne_zero_of_lt hfuel)
    -- the next message, which may be the AuthenticationOk
    obtain ⟨m₁, next, hnext⟩ : ∃ m₁ next, before ++ [ok] = m₁ :: next :=
      List.exists_cons_of_ne_nil (by simp)
    rw [hnext, List.flatMap_cons, List.append_assoc] at hinput
    obtain ⟨b₁, hb₁, hloop⟩ := doScramLoop_next username password n st (hbefore m₀ (by simp)) hinput
    have ih := fun st' => ih (some st') (fun m hm => hbefore m (by simp [hm])) hnext
      (Nat.lt_of_succ_lt_succ hfuel) hb₁
    simp only [hloop]
    refine ⟨fun b' ⟨_, st', _, h⟩ => (ih st').1 b' h, ?_⟩
    rw [List.cons_append, List.forall_mem_cons]
    simp only [exchangeAfter, bind_eq_ok]
    constructor
    · rintro ⟨b', hsize, st', hanswer, h⟩
      obtain ⟨hsizes, st'', hst''⟩ := (ih st').2.1 ⟨b', h⟩
      exact ⟨⟨hsize, hsizes⟩, st'', st', hanswer, hst''⟩
    · rintro ⟨⟨hsize, hsizes⟩, st'', st', hanswer, hst''⟩
      obtain ⟨b', h⟩ := (ih st').2.2 ⟨hsizes, st'', hst''⟩
      exact ⟨b', hsize, st', hanswer, h⟩

end Loop

/-! ## `do_SCRAM` -/

variable (env : Env) (nodes : Nodes) (rawNonce stack : Bytes → Bytes)

/-- Once the client has been authenticated, `do_SCRAM` is its message loop. -/
theorem doScram_eq_ok_iff (messageLength : Int) (password : Bytes) {i : Nat} {s s₁ : AuthState}
    (hclient : authenticateAtMain env nodes (authenticateFrontendScram env (some i) false) i s =
      .ok () s₁) (s' : AuthState) :
    doScram env nodes i messageLength password s = .ok () s' ↔
      doScramLoop nodes i s₁.frontend.username password ((s₁.backend i).input.length + 1)
        authReqSasl
        (messageLength - 4 - 4) none s₁.backend = .ok () s'.backend ∧
          s'.frontend = s₁.frontend := by
  simp only [doScram, EStateM.bind_eq_ok]
  constructor
  · rintro ⟨_, s₂, hmain, s₃, s₄, hget, hloop⟩
    cases hclient.symm.trans hmain
    cases hget
    exact onBackends_eq_ok.1 hloop
  · exact fun h => ⟨(), s₁, hclient, s₁, s₁, rfl, onBackends_eq_ok.2 h⟩

theorem authenticateAtMain_input {i : Nat} {s s₁ : AuthState}
    (hclient : authenticateAtMain env nodes (authenticateFrontendScram env (some i) false) i s =
      .ok () s₁) : (s₁.backend i).input = (s.backend i).input := by
  have hquiet := EStateM.ok_of_triple (authenticateAtMain_quiet env nodes (wire s.backend)
    s.frontend.oks False (authenticateFrontendScram_quiet env _ _ (some i) false) i)
    ⟨⟨rfl, rfl⟩, False.elim⟩ hclient
  exact congrFun (congrArg Wire.input hquiet.1.wire) i

theorem length_le_wires (msgs : List AuthMessage) :
    msgs.length ≤ (msgs.flatMap AuthMessage.wire).length := by
  induction msgs with
  | nil => exact le_rfl
  | cons m msgs ih =>
    simp only [List.length_cons, List.flatMap_cons, List.length_append, AuthMessage.wire,
      AuthMessage.header]
    omega

/-- One of the messages up to AuthenticationOk is too long, or the `switch` refuses it. -/
def Refused (username password : Bytes) (msgs : List AuthMessage) (ok : AuthMessage) : Prop :=
  (∃ m ∈ msgs ++ [ok], 1024 < m.payload.length) ∨
    ∀ st, exchangeAfter nodes username password none msgs ≠ .ok st

theorem not_refused_iff {username password : Bytes} {msgs : List AuthMessage} {ok : AuthMessage} :
    ¬ Refused nodes username password msgs ok ↔
      (∀ m ∈ msgs ++ [ok], m.payload.length ≤ 1024) ∧
        ∃ st, exchangeAfter nodes username password none msgs = .ok st := by
  unfold Refused
  push Not
  rfl

/-- **`do_SCRAM`, as a function of the messages**: it returns exactly if none is refused. -/
theorem doScram_stream (password : Bytes) {i : Nat} {first ok : AuthMessage}
    {before : List AuthMessage} {rest : Bytes} {s s₁ : AuthState}
    (hfirst : first.kind = authReqSasl) (hok : ok.kind = authReqOk)
    (hbefore : ∀ m ∈ before, m.kind ≠ authReqOk) (hinput : (s.backend i).input =
      first.payload ++ ((before ++ [ok]).flatMap AuthMessage.wire ++ rest))
    (hclient : authenticateAtMain env nodes (authenticateFrontendScram env (some i) false) i s =
      .ok () s₁) :
    (∀ s', doScram env nodes i (first.payload.length + 8) password s = .ok () s' →
      (s'.backend i).input = rest) ∧
    ((doScram env nodes i (first.payload.length + 8) password).returns s ↔
      ¬ Refused nodes s₁.frontend.username password (first :: before) ok) := by
  have hkinds : ∀ m ∈ first :: before, m.kind ≠ authReqOk := by
    refine List.forall_mem_cons.2 ⟨?_, hbefore⟩
    rw [hfirst]
    decide
  have hinput₁ := (authenticateAtMain_input env nodes hclient).trans hinput
  have hfuel : (first :: before).length < (s₁.backend i).input.length + 1 := by
    have := length_le_wires (before ++ [ok])
    simp only [hinput₁, List.length_append, List.length_cons] at this ⊢
    omega
  have hlength : (first.payload.length : Int) + 8 - 4 - 4 = first.payload.length := by omega
  have hloop := doScram_eq_ok_iff env nodes (first.payload.length + 8) password hclient
  rw [hlength, ← hfirst] at hloop
  obtain ⟨hend, hreturns⟩ := doScramLoop_stream s₁.frontend.username password none hok hkinds rfl
    hfuel hinput₁
  refine ⟨fun s' h => hend _ ((hloop s').1 h).1, ?_⟩
  rw [not_refused_iff, ← hreturns]
  constructor
  · rintro ⟨_, s', h⟩
    exact ⟨_, ((hloop s').1 h).1⟩
  · rintro ⟨b', h⟩
    exact ⟨(), ⟨s₁.frontend, b'⟩, (hloop _).2 ⟨h, rfl⟩⟩

/-- **Is the server authenticated when `do_SCRAM` returns?**  Let `before` be whatever messages it
sends between the first AuthenticationSASL and the first AuthenticationOk.  `do_SCRAM` returns, at
that AuthenticationOk, exactly if none of them is refused; and the server's signature has been
verified in the current exchange whenever it returns, exactly if one is refused, or two messages of
that exchange have come: the challenge and the final message. -/
theorem verified_iff_two_answers (password : Bytes) {i : Nat} {first ok : AuthMessage}
    {before : List AuthMessage} {rest : Bytes} {s s₁ : AuthState}
    (hfirst : first.kind = authReqSasl) (hok : ok.kind = authReqOk)
    (hbefore : ∀ m ∈ before, m.kind ≠ authReqOk) (hinput : (s.backend i).input =
      first.payload ++ ((before ++ [ok]).flatMap AuthMessage.wire ++ rest))
    (hclient : authenticateAtMain env (nodes.withScram (scramClient env.scram rawNonce stack))
      (authenticateFrontendScram env (some i) false) i s = .ok () s₁) :
    let nodes := nodes.withScram (scramClient env.scram rawNonce stack)
    let doScram := doScram env nodes i (first.payload.length + 8) password
    let refused := Refused nodes s₁.frontend.username password (first :: before) ok
    (∀ s', doScram s = .ok () s' → (s'.backend i).input = rest) ∧
    (doScram.returns s ↔ ¬ refused) ∧
    ((doScram.returns s → ∃ ex : Exchange, exchangeAfter nodes s₁.frontend.username password none
        (first :: before) = .ok (some ex) ∧ (true, true) ∈ ex.reports) ↔
      refused ∨ AuthMessage.sinceSasl 0 before = 2) := by
  intro nodes doScram refused
  obtain ⟨hend, hreturns⟩ := doScram_stream env nodes password hfirst hok hbefore hinput hclient
  refine ⟨hend, hreturns, ?_⟩
  by_cases hrefused : refused
  · exact iff_of_true (fun h => absurd hrefused (hreturns.1 h)) (.inl hrefused)
  -- the exchange has gone as far as messages of it have come
  obtain ⟨-, st, hst⟩ := (not_refused_iff nodes).1 hrefused
  obtain ⟨ex₀, hinit, hrest⟩ := bind_eq_ok.1 hst
  have hnone : ∀ ex ∈ (none : Option Exchange), Reached env.scram 0 ex := by simp
  have hreached := saslAnswer_reached hnone hinit
  simp only [AuthMessage.sinceSasl, if_pos hfirst] at hreached
  obtain ⟨ex, rfl, hex⟩ := exchangeAfter_reached hreached hrest
  rw [← hex.verified_iff]
  constructor
  · intro h
    obtain ⟨ex', hex', hverified⟩ := h (hreturns.2 hrefused)
    cases hst.symm.trans hex'
    exact .inr hverified
  · exact fun h _ => ⟨ex, hst, h.resolve_left hrefused⟩

/-! ### A server of one mechanism -/

/-- A code in network byte order. -/
def codeOf (n : UInt8) : CInt := ⟨0, 0, 0, n⟩

/-- A message of at most 247 bytes of payload. -/
def shortMessage (code : UInt8) (payload : Bytes) (h : payload.length < 248) : AuthMessage where
  length := codeOf (UInt8.ofNat (payload.length + 8))
  code := codeOf code
  payload := payload
  length_eq := by
    have hlt : (payload.length + 8) % 256 = payload.length + 8 := Nat.mod_eq_of_lt (by omega)
    simp [codeOf, CInt.ntohl, CInt.val, CInt.toNat, hlt]
    omega

/-- AuthenticationSASL with the mechanism SCRAM-SHA-256. -/
def saslRequest : AuthMessage := shortMessage 10 (scramSha256Name ++ [0, 0]) (by decide)

/-- The message without a payload that ends the exchange. -/
def authenticationOk : AuthMessage := shortMessage 0 [] (by decide)

/-- A challenge whose nonce is the client's, `n`, and one more letter. -/
def challenge : AuthMessage := shortMessage 11 (ascii "r=nx,s=salt,i=1") (by decide)

/-- The final message, with a signature of 32 letters. -/
def finalMessage : AuthMessage :=
  shortMessage 12 (ascii "v=" ++ List.replicate 32 65) (by decide)

/-- Signatures are 32 letters `A`. -/
def letterEnv : Env :=
  { aliceEnv with scram :=
      { hmac := fun _ _ => List.replicate 32 65, length_hmac := by simp, hash := id,
        b64Encode := id, b64Decode := some } }

/-- The client draws the nonce `n`. -/
def letterNodes : Nodes :=
  oneNode.withScram (scramClient letterEnv.scram (fun _ => ascii "n") fun _ => [])

/-- A server that sends these messages after AuthenticationSASL, whose header has been read. -/
def serverOf (msgs : List AuthMessage) : AuthState where
  frontend := readyFrontend
  backend _ :=
    { input := saslRequest.payload ++ (msgs.flatMap AuthMessage.wire ++ []), sent := [],
      codes := [10], authKind := 0, pwdSize := 0, password := [], passwordType := .unknown }

/-- A server that goes through the whole exchange is authenticated. -/
theorem verified_iff_two_answers_letters :
    saslRequest.kind = authReqSasl ∧ authenticationOk.kind = authReqOk ∧
    (∀ m ∈ [challenge, finalMessage], m.kind ≠ authReqOk) ∧
    ∃ s₁,
      authenticateAtMain letterEnv letterNodes (authenticateFrontendScram letterEnv (some 0) false)
        0 (serverOf [challenge, finalMessage, authenticationOk]) = .ok () s₁ ∧
      (doScram letterEnv letterNodes 0 (saslRequest.payload.length + 8) (ascii "secret")).returns
        (serverOf [challenge, finalMessage, authenticationOk]) ∧
      ∃ ex : Exchange, exchangeAfter letterNodes s₁.frontend.username (ascii "secret") none
          [saslRequest, challenge, finalMessage] = .ok (some ex) ∧ (true, true) ∈ ex.reports := by
  refine ⟨by decide, by decide, by decide, ?_⟩
  have hrun : (doScram letterEnv letterNodes 0 (saslRequest.payload.length + 8)
      (ascii "secret")).returns (serverOf [challenge, finalMessage, authenticationOk]) := by
    decide +kernel
  obtain ⟨_, s₁, hclient⟩ : (authenticateAtMain letterEnv letterNodes (authenticateFrontendScram
      letterEnv (some 0) false) 0).returns
        (serverOf [challenge, finalMessage, authenticationOk]) := by
    decide +kernel
  have hboth := verified_iff_two_answers letterEnv oneNode (fun _ => ascii "n")
    (fun _ => []) (ascii "secret") (show saslRequest.kind = authReqSasl by decide)
    (show authenticationOk.kind = authReqOk by decide)
    (show ∀ m ∈ [challenge, finalMessage], m.kind ≠ authReqOk by decide) rfl hclient
  exact ⟨s₁, hclient, hrun, hboth.2.2.2 (.inr (by decide)) hrun⟩

/-- **A server that does not know the password is let through.**  It sends AuthenticationOk in
place of a challenge; `do_SCRAM` returns, and nothing has been verified. -/
theorem ok_without_challenge :
    (doScram letterEnv letterNodes 0 (saslRequest.payload.length + 8) (ascii "secret")).returns
      (serverOf [authenticationOk]) ∧
    ∃ ex : Exchange, exchangeAfter letterNodes (ascii "alice") (ascii "secret") none [saslRequest] =
      .ok (some ex) ∧ ex.state.phase = .nonceSent ∧ ex.reports = [(false, false)] := by
  refine ⟨by decide +kernel, _, rfl, ?_, ?_⟩
  · rfl
  · rfl

/-! ## The list of mechanisms -/

/-- The names a payload lists: the strings in front of the first empty one. -/
def mechanismNames (payload : Bytes) : List Bytes := (payload.splitOn 0).takeWhile (· ≠ [])

/-- An empty name, with its NUL, closes the list. -/
def HasClosingName (payload : Bytes) : Prop := [] ∈ (payload.splitOn 0).dropLast

/-- The loop has ended inside of the payload, with SCRAM-SHA-256 selected exactly if it is one of
the names. -/
def SelectsFrom (names : List Bytes) (selected : Except Stop FeScramState) : Prop :=
  selected ≠ .error .lost ∧ ((∃ st, selected = .ok st) ↔ scramSha256Name ∈ names)

section Mechanisms

variable {name rest : Bytes} (username password : Bytes)

theorem mechanismNames_name (h : 0 ∉ name) :
    mechanismNames (name ++ 0 :: rest) = if name = [] then [] else name :: mechanismNames rest := by
  rw [mechanismNames, List.splitOn_append_cons_self_of_not_mem h, List.takeWhile_cons]
  by_cases hname : name = [] <;> simp [hname, mechanismNames]

theorem hasClosingName_name (h : 0 ∉ name) :
    HasClosingName (name ++ 0 :: rest) ↔ name = [] ∨ HasClosingName rest := by
  rw [HasClosingName, List.splitOn_append_cons_self_of_not_mem h,
    List.dropLast_cons_of_ne_nil (List.splitOn_ne_nil _ _), List.mem_cons, HasClosingName, eq_comm]

@[simp] theorem mechanismNames_closing : mechanismNames (0 :: rest) = [] := by
  simp [mechanismNames, List.splitOn_cons_eq_if_modifyHead]

@[simp] theorem hasClosingName_closing : HasClosingName (0 :: rest) := by
  simp [HasClosingName, List.splitOn_cons_eq_if_modifyHead, List.dropLast_cons_of_ne_nil]

theorem mechanismNames_cons_ne_nil {c : UInt8} (hc : c ≠ 0) : mechanismNames (c :: rest) ≠ [] := by
  obtain ⟨head, tail, h⟩ := List.exists_cons_of_ne_nil (List.splitOn_ne_nil 0 rest)
  simp [mechanismNames, List.splitOn_cons_eq_if_modifyHead, hc, h]

/-- Once the mechanism is selected, the loop ends exactly if it is at the closing name. -/
theorem selectsFrom_selected (n : Nat) (st : FeScramState) (names : List Bytes) :
    SelectsFrom (scramSha256Name :: names)
        (selectMechanism username password (n + 1) (some st) rest) ↔
      HasClosingName rest ∧ mechanismNames rest = [] := by
  cases rest with
  | nil => simp [SelectsFrom, selectMechanism, HasClosingName]
  | cons c rest =>
    by_cases hc : c = 0
    · simp [SelectsFrom, selectMechanism, hc]
    · simp [SelectsFrom, selectMechanism, hc, mechanismNames_cons_ne_nil hc]

theorem selectMechanism_cons {c : UInt8} (hc : c ≠ 0) (n : Nat) :
    selectMechanism username password (n + 1) none (c :: rest) =
      if cstr (c :: rest) = scramSha256Name then
        if password.headD 0 = 0 then .error (.ereport ⟨"password not found", ""⟩)
        else selectMechanism username password n (some (pgFeScramInit username password))
          (nextName (c :: rest))
      else selectMechanism username password n none (nextName (c :: rest)) := by
  rw [selectMechanism, if_neg hc, if_neg (by simp)]
  by_cases hp : password.headD 0 = 0 <;> simp only [ereportIf, hp, if_true, if_false] <;> rfl

/-- When the loop selects from the names that the message lists. -/
theorem selectsFrom_selectMechanism (n : Nat) (memory : Bytes) (hn : memory.length < n) :
    SelectsFrom (mechanismNames memory) (selectMechanism username password n none memory) ↔
      HasClosingName memory ∧ scramSha256Name ∉ (mechanismNames memory).dropLast ∧
        (scramSha256Name ∈ mechanismNames memory → password.headD 0 ≠ 0) := by
  induction n generalizing memory with
  | zero => cases hn
  | succ n ih =>
    rcases memory with - | ⟨c, memory⟩
    · simp [SelectsFrom, selectMechanism, HasClosingName]
    by_cases hc : c = 0
    · simp [SelectsFrom, selectMechanism, hc]
    obtain ⟨n, rfl⟩ : ∃ k, n = k + 1 := ⟨n - 1, by simp at hn; omega⟩
    rw [selectMechanism_cons _ _ hc]
    by_cases h0 : 0 ∈ c :: memory
    · obtain ⟨name, rest, heq, hname⟩ := List.eq_append_cons_of_mem h0
      have hnil : name ≠ [] := by
        rintro rfl
        exact hc (List.cons.inj heq).1
      have hcstr : cstr (name ++ 0 :: rest) = name := by rw [cstr_append_nul, cstr_eq_self hname]
      have hnext : nextName (name ++ 0 :: rest) = rest := by simp [nextName, hcstr]
      have hrest : rest.length < n + 1 := by
        rw [heq, List.length_append, List.length_cons] at hn
        omega
      rw [heq, hnext, hcstr, mechanismNames_name hname, hasClosingName_name hname, if_neg hnil,
        or_iff_right hnil]
      by_cases hscram : name = scramSha256Name
      · rw [if_pos hscram, hscram]
        by_cases hp : password.headD 0 = 0
        · simp only [hp]
          simp [SelectsFrom]
        · rw [if_neg hp, selectsFrom_selected]
          simp only [ne_eq, hp, not_false_eq_true, implies_true, and_true]
          cases mechanismNames rest <;> simp
      · rw [if_neg hscram]
        have hlast : scramSha256Name ∉ (name :: mechanismNames rest).dropLast ↔
            scramSha256Name ∉ (mechanismNames rest).dropLast := by
          cases mechanismNames rest <;> simp [Ne.symm hscram]
        simpa [SelectsFrom, Ne.symm hscram, hlast] using ih rest hrest
    · have hnames : mechanismNames (c :: memory) = [c :: memory] := by
        simp [mechanismNames, List.splitOn_eq_singleton h0]
      have hnext : nextName (c :: memory) = [] := by simp [nextName, cstr_eq_self h0]
      simp only [hnames, hnext, cstr_eq_self h0, SelectsFrom, selectMechanism, HasClosingName,
        List.splitOn_eq_singleton h0]
      split_ifs <;> simp [*]

/-- **The selection ends inside of the payload and selects what is listed exactly if** the list is
closed, no name follows SCRAM-SHA-256, and there is a password for it. -/
theorem selection_ends_iff (payload : Bytes) :
    SelectsFrom (mechanismNames payload) (initialMechanism [] payload username password) ↔
      HasClosingName payload ∧ scramSha256Name ∉ (mechanismNames payload).dropLast ∧
        (scramSha256Name ∈ mechanismNames payload → password.headD 0 ≠ 0) := by
  rw [initialMechanism, List.append_nil]
  exact selectsFrom_selectMechanism username password _ payload (Nat.lt_succ_self _)

end Mechanisms

/-- A server that offers SCRAM-SHA-256 and one more mechanism behind it: the loop does not end. -/
theorem second_mechanism_hangs :
    mechanismNames (scramSha256Name ++ [0, 88, 0, 0]) = [scramSha256Name, [88]] ∧
    HasClosingName (scramSha256Name ++ [0, 88, 0, 0]) ∧
    initialMechanism [] (scramSha256Name ++ [0, 88, 0, 0]) (ascii "alice") (ascii "secret") =
      .error .lost :=
  ⟨by decide, by unfold HasClosingName; decide, rfl⟩

end PgBalancer.Auth
